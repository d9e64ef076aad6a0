import AnomalyWindows.Proofs.RunStages

namespace AnomalyWindows.Proofs.InquiryOrder

open Calendar
open AnomalyWindows.Run
open AnomalyWindows.Proofs.WindowAnswers AnomalyWindows.Proofs.RunVerdict
open AnomalyWindows.Proofs.RunSetup AnomalyWindows.Proofs.RunFaults
open AnomalyWindows.Proofs.RunStages

variable {σ : Type}

def behind {α : Type} (i : Inquiry) (a : Act σ α) (l : Logged (Traced σ)) : Logged (Traced σ) :=
  ⟨⟨(a.apply l.world.world).2, i :: l.world.record⟩, l.log⟩

instance (r : Run) : Decidable (LooksTooFarBack r) :=
  inferInstanceAs (Decidable (_ ∧ _))

end AnomalyWindows.Proofs.InquiryOrder
