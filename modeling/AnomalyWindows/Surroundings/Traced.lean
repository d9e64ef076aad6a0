import AnomalyWindows.Surroundings

namespace AnomalyWindows

/-- What a run asks its surroundings. -/
inductive Inquiry
  | metric (id : Int)
  | dataset (name : String)
  | series (slice : Slice)
  | detect (detector : String) (window : Window) (urn : String)
  deriving DecidableEq, Repr

/-- A world together with what it has been asked, the last inquiry first. -/
structure Traced (σ : Type) where
  world : σ
  record : List Inquiry := []

namespace Traced

variable {σ α : Type}

def inquiries (t : Traced σ) : List Inquiry :=
  t.record.reverse

def answer (i : Inquiry) (a : Act σ α) : Act (Traced σ) α :=
  Act.ofFunction fun t =>
    let (r, s) := a.apply t.world
    (r, ⟨s, i :: t.record⟩)

theorem answer_eq (i : Inquiry) (a : Act σ α) (t : Traced σ) :
    ((answer i a).apply t).1 = (a.apply t.world).1 ∧
      ((answer i a).apply t).2.world = (a.apply t.world).2 := by
  simp [answer]

end Traced

namespace Surroundings

def traced {σ : Type} (around : Surroundings σ) : Surroundings (Traced σ) where
  metric id := Traced.answer (.metric id) (around.metric id)
  dataset name := Traced.answer (.dataset name) (around.dataset name)
  series slice := Traced.answer (.series slice) (around.series slice)
  detectors := around.detectors
  detect name window urn :=
    Traced.answer (.detect name window urn) (around.detect name window urn)

end Surroundings

end AnomalyWindows
