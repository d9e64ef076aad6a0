import AnomalyWindows.Proofs.RunSetup

/-!
Runs in two worlds that are alike. What a run comes to, and what it does to its world, depends on
nothing but the answers of the surroundings: where these are the same, so are the results, and the
worlds stay alike. Faults of detectors need not be the same, for a run tells them only as causes.
-/

namespace AnomalyWindows.Proofs.RunViews

open Calendar
open AnomalyWindows.Run
open AnomalyWindows.Proofs.RunVerdict AnomalyWindows.Proofs.RunSetup

variable {σ τ α β γ δ : Type}

/-- Two results are alike: their values are, or their faults. -/
inductive Coupled (P : α → β → Prop) (E : Fault → Fault → Prop) :
    Except Fault α → Except Fault β → Prop
  | ok {x : α} {y : β} (h : P x y) : Coupled P E (.ok x) (.ok y)
  | error {f g : Fault} (h : E f g) : Coupled P E (.error f) (.error g)

theorem coupled_of_imp {P : α → β → Prop} {E E' : Fault → Fault → Prop} (hE : ∀ f g, E f g → E' f g)
    {r : Except Fault α} {r' : Except Fault β} (h : Coupled P E r r') : Coupled P E' r r' := by
  cases h with
  | ok h => exact .ok h
  | error h => exact .error (hE _ _ h)

theorem coupled_eq_iff {r r' : Except Fault α} : Coupled Eq Eq r r' ↔ r = r' := by
  constructor
  · rintro (rfl | rfl) <;> rfl
  · rintro rfl
    cases r with
    | error fault => exact .error rfl
    | ok x => exact .ok rfl

/-- In worlds that are alike two actions come to results that are, and leave such worlds. -/
def Couples (R : τ → σ → Prop) (P : α → β → Prop) (E : Fault → Fault → Prop) (a : Act τ α)
    (b : Act σ β) : Prop :=
  ∀ t s, R t s → Coupled P E (a.apply t).1 (b.apply s).1 ∧ R (a.apply t).2 (b.apply s).2

section Couples

variable {R : τ → σ → Prop} {P : α → β → Prop} {Q : γ → δ → Prop} {E E' : Fault → Fault → Prop}

theorem couples_pure {x : α} {y : β} (h : P x y) : Couples R P E (pure x) (pure y) :=
  fun _ _ hworlds => ⟨.ok h, hworlds⟩

theorem couples_throw {f g : Fault} (h : E f g) : Couples R P E (throw f) (throw g) :=
  fun _ _ hworlds => ⟨.error h, hworlds⟩

theorem couples_ofResult (hE : ∀ f, E f f) (result : Except Fault α) :
    Couples R Eq E (Act.ofResult result) (Act.ofResult result) := by
  intro t s hworlds
  refine ⟨?_, hworlds⟩
  cases result with
  | error fault => exact .error (hE fault)
  | ok x => exact .ok rfl

theorem couples_bind {a : Act τ α} {b : Act σ β} {f : α → Act τ γ} {g : β → Act σ δ}
    (hab : Couples R P E a b) (hfg : ∀ x y, P x y → Couples R Q E (f x) (g y)) :
    Couples R Q E (a >>= f) (b >>= g) := by
  intro t s hworlds
  have hfirst := hab t s hworlds
  rw [Act.apply_bind, Act.apply_bind]
  generalize a.apply t = first at hfirst
  generalize b.apply s = first' at hfirst
  obtain ⟨r, t'⟩ := first
  obtain ⟨r', s'⟩ := first'
  obtain ⟨hresults, hbehind⟩ := hfirst
  cases hresults with
  | ok h => exact hfg _ _ h t' s' hbehind
  | error h => exact ⟨.error h, hbehind⟩

theorem couples_bind_eq {a : Act τ α} {b : Act σ α} {f : α → Act τ γ} {g : α → Act σ δ}
    (hab : Couples R Eq E a b) (hfg : ∀ x, Couples R Q E (f x) (g x)) :
    Couples R Q E (a >>= f) (b >>= g) :=
  couples_bind hab fun x _ hxy => hxy ▸ hfg x

theorem couples_ite (c : Prop) [Decidable c] {a a' : Act τ α} {b b' : Act σ β}
    (h : Couples R P E a b) (h' : Couples R P E a' b') :
    Couples R P E (if c then a else a') (if c then b else b') := by
  split
  · exact h
  · exact h'

theorem couples_attempt {a : Act τ α} {b : Act σ β} (h : Couples R P E a b) :
    Couples R (Coupled P E) E' a.attempt b.attempt := by
  intro t s hworlds
  obtain ⟨hresults, hbehind⟩ := h t s hworlds
  exact ⟨.ok hresults, hbehind⟩

theorem couples_of_imp {a : Act τ α} {b : Act σ β} (hE : ∀ f g, E f g → E' f g)
    (h : Couples R P E a b) : Couples R P E' a b := by
  intro t s hworlds
  obtain ⟨hresults, hbehind⟩ := h t s hworlds
  exact ⟨coupled_of_imp hE hresults, hbehind⟩

theorem couples_of_eq {a : Act τ α} {b : Act σ β} (hE : ∀ f, E f f) (h : Couples R P Eq a b) :
    Couples R P E a b := by
  refine couples_of_imp ?_ h
  rintro f _ rfl
  exact hE f

/-- Worlds with one log, alike but for that. -/
def OnLogged (R : τ → σ → Prop) (l : Logged τ) (l' : Logged σ) : Prop :=
  R l.world l'.world ∧ l.log = l'.log

theorem couples_outside {a : Act τ α} {b : Act σ β} (h : Couples R P E a b) :
    Couples (OnLogged R) P E (Logged.outside a) (Logged.outside b) := by
  intro l l' hworlds
  obtain ⟨hresults, hbehind⟩ := h _ _ hworlds.1
  exact ⟨hresults, hbehind, hworlds.2⟩

theorem couples_notes (entries : List LogEntry) :
    Couples (OnLogged R) Eq E (Logged.notes entries) (Logged.notes entries) :=
  fun _ _ hworlds => ⟨.ok rfl, hworlds.1, congrArg (entries.reverse ++ ·) hworlds.2⟩

theorem couples_note (entry : LogEntry) :
    Couples (OnLogged R) Eq E (Logged.note entry) (Logged.note entry) :=
  couples_notes [entry]

theorem couples_unlogged {a : Act (Logged τ) α} {b : Act (Logged σ) β}
    (h : Couples (OnLogged R) P E a b) : Couples R P E (Logged.unlogged a) (Logged.unlogged b) := by
  intro t s hworlds
  obtain ⟨hresults, hbehind, -⟩ := h { world := t } { world := s } ⟨hworlds, rfl⟩
  exact ⟨hresults, hbehind⟩

end Couples

/-- The answers of two surroundings are alike, but for the faults of detectors. -/
structure Alongside (R : τ → σ → Prop) (D : Fault → Fault → Prop) (around' : Surroundings τ)
    (around : Surroundings σ) : Prop where
  metric : ∀ id, Couples R Eq Eq (around'.metric id) (around.metric id)
  dataset : ∀ name, Couples R Eq Eq (around'.dataset name) (around.dataset name)
  series : ∀ slice, Couples R Eq Eq (around'.series slice) (around.series slice)
  detectors : around'.detectors = around.detectors
  detect : ∀ name w urn, Couples R Eq D (around'.detect name w urn) (around.detect name w urn)

/-- Faults of detectors that leave the same in the log. -/
structure Interchangeable (D : Fault → Fault → Prop) : Prop where
  refl : ∀ f, D f f
  entry : ∀ f g, D f g → ∀ w, outcomeEntry w (.error f) = outcomeEntry w (.error g)

/-- Faults of runs that are the same but for the faults of detectors that they tell as causes. -/
inductive SameButCauses (D : Fault → Fault → Prop) : Fault → Fault → Prop
  | same (f : Fault) : SameButCauses D f f
  | aborted (a : Abort) {f g : Option Fault} (h : Option.Rel D f g) :
      SameButCauses D (.aborted a f) (.aborted a g)
  | failed (failure : Failure) {f g : Option Fault} (h : Option.Rel D f g) :
      SameButCauses D (.failed failure f) (.failed failure g)

theorem eq_of_rel_eq {f g : Option Fault} (h : Option.Rel Eq f g) : f = g := by
  cases h with
  | some h => rw [h]
  | none => rfl

theorem eq_of_sameButCauses_eq {f g : Fault} (h : SameButCauses Eq f g) : f = g := by
  cases h with
  | same => rfl
  | aborted a h => rw [eq_of_rel_eq h]
  | failed failure h => rw [eq_of_rel_eq h]

/-- Progress through windows that is the same but for the last fault. -/
structure SameProgress (D : Fault → Fault → Prop) (p q : Progress) : Prop where
  succeeded : p.succeeded = q.succeeded
  findings : p.findings = q.findings
  lastFault : Option.Rel D p.lastFault q.lastFault

section Run

variable {R : τ → σ → Prop} {D : Fault → Fault → Prop}
variable {around' : Surroundings τ} {around : Surroundings σ}
variable (halike : Alongside R D around' around)

section SetUp

include halike

theorem couples_lookUp (d : Detection) :
    Couples (OnLogged R) Eq Eq (lookUp around' d) (lookUp around d) := by
  have hresult {α : Type} (result : Except Fault α) :
      Couples (OnLogged R) Eq Eq (Act.ofResult result) (Act.ofResult result) :=
    couples_ofResult (fun _ => rfl) result
  rw [lookUp, lookUp, halike.detectors]
  refine couples_bind_eq (hresult _) fun entity => ?_
  refine couples_bind_eq (couples_outside (halike.metric entity.id)) fun metric => ?_
  refine couples_bind_eq (hresult _) fun metric => ?_
  refine couples_bind_eq (couples_outside (halike.dataset metric.dataset)) fun dataset => ?_
  refine couples_bind_eq (hresult _) fun dataset => couples_ite _ ?_ (couples_pure rfl)
  exact couples_bind_eq (couples_throw rfl) fun (_ : PUnit) => couples_pure rfl

omit halike in
theorem couples_settle [ZoneDatabase] (d : Detection) (interval : Interval) (s : Scheduling)
    (parts : Parts) :
    Couples (OnLogged R) Eq Eq (settle d interval s parts) (settle d interval s parts) := by
  have hresult {α : Type} (result : Except Fault α) :
      Couples (OnLogged R) Eq Eq (Act.ofResult result) (Act.ofResult result) :=
    couples_ofResult (fun _ => rfl) result
  refine couples_bind_eq (hresult _) fun policy => ?_
  refine couples_bind_eq (couples_notes _) fun _ => ?_
  refine couples_bind_eq (hresult _) fun _ => ?_
  exact couples_bind_eq (hresult _) fun _ => couples_pure rfl

theorem couples_prepare [ZoneDatabase] (d : Detection) (interval : Interval) (s : Scheduling) :
    Couples (OnLogged R) Eq Eq (prepare around' d interval s) (prepare around d interval s) := by
  rw [prepare_eq, prepare_eq]
  exact couples_bind_eq (couples_lookUp halike d) fun parts => couples_settle d interval s parts

theorem couples_warmUp (r : Run) :
    Couples (OnLogged R) Eq Eq (r.warmUp around') (r.warmUp around) := by
  refine couples_ite _ (couples_pure rfl) ?_
  refine couples_bind_eq (couples_ofResult (fun _ => rfl) _) fun slice => ?_
  exact couples_bind_eq (couples_outside (halike.series slice)) fun _ => couples_pure rfl

theorem couples_resolve [ZoneDatabase] (interval : Interval) (metric : Int) (filters : Filters)
    (dataset : Option Dataset) :
    Couples R Eq Eq (Watermark.resolve around' interval metric filters dataset)
      (Watermark.resolve around interval metric filters dataset) := by
  cases dataset with
  | none => exact couples_pure rfl
  | some dataset =>
      refine couples_bind_eq (halike.series _) fun points => ?_
      cases points.getLast? with
      | none => exact couples_pure rfl
      | some last =>
          refine couples_bind_eq (couples_ofResult (fun _ => rfl) _) fun _ => ?_
          exact couples_pure rfl

theorem couples_conclude [ZoneDatabase] (r : Run) {p q : Progress}
    (h : p.findings = q.findings) :
    Couples (OnLogged R) Eq Eq (conclude around' r p) (conclude around r q) := by
  rw [conclude, conclude, h]
  refine couples_bind_eq (couples_ofResult (fun _ => rfl) _) fun anomalies => ?_
  refine couples_bind_eq (couples_outside (couples_resolve halike _ _ _ _)) fun watermark => ?_
  refine couples_bind_eq (couples_notes _) fun _ => ?_
  exact couples_bind_eq (couples_notes _) fun _ => couples_pure rfl

end SetUp

variable (hD : Interchangeable D)
include hD

theorem coupled_answered {r r' : Except Fault (Option (List Finding))} (h : Coupled Eq D r r') :
    Coupled Eq D (answered r) (answered r') := by
  cases h with
  | error h => exact .error h
  | ok h =>
      subst h
      rename_i found
      cases found with
      | none => exact .error (hD.refl _)
      | some found => exact .ok rfl

theorem outcomeEntry_of_coupled {r r' : Except Fault (List Finding)} (h : Coupled Eq D r r')
    (w : WindowRun) : outcomeEntry w r = outcomeEntry w r' := by
  cases h with
  | ok h => rw [h]
  | error h => exact hD.entry _ _ h w

omit hD in
theorem sameProgress_after {r r' : Except Fault (List Finding)} (h : Coupled Eq D r r')
    {p q : Progress} (hpq : SameProgress D p q) : SameProgress D (p.after r) (q.after r') := by
  obtain ⟨hsucceeded, hfindings, hfault⟩ := hpq
  cases h with
  | ok h =>
      subst h
      exact ⟨congrArg (· + 1) hsucceeded, congrArg (· ++ _) hfindings, hfault⟩
  | error h => exact ⟨hsucceeded, hfindings, .some h⟩

include halike

theorem couples_tryWindow {E : Fault → Fault → Prop} (r : Run) (w : WindowRun) :
    Couples (OnLogged R) (Coupled Eq D) E (tryWindow around' r w) (tryWindow around r w) := by
  refine couples_bind_eq (couples_note _) fun _ => ?_
  refine couples_bind (couples_attempt (couples_outside (halike.detect _ _ _))) fun a a' h => ?_
  have hresult := coupled_answered hD h
  dsimp only
  rw [outcomeEntry_of_coupled hD hresult]
  exact couples_bind_eq (couples_note _) fun _ => couples_pure hresult

/-- Two runs stay alike from window to window: they have as many successes and the same findings, so
both are given up before the same window. -/
theorem couples_tryWindows (r : Run) (total index : Nat) {p q : Progress}
    (hpq : SameProgress D p q) (ws : List Window) :
    Couples (OnLogged R) (SameProgress D) (SameButCauses D) (tryWindows around' r total index p ws)
      (tryWindows around r total index q ws) := by
  induction ws generalizing index p q with
  | nil => exact couples_pure hpq
  | cons w rest ih =>
      have hgives : r.givesUp index p = r.givesUp index q := by
        rw [givesUp, givesUp, hpq.succeeded]
      rw [tryWindows, tryWindows, hgives]
      refine couples_ite _ (couples_bind_eq (couples_throw (.aborted _ hpq.lastFault))
        fun (_ : PUnit) => ?_) ?_
      · refine couples_bind (couples_tryWindow halike hD r _) fun a a' h => ?_
        exact ih _ (sameProgress_after h hpq)
      · refine couples_bind (couples_tryWindow halike hD r _) fun a a' h => ?_
        exact ih _ (sameProgress_after h hpq)

theorem couples_askWindows [ZoneDatabase] (r : Run) :
    Couples (OnLogged R) (SameProgress D) (SameButCauses D) (askWindows around' r)
      (askWindows around r) := by
  have hwarm : Couples (OnLogged R) Eq (SameButCauses D) (r.warmUp around') (r.warmUp around) :=
    couples_of_eq .same (couples_warmUp halike r)
  refine couples_bind_eq hwarm fun _ => couples_bind_eq (couples_notes _) fun _ => ?_
  refine couples_bind (couples_tryWindows halike hD r _ _ ⟨rfl, rfl, .none⟩ _) fun p q hpq => ?_
  rw [hpq.succeeded]
  refine couples_ite _ ?_ (couples_pure hpq)
  exact couples_bind_eq (couples_throw (.failed _ hpq.lastFault)) fun (_ : PUnit) =>
    couples_pure hpq

theorem couples_run [ZoneDatabase] (r : Run) :
    Couples (OnLogged R) Eq (SameButCauses D) (r.run around') (r.run around) := by
  rw [run_eq, run_eq]
  refine couples_bind (couples_askWindows halike hD r) fun p q hpq => ?_
  exact couples_of_eq .same (couples_conclude halike r hpq.findings)

theorem couples_whole [ZoneDatabase] (d : Detection) (interval : Interval) (s : Scheduling) :
    Couples (OnLogged R) Eq (SameButCauses D) (Run.whole around' s d interval)
      (Run.whole around s d interval) := by
  have hprepare : Couples (OnLogged R) Eq (SameButCauses D) (prepare around' d interval s)
      (prepare around d interval s) :=
    couples_of_eq .same (couples_prepare halike d interval s)
  exact couples_bind_eq hprepare fun r => couples_run halike hD r

end Run

variable {view : τ → σ}

/-- An action comes to what another one comes to, and does the same to the part that is seen. -/
def Follows (view : τ → σ) (a : Act τ α) (b : Act σ α) : Prop :=
  ∀ t, b.apply (view t) = ((a.apply t).1, view (a.apply t).2)

theorem follows_iff_couples {a : Act τ α} {b : Act σ α} :
    Follows view a b ↔ Couples (fun t s => s = view t) Eq Eq a b := by
  constructor
  · rintro h t _ rfl
    rw [h t]
    exact ⟨coupled_eq_iff.mpr rfl, rfl⟩
  · intro h t
    obtain ⟨hresults, hbehind⟩ := h t _ rfl
    exact Prod.ext (coupled_eq_iff.mp hresults).symm hbehind

theorem follows_pure (x : α) : Follows view (pure x) (pure x) :=
  fun _ => rfl

theorem follows_ofResult (result : Except Fault α) :
    Follows view (Act.ofResult result) (Act.ofResult result) :=
  fun _ => rfl

theorem follows_bind {a : Act τ α} {b : Act σ α} {f : α → Act τ β} {g : α → Act σ β}
    (hab : Follows view a b) (hfg : ∀ x, Follows view (f x) (g x)) :
    Follows view (a >>= f) (b >>= g) :=
  follows_iff_couples.mpr (couples_bind_eq (follows_iff_couples.mp hab) fun x =>
    follows_iff_couples.mp (hfg x))

structure Shadows (view : τ → σ) (around' : Surroundings τ) (around : Surroundings σ) : Prop where
  metric : ∀ id, Follows view (around'.metric id) (around.metric id)
  dataset : ∀ name, Follows view (around'.dataset name) (around.dataset name)
  series : ∀ slice, Follows view (around'.series slice) (around.series slice)
  detectors : around'.detectors = around.detectors
  detect : ∀ name w urn, Follows view (around'.detect name w urn) (around.detect name w urn)

def logged (view : τ → σ) (l : Logged τ) : Logged σ :=
  ⟨view l.world, l.log⟩

theorem onLogged_iff {l : Logged τ} {l' : Logged σ} :
    OnLogged (fun t s => s = view t) l l' ↔ l' = logged view l := by
  obtain ⟨s, log⟩ := l'
  rw [OnLogged, logged, Logged.mk.injEq]
  exact and_congr_right fun _ => eq_comm

theorem follows_of_couples {a : Act (Logged τ) α} {b : Act (Logged σ) α}
    (h : Couples (OnLogged fun t s => s = view t) Eq Eq a b) : Follows (logged view) a b := by
  refine follows_iff_couples.mpr fun l l' hlogged => ?_
  obtain ⟨hresults, hbehind⟩ := h l l' (onLogged_iff.mpr hlogged)
  exact ⟨hresults, onLogged_iff.mp hbehind⟩

section Shadows

variable {around' : Surroundings τ} {around : Surroundings σ} (hsame : Shadows view around' around)
include hsame

theorem alongside_of_shadows : Alongside (fun t s => s = view t) Eq around' around :=
  ⟨fun id => follows_iff_couples.mp (hsame.metric id),
    fun name => follows_iff_couples.mp (hsame.dataset name),
    fun slice => follows_iff_couples.mp (hsame.series slice), hsame.detectors,
    fun name w urn => follows_iff_couples.mp (hsame.detect name w urn)⟩

theorem follows_prepare [ZoneDatabase] (d : Detection) (interval : Interval) (s : Scheduling) :
    Follows (logged view) (prepare around' d interval s) (prepare around d interval s) :=
  follows_of_couples (couples_prepare (alongside_of_shadows hsame) d interval s)

theorem follows_whole [ZoneDatabase] (d : Detection) (interval : Interval) (s : Scheduling) :
    Follows (logged view) (Run.whole around' s d interval) (Run.whole around s d interval) := by
  have hequal : Interchangeable Eq := ⟨fun _ => rfl, fun f g h w => by rw [h]⟩
  have hwhole := couples_whole (alongside_of_shadows hsame) hequal d interval s
  exact follows_of_couples (couples_of_imp (fun _ _ => eq_of_sameButCauses_eq) hwhole)

end Shadows

end AnomalyWindows.Proofs.RunViews
