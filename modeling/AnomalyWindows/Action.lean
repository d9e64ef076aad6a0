import AnomalyWindows.Fault

namespace AnomalyWindows

/-- An action on a world, with a value or a fault as its result. -/
abbrev Act (σ : Type) := ExceptT Fault (StateM σ)

namespace Act

variable {σ τ α : Type}

def apply (a : Act σ α) (s : σ) : Except Fault α × σ :=
  StateT.run (ExceptT.run a) s

def ofFunction (f : σ → Except Fault α × σ) : Act σ α :=
  ExceptT.mk fun s => f s

def ofResult (r : Except Fault α) : Act σ α :=
  ofFunction fun s => (r, s)

def change (f : σ → σ) : Act σ Unit :=
  ofFunction fun s => (.ok (), f s)

def look (f : σ → α) : Act σ α :=
  ofFunction fun s => (.ok (f s), s)

def attempt (a : Act σ α) : Act σ (Except Fault α) :=
  ofFunction fun s => (.ok (a.apply s).1, (a.apply s).2)

def within (get : τ → σ) (put : σ → τ → τ) (a : Act σ α) : Act τ α :=
  ofFunction fun t =>
    let (r, s) := a.apply (get t)
    (r, put s t)

/-- An action with another one after it, whether it fails or not. The fault of the first one
counts. -/
def andFinally (a : Act σ α) (after : Act σ Unit) : Act σ α :=
  ofFunction fun s =>
    let (r, s) := a.apply s
    match r, after.apply s with
    | .ok _, (.error fault, s) => (.error fault, s)
    | r, (_, s) => (r, s)

@[simp] theorem apply_ofFunction (f : σ → Except Fault α × σ) (s : σ) :
    (ofFunction f).apply s = f s := rfl

@[simp] theorem apply_attempt (a : Act σ α) (s : σ) :
    a.attempt.apply s = (.ok (a.apply s).1, (a.apply s).2) := rfl

@[simp] theorem apply_ofResult (r : Except Fault α) (s : σ) : (ofResult r).apply s = (r, s) := rfl

@[simp] theorem apply_change (f : σ → σ) (s : σ) : (change f).apply s = (.ok (), f s) := rfl

@[simp] theorem apply_look (f : σ → α) (s : σ) : (look f).apply s = (.ok (f s), s) := rfl

@[simp] theorem apply_within (get : τ → σ) (put : σ → τ → τ) (a : Act σ α) (t : τ) :
    (a.within get put).apply t = ((a.apply (get t)).1, put (a.apply (get t)).2 t) := rfl

@[simp] theorem apply_pure (x : α) (s : σ) : (pure x : Act σ α).apply s = (.ok x, s) := rfl

@[simp] theorem apply_throw (fault : Fault) (s : σ) :
    (throw fault : Act σ α).apply s = (.error fault, s) := rfl

theorem apply_ite (c : Prop) [Decidable c] (a b : Act σ α) (s : σ) :
    (if c then a else b).apply s = if c then a.apply s else b.apply s := by
  split <;> rfl

theorem apply_bind {β : Type} (a : Act σ α) (f : α → Act σ β) (s : σ) :
    (a >>= f).apply s =
      match a.apply s with
      | (.ok x, s) => (f x).apply s
      | (.error fault, s) => (.error fault, s) := by
  simp only [apply, ExceptT.run_bind, StateT.run_bind]
  rcases (ExceptT.run a).run s with ⟨_ | _, _⟩ <;> rfl

end Act

end AnomalyWindows
