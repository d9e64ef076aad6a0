import AnomalyWindows.Data
import AnomalyWindows.Fault

/-!
Records read from plain data. Every field is looked at even if another one is wrong, so that all
problems of a record are found, in the order of its fields.
-/

namespace AnomalyWindows

/-- A value, or all problems that stand in its way. -/
inductive Checked (α : Type)
  | valid (value : α)
  | wrong (problems : List Problem)

namespace Checked

def wrongKind {α : Type} (kind : ProblemKind) : Checked α :=
  .wrong [⟨[], kind⟩]

def map {α β : Type} (f : α → β) : Checked α → Checked β
  | valid a => valid (f a)
  | wrong ps => wrong ps

/-- A function applied to a value; the problems of both add up. -/
def seq {α β : Type} : Checked (α → β) → Checked α → Checked β
  | valid f, valid a => valid (f a)
  | valid _, wrong ps => wrong ps
  | wrong ps, valid _ => wrong ps
  | wrong ps, wrong qs => wrong (ps ++ qs)

instance : Functor Checked where
  map := Checked.map

instance : Applicative Checked where
  pure := valid
  seq f a := Checked.seq f (a ())

/-- The problems seen from the record that holds the value in a field. -/
def inField {α : Type} (name : String) : Checked α → Checked α
  | valid a => valid a
  | wrong ps => wrong (ps.map (Problem.inField name))

def toExcept {α : Type} : Checked α → Except Fault α
  | valid a => .ok a
  | wrong ps => .error (.invalid ps)

@[simp] theorem inField_valid {α : Type} (name : String) (a : α) :
    (valid a).inField name = valid a := rfl

theorem inField_valid_iff {α : Type} {name : String} {checked : Checked α} {a : α} :
    checked.inField name = valid a ↔ checked = valid a := by
  cases checked <;> simp [inField]

theorem map_valid_iff {α β : Type} {f : α → β} {checked : Checked α} {b : β} :
    f <$> checked = valid b ↔ ∃ a, checked = valid a ∧ f a = b := by
  cases checked with
  | valid a =>
    change valid (f a) = valid b ↔ _
    simp
  | wrong problems =>
    change (wrong problems : Checked β) = valid b ↔ _
    simp

theorem seq_valid_iff {α β : Type} {f : Checked (α → β)} {a : Checked α} {b : β} :
    Checked.seq f a = valid b ↔ ∃ g x, f = valid g ∧ a = valid x ∧ g x = b := by
  cases f <;> cases a <;> simp [Checked.seq]

end Checked

abbrev Record := List (Data × Data)

namespace Record

def required {α : Type} (record : Record) (name : String) (read : Data → Checked α) : Checked α :=
  match Data.named? name record with
  | some value => (read value).inField name
  | none => .wrong [⟨[.field name], .missing⟩]

def optional {α : Type} (record : Record) (name : String) (read : Data → Checked α)
    (default : α) : Checked α :=
  match Data.named? name record with
  | some value => (read value).inField name
  | none => .valid default

end Record

def Record.hasNames (r : Record) : Bool :=
  r.all fun entry => match entry.1 with
    | .text _ => true
    | _ => false

def Record.ofEntry : Data → Except Fault Record
  | .map r => if Record.hasNames r then .ok r else .error .wrongKind
  | _ => .error .wrongKind

def Data.record {α : Type} (otherwise : ProblemKind) (read : Record → Checked α) :
    Data → Checked α
  | .map entries => read entries
  | _ => .wrongKind otherwise

def Data.orNull {α : Type} (read : Data → Checked α) : Data → Checked (Option α)
  | .null => .valid none
  | value => (read value).map some

end AnomalyWindows
