import AnomalyWindows.Text.Blank
import AnomalyWindows.Text.Digit

namespace AnomalyWindows.Text

/-- Digits between which single underscores may stand; nothing else. -/
def digitGroups? (digitOf : Char → Option Nat) : List Char → Option (List Nat)
  | [] => none
  | [c] => (digitOf c).map fun d => [d]
  | c :: '_' :: rest => do
    let d ← digitOf c
    let ds ← digitGroups? digitOf rest
    return d :: ds
  | c :: rest => do
    let d ← digitOf c
    let ds ← digitGroups? digitOf rest
    return d :: ds

/-- Whether a sign stands at the head, and the rest. A missing sign counts as plus. -/
def takeSign : List Char → Bool × List Char
  | '-' :: cs => (true, cs)
  | '+' :: cs => (false, cs)
  | cs => (false, cs)

def signed (negative : Bool) (n : Nat) : Int :=
  if negative then -(n : Int) else n

/-- Reads an integer: white space is trimmed, digits of any script count, single underscores may
stand between them, and more than `maxDigits` digits are refused. -/
def integer? (cs : List Char) : Option Int :=
  let (negative, body) := takeSign (trimWith isSpace cs)
  match digitGroups? digit? body with
  | some ds => if ds.length ≤ maxDigits then some (signed negative (ofDigits ds)) else none
  | none => none

end AnomalyWindows.Text
