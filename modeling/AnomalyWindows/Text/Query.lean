import AnomalyWindows.Text.Percent
import AnomalyWindows.Text.Split

namespace AnomalyWindows.Text

/-- A name or a value of a query. A plus stands for a blank. -/
def decodedPart (cs : List Char) : String :=
  String.ofList (percentDecoded (cs.map fun c => if c = '+' then ' ' else c))

/-- The names and values of a query. What has no equals sign is a name with an empty value. -/
def queryEntries (cs : List Char) : List (String × String) :=
  ((splitAt '&' cs).filter (· ≠ [])).map fun part =>
    (decodedPart (part.takeWhile (· != '=')), decodedPart ((part.dropWhile (· != '=')).drop 1))

def beforeQuery (cs : List Char) : List Char :=
  cs.takeWhile (· != '?')

def queryOf (cs : List Char) : List (String × String) :=
  queryEntries ((cs.dropWhile (· != '?')).drop 1)

theorem queryOf_of_not_mem {cs : List Char} (h : '?' ∉ cs) : queryOf cs = [] := by
  have none : cs.dropWhile (· != '?') = [] := by
    induction cs with
    | nil => rfl
    | cons c cs ih =>
      simp only [List.mem_cons, not_or] at h
      simp [Ne.symm h.1, ih h.2]
  simp [queryOf, queryEntries, none, splitAt]

end AnomalyWindows.Text
