import AnomalyWindows.Text.Query

namespace AnomalyWindows

open Text

structure Address where
  path : List Char
  query : List (String × String) := []
  deriving DecidableEq, Repr

namespace Address

def joinParts : List (List Char) → List Char
  | [] => []
  | [part] => part
  | part :: rest => part ++ '/' :: joinParts rest

/-- One more part of a path, the last one first. The root has nothing above it. -/
def follow (done : List (List Char)) (part : List Char) : List (List Char) :=
  if part = ['.'] then done
  else if part = ['.', '.'] then if done = [[]] then done else done.tail
  else part :: done

def withoutSteps (path : List Char) : List Char :=
  joinParts ((splitAt '/' path).foldl follow []).reverse

def decodedPath (path : List Char) : List Char :=
  percentDecoded (percentDecoded (withoutSteps path))

/-- Reads an address. What stands behind a number sign does not count. -/
def ofText (text : String) : Address :=
  let cs := text.toList.takeWhile (· != '\x23')
  ⟨decodedPath (beforeQuery cs), queryOf cs⟩

end Address

end AnomalyWindows
