import AnomalyWindows.Yaml.Meaning
import AnomalyWindows.Yaml.Node

namespace AnomalyWindows.Yaml

/-- Data, or a fault with its level below the collection that is being read. -/
abbrev Made := Except (Nat × Fault) Data

/-- Of two results the fault on the higher level, the first one if they are level. -/
def bothOf {α β γ : Type} (f : α → β → γ) (a : Except (Nat × Fault) α)
    (b : Except (Nat × Fault) β) : Except (Nat × Fault) γ :=
  match a, b with
  | .ok a, .ok b => .ok (f a b)
  | .ok _, .error q => .error q
  | .error p, .ok _ => .error p
  | .error p, .error q => if q.1 < p.1 then .error q else .error p

def allOf : List Made → Except (Nat × Fault) (List Data)
  | [] => .ok []
  | a :: rest => bothOf List.cons a (allOf rest)

def mapOf : List (Made × Made) → Except (Nat × Fault) (List (Data × Data))
  | [] => .ok []
  | (k, v) :: rest => bothOf List.cons (bothOf Prod.mk k v) (mapOf rest)

/-- The content of a collection lies one level further down. -/
def inside {α : Type} : Except (Nat × Fault) α → Except (Nat × Fault) α
  | .ok a => .ok a
  | .error (level, fault) => .error (level + 1, fault)

def standardTag (name : String) : Option String :=
  some ("tag:yaml.org,2002:" ++ name)

/-- The kind of a scalar node. A tag of no known kind is a fault. -/
def kindOf (tag : Option String) (isPlain : Bool) (text : String) : Except Fault ScalarKind :=
  match tag with
  | none => .ok (if isPlain then .ofPlain text else .text)
  | some tag =>
    match ScalarKind.ofTag? tag with
    | some kind => .ok kind
    | none => .error .notYaml

def isKind (kind : ScalarKind) : Node → Bool
  | .scalar tag isPlain text =>
    match kindOf tag isPlain text with
    | .ok k => k == kind
    | .error _ => false
  | _ => false

def scalarMade (tag : Option String) (isPlain : Bool) (text : String) : Made :=
  match kindOf tag isPlain text with
  | .error fault => .error (0, fault)
  | .ok kind =>
    match valueOf kind text with
    | .ok data => .ok data
    | .error fault => .error (0, fault)

mutual

def made : Node → Made
  | .scalar tag isPlain text => scalarMade tag isPlain text
  | .sequence tag items =>
    if tag = none ∨ tag = standardTag "seq" then inside ((allOf (madeItems items)).map .list)
    else if tag = standardTag "omap" ∨ tag = standardTag "pairs" then
      inside ((allOf (madePairs items)).map .list)
    else if tag = standardTag "map" ∨ tag = standardTag "set" then .error (1, .notYaml)
    else .error (0, .notYaml)
  | .mapping tag entries =>
    let content : Except (Nat × Fault) (List (Data × Data)) :=
      match madeEntries entries with
      | .ok (merged, own) =>
        (mapOf (merged ++ own)).map fun all =>
          all.foldl (fun done (k, v) => Data.put k v done) []
      | .error fault => .error (0, fault)
    if tag = none ∨ tag = standardTag "map" then inside (content.map .map)
    else if tag = standardTag "set" then inside (content.map fun all => .list (all.map (·.1)))
    else if tag = standardTag "seq" ∨ tag = standardTag "omap" ∨ tag = standardTag "pairs" then
      .error (1, .notYaml)
    else .error (0, .notYaml)

def madeItems : List Node → List Made
  | [] => []
  | n :: rest => made n :: madeItems rest

/-- The items of a sequence whose items are mappings of one entry. -/
def madePairs : List Node → List Made
  | [] => []
  | n :: rest => madePair n :: madePairs rest

def madePair : Node → Made
  | .mapping _ [(k, v)] => bothOf .pair (made k) (made v)
  | _ => .error (0, .notYaml)

/-- A key, which must not be a collection. The key of a default value is an ordinary text. -/
def madeKey : Node → Made
  | .scalar tag isPlain text =>
    if isKind .value (.scalar tag isPlain text) then .ok (.text text)
    else scalarMade tag isPlain text
  | _ => .error (0, .notYaml)

/-- The entries of a mapping: those that merge keys bring in, and its own. -/
def madeEntries : List (Node × Node) →
    Except Fault (List (Made × Made) × List (Made × Made))
  | [] => .ok ([], [])
  | (k, v) :: rest =>
    if isKind .merge k then do
      let some brought ← merged v
        | throw .notYaml
      let (merges, own) ← madeEntries rest
      return (brought ++ merges, own)
    else do
      let (merges, own) ← madeEntries rest
      return (merges, (madeKey k, made v) :: own)

/-- The entries that a node under a merge key brings in. Of several mappings the first one counts
most. -/
def merged : Node → Except Fault (Option (List (Made × Made)))
  | .mapping _ entries => do
    let (merges, own) ← madeEntries entries
    return some (merges ++ own)
  | .sequence _ items => mergedItems items
  | .scalar _ _ _ => .ok none

def mergedItems : List Node → Except Fault (Option (List (Made × Made)))
  | [] => .ok (some [])
  | .mapping _ entries :: rest => do
    let (merges, own) ← madeEntries entries
    let some later ← mergedItems rest
      | return none
    return some (later ++ merges ++ own)
  | _ :: _ => .ok none

end

def isPrintable (c : Char) : Bool :=
  let n := c.toNat
  n == 9 || n == 10 || n == 13 || (0x20 ≤ n && n ≤ 0x7e) || n == 0x85 ||
    (0xa0 ≤ n && n ≤ 0xd7ff) || (0xe000 ≤ n && n ≤ 0xfffd) || 0x10000 ≤ n

def lineFeeds : List Char → List Char
  | '\r' :: '\n' :: cs => '\n' :: lineFeeds cs
  | '\r' :: cs => '\n' :: lineFeeds cs
  | c :: cs => c :: lineFeeds cs
  | [] => []

/-- Reads a text that holds one document; null if it holds none. -/
def ofText (text : String) : Except Fault Data := do
  let cs := lineFeeds text.toList
  if !cs.all isPrintable then throw .notYaml
  match ← Node.ofTokens? (← tokens cs) with
  | none => return .null
  | some n =>
    match made n with
    | .ok data => return data
    | .error (_, fault) => throw fault

end AnomalyWindows.Yaml
