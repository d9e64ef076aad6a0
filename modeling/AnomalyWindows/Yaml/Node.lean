import AnomalyWindows.Yaml.Lexer

namespace AnomalyWindows.Yaml

inductive Node
  /-- Without a tag a plain scalar takes its meaning from its text, another one is a text. -/
  | scalar (tag : Option String) (isPlain : Bool) (text : String)
  | sequence (tag : Option String) (items : List Node)
  | mapping (tag : Option String) (entries : List (Node × Node))
  deriving Inhabited

namespace Node

def empty : Node := .scalar none true ""

/-- What the reader of nodes goes by: the tokens ahead, the nodes of the anchors so far, and the
meanings of tag handles. -/
structure Source where
  tokens : List Token
  anchors : List (String × Node) := []
  handles : List (String × String) := []

namespace Source

def next (s : Source) : Source := { s with tokens := s.tokens.tail }

def isAt (s : Source) (ts : List Token) : Bool :=
  match s.tokens with
  | t :: _ => ts.contains t
  | [] => false

def fullTag (s : Source) : Option String → String → Except Fault String
  | none, rest => .ok rest
  | some handle, rest =>
    match s.handles.find? fun entry => entry.1 == handle with
    | some (_, start) => .ok (start ++ rest)
    | none => .error .notYaml

/-- Anchor and tag in front of a node, in either order, each of them perhaps missing. -/
def properties (s : Source) : Except Fault (Option String × Option String × Source) :=
  match s.tokens with
  | .anchor a :: .tag h r :: rest => do
    return (some a, some (← s.fullTag h r), { s with tokens := rest })
  | .anchor a :: rest => .ok (some a, none, { s with tokens := rest })
  | .tag h r :: .anchor a :: rest => do
    return (some a, some (← s.fullTag h r), { s with tokens := rest })
  | .tag h r :: rest => do return (none, some (← s.fullTag h r), { s with tokens := rest })
  | _ => .ok (none, none, s)

/-- A node under its anchor. An anchor must not be used twice. -/
def define (s : Source) (anchor : Option String) (n : Node) : Except Fault (Node × Source) :=
  match anchor with
  | none => .ok (n, s)
  | some a =>
    if s.anchors.any fun entry => entry.1 == a then .error .notYaml
    else .ok (n, { s with anchors := (a, n) :: s.anchors })

end Source

/-- The node of a scalar. The tag of a lone exclamation mark leaves the meaning to the text. -/
def ofScalar (tag : Option String) (text : String) (isPlain : Bool) : Node :=
  if tag = some "!" then .scalar none true text else .scalar tag isPlain text

def collectionTag (tag : Option String) : Option String :=
  tag.filter (· != "!")

mutual

/-- A node. `inBlock` tells whether block collections may start here, `bare` whether the items of a
sequence may come without an indentation of their own. -/
def read : Nat → Bool → Bool → Source → Except Fault (Node × Source)
  | 0, _, _, _ => .error .notYaml
  | fuel + 1, inBlock, bare, s =>
    match s.tokens with
    | .alias name :: rest =>
      match s.anchors.find? fun entry => entry.1 == name with
      | some (_, n) => .ok (n, { s with tokens := rest })
      | none => .error .notYaml
    | _ => do
      let (anchor, tag, s) ← s.properties
      let (n, s) ← content fuel inBlock bare anchor.isSome tag s
      s.define anchor n

def content : Nat → Bool → Bool → Bool → Option String → Source → Except Fault (Node × Source)
  | 0, _, _, _, _, _ => .error .notYaml
  | fuel + 1, inBlock, bare, isAnchored, tag, s =>
    let sequence (r : List Node × Source) : Node × Source :=
      (.sequence (collectionTag tag) r.1.reverse, r.2)
    let mapping (r : List (Node × Node) × Source) : Node × Source :=
      (.mapping (collectionTag tag) r.1.reverse, r.2)
    let otherwise : Except Fault (Node × Source) :=
      if isAnchored || tag.isSome then .ok (ofScalar tag "" (tag.isNone || tag == some "!"), s)
      else .error .notYaml
    match s.tokens with
    | .blockEntry :: _ => if bare then (bareItems fuel s []).map sequence else otherwise
    | .scalar text isPlain :: rest =>
      .ok (ofScalar tag text isPlain, { s with tokens := rest })
    | .flowSequenceStart :: rest =>
      (flowItems fuel true { s with tokens := rest } []).map sequence
    | .flowMappingStart :: rest =>
      (flowEntries fuel true { s with tokens := rest } []).map mapping
    | .blockSequenceStart :: rest =>
      if inBlock then (blockItems fuel { s with tokens := rest } []).map sequence else otherwise
    | .blockMappingStart :: rest =>
      if inBlock then (blockEntries fuel { s with tokens := rest } []).map mapping else otherwise
    | _ => otherwise

def readUnless : Nat → Bool → Bool → List Token → Source → Except Fault (Node × Source)
  | 0, _, _, _, _ => .error .notYaml
  | fuel + 1, inBlock, bare, stops, s =>
    if s.isAt stops then .ok (empty, s) else read fuel inBlock bare s

def blockItems : Nat → Source → List Node → Except Fault (List Node × Source)
  | 0, _, _ => .error .notYaml
  | fuel + 1, s, done =>
    match s.tokens with
    | .blockEntry :: rest => do
      let (n, s) ← readUnless fuel true false [.blockEntry, .blockEnd] { s with tokens := rest }
      blockItems fuel s (n :: done)
    | .blockEnd :: rest => .ok (done, { s with tokens := rest })
    | _ => .error .notYaml

def bareItems : Nat → Source → List Node → Except Fault (List Node × Source)
  | 0, _, _ => .error .notYaml
  | fuel + 1, s, done =>
    match s.tokens with
    | .blockEntry :: rest => do
      let (n, s) ← readUnless fuel true false [.blockEntry, .key, .value, .blockEnd]
        { s with tokens := rest }
      bareItems fuel s (n :: done)
    | _ => .ok (done, s)

/-- The entries of a block mapping up to its end. Key or value may be left out. -/
def blockEntries : Nat → Source → List (Node × Node) →
    Except Fault (List (Node × Node) × Source)
  | 0, _, _ => .error .notYaml
  | fuel + 1, s, done =>
    match s.tokens with
    | .key :: rest => do
      let (k, s) ← readUnless fuel true true [.key, .value, .blockEnd] { s with tokens := rest }
      let (v, s) ← blockValue fuel s
      blockEntries fuel s ((k, v) :: done)
    | .blockEnd :: rest => .ok (done, { s with tokens := rest })
    | _ => .error .notYaml

def blockValue : Nat → Source → Except Fault (Node × Source)
  | 0, _ => .error .notYaml
  | fuel + 1, s =>
    match s.tokens with
    | .value :: rest =>
      readUnless fuel true true [.key, .value, .blockEnd] { s with tokens := rest }
    | _ => .ok (empty, s)

/-- The value behind a key of a flow collection, which a closing token may leave out. -/
def flowValue : Nat → Token → Source → Except Fault (Node × Source)
  | 0, _, _ => .error .notYaml
  | fuel + 1, close, s =>
    match s.tokens with
    | .value :: rest => readUnless fuel false false [.flowEntry, close] { s with tokens := rest }
    | _ => .ok (empty, s)

/-- The items of a flow sequence up to its end. A single entry of a mapping may be an item. -/
def flowItems : Nat → Bool → Source → List Node → Except Fault (List Node × Source)
  | 0, _, _, _ => .error .notYaml
  | fuel + 1, isFirst, s, done =>
    if s.isAt [.flowSequenceEnd] then .ok (done, s.next)
    else if !isFirst && !s.isAt [.flowEntry] then .error .notYaml
    else
      let s := if isFirst then s else s.next
      match s.tokens with
      | .flowSequenceEnd :: rest => .ok (done, { s with tokens := rest })
      | .key :: rest => do
        let (k, s) ← readUnless fuel false false [.value, .flowEntry, .flowSequenceEnd]
          { s with tokens := rest }
        let (v, s) ← flowValue fuel .flowSequenceEnd s
        flowItems fuel false s (.mapping none [(k, v)] :: done)
      | _ => do
        let (n, s) ← read fuel false false s
        flowItems fuel false s (n :: done)

/-- The entries of a flow mapping up to its end. What is no key stands for a key without a
value. -/
def flowEntries : Nat → Bool → Source → List (Node × Node) →
    Except Fault (List (Node × Node) × Source)
  | 0, _, _, _ => .error .notYaml
  | fuel + 1, isFirst, s, done =>
    if s.isAt [.flowMappingEnd] then .ok (done, s.next)
    else if !isFirst && !s.isAt [.flowEntry] then .error .notYaml
    else
      let s := if isFirst then s else s.next
      match s.tokens with
      | .flowMappingEnd :: rest => .ok (done, { s with tokens := rest })
      | .key :: rest => do
        let (k, s) ← readUnless fuel false false [.value, .flowEntry, .flowMappingEnd]
          { s with tokens := rest }
        let (v, s) ← flowValue fuel .flowMappingEnd s
        flowEntries fuel false s ((k, v) :: done)
      | _ => do
        let (k, s) ← read fuel false false s
        flowEntries fuel false s ((k, empty) :: done)

end

def usualHandles : List (String × String) :=
  [("!", "!"), ("!!", "tag:yaml.org,2002:")]

/-- The directives in front of a document: at most one version, which has to be 1, and no handle
twice. Gives the handles. -/
def directives : List Token → Bool → List (String × String) →
    Except Fault (List (String × String) × List Token)
  | .directive (.version major) :: rest, versioned, handles =>
    if versioned || major != 1 then .error .notYaml else directives rest true handles
  | .directive (.tag handle start) :: rest, versioned, handles =>
    if handles.any fun entry => entry.1 == handle then .error .notYaml
    else directives rest versioned ((handle, start) :: handles)
  | .directive .other :: rest, versioned, handles => directives rest versioned handles
  | tokens, _, handles => .ok (handles ++ usualHandles, tokens)

def skipEnds : List Token → List Token
  | .documentEnd :: rest => skipEnds rest
  | tokens => tokens

def document (handles : List (String × String)) (isExplicit : Bool) (tokens : List Token) :
    Except Fault (Node × List Token) :=
  let s : Source := { tokens, handles }
  let isEmpty :=
    match tokens with
    | [] | .directive _ :: _ | .documentStart :: _ | .documentEnd :: _ => true
    | _ => false
  if isExplicit && isEmpty then .ok (empty, tokens)
  else (read (4 * tokens.length + 4) true false s).map fun (n, s) => (n, s.tokens)

def ofTokens? (tokens : List Token) : Except Fault (Option Node) := do
  let finish (r : Node × List Token) : Except Fault (Option Node) :=
    match skipEnds r.2 with
    | [] => .ok (some r.1)
    | _ => .error .notYaml
  match tokens with
  | [] => return none
  | .directive _ :: _ | .documentStart :: _ => explicitly tokens finish
  | _ => finish (← document usualHandles false tokens)
where
  explicitly (tokens : List Token) (finish : Node × List Token → Except Fault (Option Node)) :
      Except Fault (Option Node) := do
    match ← directives tokens false [] with
    | (handles, .documentStart :: rest) => finish (← document handles true rest)
    | _ => throw .notYaml

end Node

end AnomalyWindows.Yaml
