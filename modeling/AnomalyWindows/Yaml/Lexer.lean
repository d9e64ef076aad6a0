import AnomalyWindows.Yaml.Scalar
import AnomalyWindows.Yaml.Token

/-!
Tokens of a text. A key need not be marked as one: whatever could be a key is kept as a candidate
until a colon behind it shows that it was, and the tokens of the key are then put in front of it.
-/

namespace AnomalyWindows.Yaml

/-- Something that becomes a key if a colon follows on the same line. -/
structure Candidate where
  number : Nat
  required : Bool
  index : Nat
  line : Nat
  column : Nat

structure Lexer where
  place : Cursor
  /-- The column of the innermost block collection, -1 outside of all. -/
  indent : Int := -1
  /-- The columns of the collections around it, the innermost first. -/
  indents : List Int := []
  flow : Nat := 0
  keyAllowed : Bool := true
  candidates : List (Nat × Candidate) := []
  tokens : List Token := []
  count : Nat := 0

namespace Lexer

def inFlow (s : Lexer) : Bool := s.flow != 0

def push (s : Lexer) (t : Token) : Lexer :=
  { s with tokens := t :: s.tokens, count := s.count + 1 }

def insert (s : Lexer) (number : Nat) (t : Token) : Lexer :=
  let later := s.count - number
  { s with tokens := s.tokens.take later ++ t :: s.tokens.drop later, count := s.count + 1 }

def candidate? (s : Lexer) : Option Candidate :=
  (s.candidates.find? fun entry => entry.1 == s.flow).map (·.2)

def dropCandidate (s : Lexer) : Lexer :=
  { s with candidates := s.candidates.filter fun entry => entry.1 != s.flow }

def giveUpCandidate (s : Lexer) : Except Fault Lexer :=
  match s.candidate? with
  | some k => if k.required then .error .notYaml else .ok s.dropCandidate
  | none => .ok s

def markCandidate (s : Lexer) : Except Fault Lexer :=
  if s.keyAllowed then do
    let required := !s.inFlow && s.indent == s.place.column
    let s ← s.giveUpCandidate
    let k : Candidate := ⟨s.count, required, s.place.index, s.place.line, s.place.column⟩
    return { s with candidates := (s.flow, k) :: s.candidates }
  else .ok s

/-- Candidates on earlier lines or too far back given up. -/
def dropStale (s : Lexer) : Except Fault Lexer :=
  let isStale (k : Candidate) := k.line != s.place.line || 1024 < s.place.index - k.index
  if s.candidates.any fun entry => isStale entry.2 && entry.2.required then .error .notYaml
  else .ok { s with candidates := s.candidates.filter fun entry => !isStale entry.2 }

/-- Block collections that are indented more than a column ended. -/
def unwindTo (column : Int) (s : Lexer) : List Int → Lexer
  | [] => s
  | outer :: rest =>
    if column < s.indent then
      unwindTo column { s.push .blockEnd with indent := outer, indents := rest } rest
    else s

def unwind (column : Int) (s : Lexer) : Lexer :=
  if s.inFlow then s else s.unwindTo column s.indents

/-- A block collection started at a column, if that is further in than the one around it. The
start goes in front of the tokens from a number on. -/
def indentAt (column : Nat) (number : Nat) (start : Token) (s : Lexer) : Lexer :=
  if s.indent < column then
    { s.insert number start with indent := column, indents := s.indent :: s.indents }
  else s

/-- Past spaces, comments and line ends. A new line allows keys in block collections. -/
def toToken : Nat → Lexer → Lexer
  | 0, s => s
  | fuel + 1, s =>
    let c := s.place.skipSpaces.skipComment
    if isBreak c.peek then
      toToken fuel { s with place := c.next, keyAllowed := s.keyAllowed || !s.inFlow }
    else { s with place := c }

/-- Letters, digits, hyphens and underscores of ASCII. -/
def isWordChar (c : Char) : Bool :=
  c.isAlphanum || c == '-' || c == '_'

def anchorName (c : Cursor) : Except Fault (String × Cursor) :=
  let (name, c) := c.next.span isWordChar
  if name = [] then .error .notYaml
  else if isSpaceOrEnd c.peek ||
      ['?', ':', ',', ']', '\x7d', '%', '@', '\u0060'].contains c.peek then
    .ok (String.ofList name, c)
  else .error .notYaml

def isTagChar (c : Char) : Bool :=
  c.isAlphanum || "-;/?:@&=+$,_.!~*'()[]".toList.contains c

def escapedBytes : Nat → Cursor → List UInt8 → Except Fault (List UInt8 × Cursor)
  | 0, c, bytes => .ok (bytes, c)
  | fuel + 1, c, bytes =>
    if c.peek = '%' then
      match Text.hexDigit? (c.peekAt 1), Text.hexDigit? (c.peekAt 2) with
      | some a, some b => escapedBytes fuel (c.forward 3) (bytes ++ [(16 * a + b).toUInt8])
      | _, _ => .error .notYaml
    else .ok (bytes, c)

def tagText : Nat → Cursor → String → Except Fault (String × Cursor)
  | 0, _, _ => .error .notYaml
  | fuel + 1, c, done =>
    let (run, c) := c.span isTagChar
    let done := done ++ String.ofList run
    if c.peek = '%' then
      match escapedBytes (c.rest.length + 1) c [] with
      | .error fault => .error fault
      | .ok (bytes, c) =>
        match String.fromUTF8? ⟨bytes.toArray⟩ with
        | some s => tagText fuel c (done ++ s)
        | none => .error .notYaml
    else if done = "" then .error .notYaml
    else .ok (done, c)

/-- A tag handle: an exclamation mark, or two with a word between them. -/
def tagHandle (c : Cursor) : Except Fault (String × Cursor) :=
  if c.peek ≠ '!' then .error .notYaml
  else
    let c := c.next
    if c.peek = ' ' then .ok ("!", c)
    else
      let (name, c) := c.span isWordChar
      if c.peek = '!' then .ok (String.ofList ('!' :: name ++ ['!']), c.next) else .error .notYaml

def tag (c : Cursor) : Except Fault (Token × Cursor) := do
  let text (c : Cursor) := tagText (c.rest.length + 1) c ""
  let (token, c) ←
    if c.peekAt 1 = '<' then do
      let (s, c) ← text (c.forward 2)
      if c.peek = '>' then pure (Token.tag none s, c.next) else throw .notYaml
    else if isSpaceOrEnd (c.peekAt 1) then pure (Token.tag none "!", c.next)
    else do
      let word := c.next.rest.takeWhile fun ch => !(isBreakOrEnd ch || ch == ' ')
      let (handle, c) ← if word.contains '!' then tagHandle c else pure ("!", c.next)
      let (s, c) ← text c
      pure (Token.tag (some handle) s, c)
  if isBreakOrEnd c.peek || c.peek == ' ' then return (token, c) else throw .notYaml

def versionNumber (c : Cursor) : Except Fault (Nat × Cursor) :=
  let (digits, c) := c.span Char.isDigit
  if digits = [] then .error .notYaml
  else .ok (Text.ofDigits (digits.filterMap Text.asciiDigit?), c)

def directive (c : Cursor) : Except Fault (Token × Cursor) := do
  let endsWord (c : Cursor) := isBreakOrEnd c.peek || c.peek == ' '
  let (name, c) := c.next.span isWordChar
  if name = [] ∨ !endsWord c then throw .notYaml
  let (d, c) ←
    match String.ofList name with
    | "YAML" => do
      let (major, c) ← versionNumber c.skipSpaces
      if c.peek ≠ '.' then throw .notYaml
      let (_, c) ← versionNumber c.next
      if !endsWord c then throw .notYaml
      pure (Directive.version major, c)
    | "TAG" => do
      let (handle, c) ← tagHandle c.skipSpaces
      if c.peek ≠ ' ' then throw .notYaml
      let c := c.skipSpaces
      let (start, c) ← tagText (c.rest.length + 1) c ""
      if !endsWord c then throw .notYaml
      pure (Directive.tag handle start, c)
    | _ => pure (Directive.other, c.skip (!isBreakOrEnd ·))
  let c := c.skipSpaces.skipComment
  if isBreakOrEnd c.peek then return (.directive d, c.skipBreak) else throw .notYaml

/-- A token that closes all block collections, at the start of a line. -/
def atMargin (s : Lexer) (t : Token) (c : Cursor) : Except Fault Lexer := do
  let s ← (s.unwind (-1)).giveUpCandidate
  return { s.push t with place := c, keyAllowed := false }

def openFlow (s : Lexer) (t : Token) : Except Fault Lexer := do
  let s ← s.markCandidate
  return { s.push t with place := s.place.next, flow := s.flow + 1, keyAllowed := true }

def closeFlow (s : Lexer) (t : Token) : Except Fault Lexer := do
  let s ← s.giveUpCandidate
  if s.flow = 0 then throw .notYaml
  return { s.push t with place := s.place.next, flow := s.flow - 1, keyAllowed := false }

def flowEntry (s : Lexer) : Except Fault Lexer := do
  let s ← s.giveUpCandidate
  return { s.push .flowEntry with place := s.place.next, keyAllowed := true }

/-- In a block, an indicator that is allowed only where a key is, and that may start a collection
at its column. -/
def inBlock (s : Lexer) (start : Token) : Except Fault Lexer :=
  if s.inFlow then .ok s
  else if s.keyAllowed then .ok (s.indentAt s.place.column s.count start)
  else .error .notYaml

def blockEntry (s : Lexer) : Except Fault Lexer := do
  let s ← s.inBlock .blockSequenceStart
  let s ← s.giveUpCandidate
  return { s.push .blockEntry with place := s.place.next, keyAllowed := true }

def key (s : Lexer) : Except Fault Lexer := do
  let s ← s.inBlock .blockMappingStart
  let s ← s.giveUpCandidate
  return { s.push .key with place := s.place.next, keyAllowed := !s.inFlow }

/-- The colon in front of a value. It makes a key of the candidate, if there is one. -/
def value (s : Lexer) : Except Fault Lexer :=
  match s.candidate? with
  | some k =>
    let s := s.dropCandidate.insert k.number .key
    let s := if s.inFlow then s else s.indentAt k.column k.number .blockMappingStart
    .ok { s.push .value with place := s.place.next, keyAllowed := false }
  | none => do
    let s ← s.inBlock .blockMappingStart
    let s ← s.giveUpCandidate
    return { s.push .value with place := s.place.next, keyAllowed := !s.inFlow }

def keyLike (s : Lexer) (read : Cursor → Except Fault (Token × Cursor)) : Except Fault Lexer := do
  let s ← s.markCandidate
  let (t, c) ← read s.place
  return { s.push t with place := c, keyAllowed := false }

def blockScalar (s : Lexer) (fold : Bool) : Except Fault Lexer := do
  let s ← s.giveUpCandidate
  let (text, c) ← block fold s.indent s.place
  return { s.push (.scalar text false) with place := c, keyAllowed := true }

def plainScalar (s : Lexer) : Except Fault Lexer := do
  let s ← s.markCandidate
  let (text, broke, c) := plain s.inFlow (s.indent + 1) s.place
  return { s.push (.scalar text true) with place := c, keyAllowed := broke }

def startsPlain (flow : Bool) (c : Cursor) : Bool :=
  let ch := c.peek
  let isIndicator := isSpaceOrEnd ch || "-?:,[]\x7b\x7d#&*!|>'\"%@\u0060".toList.contains ch
  !isIndicator ||
    (!isSpaceOrEnd (c.peekAt 1) && (ch == '-' || (!flow && (ch == '?' || ch == ':'))))

def token (s : Lexer) : Except Fault Lexer :=
  let c := s.place
  let behind := isSpaceOrEnd (c.peekAt 1)
  let atStart := c.column == 0
  let named (make : String → Token) (c : Cursor) : Except Fault (Token × Cursor) :=
    (anchorName c).map fun (name, c) => (make name, c)
  let inQuotes (double : Bool) (c : Cursor) : Except Fault (Token × Cursor) :=
    (quoted double c).map fun (text, c) => (.scalar text false, c)
  match c.peek with
  | '%' => if atStart then (directive c).bind fun (t, c) => s.atMargin t c else .error .notYaml
  | '[' => s.openFlow .flowSequenceStart
  | ']' => s.closeFlow .flowSequenceEnd
  | '\x7b' => s.openFlow .flowMappingStart
  | '\x7d' => s.closeFlow .flowMappingEnd
  | ',' => s.flowEntry
  | '*' => s.keyLike (named .alias)
  | '&' => s.keyLike (named .anchor)
  | '!' => s.keyLike tag
  | '"' => s.keyLike (inQuotes true)
  | '\'' => s.keyLike (inQuotes false)
  | ch =>
    if ch = '-' ∧ atStart ∧ c.atMark '-' then s.atMargin .documentStart (c.forward 3)
    else if ch = '.' ∧ atStart ∧ c.atMark '.' then s.atMargin .documentEnd (c.forward 3)
    else if ch = '-' ∧ behind then s.blockEntry
    else if ch = '?' ∧ (s.inFlow || behind) then s.key
    else if ch = ':' ∧ (s.inFlow || behind) then s.value
    else if (ch = '|' ∨ ch = '>') ∧ !s.inFlow then s.blockScalar (ch == '>')
    else if startsPlain s.inFlow c then s.plainScalar
    else .error .notYaml

def run : Nat → Lexer → Except Fault (List Token)
  | 0, _ => .error .notYaml
  | fuel + 1, s =>
    let s := toToken (s.place.rest.length + 1) s
    match s.dropStale with
    | .error fault => .error fault
    | .ok s =>
      let s := s.unwind s.place.column
      if s.place.rest = [] then ((s.unwind (-1)).giveUpCandidate).map fun s => s.tokens.reverse
      else
        match s.token with
        | .ok s => run fuel s
        | .error fault => .error fault

end Lexer

/-- The tokens of a text. A byte order mark at its start does not count. -/
def tokens (cs : List Char) : Except Fault (List Token) :=
  let c := Cursor.ofText cs
  Lexer.run (cs.length + 2) { place := if c.peek = '\ufeff' then c.next else c }

end AnomalyWindows.Yaml
