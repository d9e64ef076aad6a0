import AnomalyWindows.Fault
import AnomalyWindows.Text.Digit
import AnomalyWindows.Text.Hex
import AnomalyWindows.Yaml.Cursor

namespace AnomalyWindows.Yaml

def endsBehindColon (flow : Bool) (c : Char) : Bool :=
  isSpaceOrEnd c || (flow && [',', '[', ']', '\x7b', '\x7d'].contains c)

/-- The number of characters up to the end of a run of a plain scalar. -/
def plainLength (flow : Bool) : List Char → Nat
  | [] => 0
  | c :: cs =>
    if isSpaceOrEnd c || (c == ':' && endsBehindColon flow (cs.headD endMark)) ||
        (flow && [',', '?', '[', ']', '\x7b', '\x7d'].contains c) then 0
    else plainLength flow cs + 1

/-- The breaks of empty lines and the spaces between them, up to a line that separates documents,
which is told by the second part. -/
def plainBreaks : Nat → Cursor → List Char → List Char × Bool × Cursor
  | 0, c, breaks => (breaks, false, c)
  | fuel + 1, c, breaks =>
    if c.peek = ' ' then plainBreaks fuel c.next breaks
    else
      match c.takeBreak? with
      | none => (breaks, false, c)
      | some (b, c) =>
        if c.atSeparator then (breaks ++ [b], true, c) else plainBreaks fuel c (breaks ++ [b])

/-- What lines fold to: the first break becomes a space if no empty line follows. -/
def folded (first : Char) (breaks : List Char) : List Char :=
  if first ≠ '\n' then first :: breaks else if breaks = [] then [' '] else breaks

/-- The blanks behind a run of a plain scalar as they count in it, whether there is a break among
them, and the place behind them. Nothing counts before a line that separates documents. -/
def plainSpaces (c : Cursor) : List Char × Bool × Cursor :=
  let (spaces, c) := c.span (· == ' ')
  match c.takeBreak? with
  | none => (spaces, false, c)
  | some (first, c) =>
    if c.atSeparator then ([], true, c)
    else
      let (breaks, separated, c) := plainBreaks (c.rest.length + 1) c []
      (if separated then [] else folded first breaks, true, c)

/-- A plain scalar, whether a line ends behind it, and the place behind it. Outside of flow
collections its lines have to be indented more than the collection around it. -/
def plainRuns (flow : Bool) (indent : Int) : Nat → Cursor → List Char → List Char → Bool →
    List Char × Bool × Cursor
  | 0, c, done, _, broke => (done, broke, c)
  | fuel + 1, c, done, spaces, broke =>
    let length := if c.peek = '#' then 0 else plainLength flow c.rest
    if length = 0 then (done, broke, c)
    else
      let done := done ++ spaces ++ c.rest.take length
      let (spaces, broke, c) := plainSpaces (c.forward length)
      if spaces = [] ∨ c.peek = '#' ∨ (!flow ∧ (c.column : Int) < indent) then (done, broke, c)
      else plainRuns flow indent fuel c done spaces broke

def plain (flow : Bool) (indent : Int) (c : Cursor) : String × Bool × Cursor :=
  let (cs, broke, c) := plainRuns flow indent (c.rest.length + 1) c [] [] false
  (String.ofList cs, broke, c)

/-- The breaks of the empty lines inside quotes. A line that separates documents must not come. -/
def quotedBreaks : Nat → Cursor → List Char → Except Fault (List Char × Cursor)
  | 0, _, _ => .error .notYaml
  | fuel + 1, c, breaks =>
    if c.atSeparator then .error .notYaml
    else
      let c := c.skip fun ch => ch == ' ' || ch == '\t'
      match c.takeBreak? with
      | some (b, c) => quotedBreaks fuel c (breaks ++ [b])
      | none => .ok (breaks, c)

def quotedSpaces (c : Cursor) : Except Fault (List Char × Cursor) :=
  let (spaces, c) := c.span fun ch => ch == ' ' || ch == '\t'
  if c.rest = [] then .error .notYaml
  else
    match c.takeBreak? with
    | none => .ok (spaces, c)
    | some (first, c) => do
      let (breaks, c) ← quotedBreaks (c.rest.length + 1) c []
      return (folded first breaks, c)

def escaped? : Char → Option Char
  | '0' => some '\x00'
  | 'a' => some '\x07'
  | 'b' => some '\x08'
  | 't' | '\t' => some '\t'
  | 'n' => some '\n'
  | 'v' => some '\x0b'
  | 'f' => some '\x0c'
  | 'r' => some '\r'
  | 'e' => some '\x1b'
  | ' ' => some ' '
  | '"' => some '"'
  | '\\' => some '\\'
  | '/' => some '/'
  | 'N' => some '\u0085'
  | '_' => some '\u00a0'
  | 'L' => some '\u2028'
  | 'P' => some '\u2029'
  | _ => none

def escapeDigits? : Char → Option Nat
  | 'x' => some 2
  | 'u' => some 4
  | 'U' => some 8
  | _ => none

def escape (c : Cursor) : Except Fault (List Char × Cursor) :=
  match escaped? c.peek with
  | some ch => .ok ([ch], c.next)
  | none =>
    match escapeDigits? c.peek with
    | some count =>
      let c := c.next
      match (c.rest.take count).mapM Text.hexDigit? with
      | some digits =>
        let code := digits.foldl (fun n d => 16 * n + d) 0
        if digits.length < count then .error .notYaml
        else if 0x10ffff < code then .error (.unusableValue "no such character")
        else .ok ([Text.charOf code], c.forward count)
      | none => .error .notYaml
    | none =>
      if isBreak c.peek then
        let c := c.next
        quotedBreaks (c.rest.length + 1) c []
      else .error .notYaml

def quotedRun (double : Bool) : Nat → Cursor → List Char → Except Fault (List Char × Cursor)
  | 0, _, _ => .error .notYaml
  | fuel + 1, c, done =>
    let (run, c) := c.span fun ch => !isSpaceOrEnd ch && ch != '"' && ch != '\'' && ch != '\\'
    let done := done ++ run
    let ch := c.peek
    if !double && ch == '\'' && c.peekAt 1 == '\'' then
      quotedRun double fuel (c.forward 2) (done ++ ['\''])
    else if (double && ch == '\'') || (!double && (ch == '"' || ch == '\\')) then
      quotedRun double fuel c.next (done ++ [ch])
    else if double && ch == '\\' then
      match escape c.next with
      | .ok (meaning, c) => quotedRun double fuel c (done ++ meaning)
      | .error fault => .error fault
    else .ok (done, c)

def quotedRuns (double : Bool) : Nat → Cursor → List Char → Except Fault (List Char × Cursor)
  | 0, _, _ => .error .notYaml
  | fuel + 1, c, done =>
    match quotedRun double (c.rest.length + 1) c done with
    | .error fault => .error fault
    | .ok (done, c) =>
      if c.peek = (if double then '"' else '\'') then .ok (done, c.next)
      else
        match quotedSpaces c with
        | .error fault => .error fault
        | .ok (spaces, c) => quotedRuns double fuel c (done ++ spaces)

def quoted (double : Bool) (c : Cursor) : Except Fault (String × Cursor) := do
  let (cs, c) ← quotedRuns double (c.rest.length + 1) c.next []
  return (String.ofList cs, c)

/-- What becomes of the breaks at the end of a block: all are kept, the first one is, or none. -/
inductive Chomping
  | keep
  | clip
  | strip
  deriving DecidableEq, Repr

def chompingOf? : Char → Option Chomping
  | '+' => some .keep
  | '-' => some .strip
  | _ => none

def indentationOf (c : Char) : Except Fault (Option Nat) :=
  match Text.asciiDigit? c with
  | some 0 => .error .notYaml
  | digit => .ok digit

/-- Chomping and indentation of a block, in either order, each of them perhaps missing. -/
def blockHeader (c : Cursor) : Except Fault (Chomping × Option Nat × Cursor) := do
  let (chomping, indentation, c) ←
    match chompingOf? c.peek with
    | some chomping =>
      let c := c.next
      match ← indentationOf c.peek with
      | some n => pure (chomping, some n, c.next)
      | none => pure (chomping, none, c)
    | none =>
      match ← indentationOf c.peek with
      | some n =>
        let c := c.next
        match chompingOf? c.peek with
        | some chomping => pure (chomping, some n, c.next)
        | none => pure (Chomping.clip, some n, c)
      | none => pure (Chomping.clip, none, c)
  if c.peek ≠ ' ' ∧ !isBreakOrEnd c.peek then throw .notYaml
  let c := c.skipSpaces.skipComment
  if isBreakOrEnd c.peek then return (chomping, indentation, c.skipBreak)
  else throw .notYaml

/-- The empty lines in front of a block, and the widest indentation among them and the first line
with text. -/
def blockIndentation : Nat → Cursor → List Char → Nat → List Char × Nat × Cursor
  | 0, c, breaks, widest => (breaks, widest, c)
  | fuel + 1, c, breaks, widest =>
    if c.peek = ' ' then blockIndentation fuel c.next breaks (max widest c.next.column)
    else
      match c.takeBreak? with
      | some (b, c) => blockIndentation fuel c (breaks ++ [b]) widest
      | none => (breaks, widest, c)

def skipIndent : Nat → Cursor → Cursor
  | 0, c => c
  | n + 1, c => if c.peek = ' ' then skipIndent n c.next else c

/-- Empty lines between the lines of a block, and the indentation of the line behind them. -/
def blockBreaks (indent : Nat) : Nat → Cursor → List Char → List Char × Cursor
  | 0, c, breaks => (breaks, c)
  | fuel + 1, c, breaks =>
    let c := skipIndent (indent - c.column) c
    match c.takeBreak? with
    | some (b, c) => blockBreaks indent fuel c (breaks ++ [b])
    | none => (breaks, c)

/-- What stands between two lines of a block. Folding makes a space of a single break between two
lines that both start with text. -/
def joint (fold : Bool) (first : List Char) (leading following : Char) (breaks : List Char) :
    List Char :=
  let isText (c : Char) := c != ' ' && c != '\t'
  if fold && first == ['\n'] && isText leading && isText following then
    if breaks = [] then [' '] else []
  else first

def blockLines (fold : Bool) (indent : Nat) : Nat → Cursor → List Char → List Char →
    List Char × List Char × List Char × Cursor
  | 0, c, breaks, done => (done, [], breaks, c)
  | fuel + 1, c, breaks, done =>
    let leading := c.peek
    let (line, c) := c.span (!isBreakOrEnd ·)
    let done := done ++ breaks ++ line
    let (first, c) :=
      match c.takeBreak? with
      | some (b, c) => ([b], c)
      | none => ([], c)
    let (breaks, c) := blockBreaks indent (c.rest.length + 1) c []
    if c.column = indent ∧ c.rest ≠ [] then
      blockLines fold indent fuel c breaks (done ++ joint fold first leading c.peek breaks)
    else (done, first, breaks, c)

/-- A block of lines behind its indicator, which is the next character. `indent` is the
indentation of the collection around it. -/
def block (fold : Bool) (indent : Int) (c : Cursor) : Except Fault (String × Cursor) := do
  let (chomping, indentation, c) ← blockHeader c.next
  let least := (max (indent + 1) 1).toNat
  let (width, breaks, c) :=
    match indentation with
    | some n =>
      let width := least + n - 1
      let (breaks, c) := blockBreaks width (c.rest.length + 1) c []
      (width, breaks, c)
    | none =>
      let (breaks, widest, c) := blockIndentation (c.rest.length + 1) c [] 0
      (max least widest, breaks, c)
  let (done, last, breaks, c) :=
    if c.column = width ∧ c.rest ≠ [] then
      blockLines fold width (c.rest.length + 1) c breaks []
    else ([], [], breaks, c)
  let tail :=
    match chomping with
    | .keep => last ++ breaks
    | .clip => last
    | .strip => []
  return (String.ofList (done ++ tail), c)

end AnomalyWindows.Yaml
