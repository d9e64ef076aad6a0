namespace AnomalyWindows.Yaml

def endMark : Char := '\x00'

def isBreak (c : Char) : Bool :=
  c == '\n' || c == '\u0085' || c == '\u2028' || c == '\u2029'

def isBreakOrEnd (c : Char) : Bool :=
  isBreak c || c == endMark

def isSpaceOrEnd (c : Char) : Bool :=
  isBreakOrEnd c || c == ' ' || c == '\t'

/-- A break as it counts in a scalar: next line is a line feed. -/
def breakText (c : Char) : Char :=
  if c = '\u0085' then '\n' else c

structure Cursor where
  rest : List Char
  index : Nat
  line : Nat
  column : Nat

namespace Cursor

def ofText (cs : List Char) : Cursor := ⟨cs, 0, 0, 0⟩

def peek (c : Cursor) : Char :=
  c.rest.headD endMark

def peekAt (c : Cursor) (n : Nat) : Char :=
  (c.rest.drop n).headD endMark

/-- One character on. A byte order mark takes no column. -/
def next (c : Cursor) : Cursor :=
  match c.rest with
  | [] => c
  | ch :: rest =>
    if isBreak ch then ⟨rest, c.index + 1, c.line + 1, 0⟩
    else if ch = '\ufeff' then ⟨rest, c.index + 1, c.line, c.column⟩
    else ⟨rest, c.index + 1, c.line, c.column + 1⟩

def forward : Nat → Cursor → Cursor
  | 0, c => c
  | n + 1, c => forward n c.next

/-- The longest run of characters of a class, and the place behind it. -/
def span (p : Char → Bool) (c : Cursor) : List Char × Cursor :=
  let run := c.rest.takeWhile p
  (run, c.forward run.length)

def skip (p : Char → Bool) (c : Cursor) : Cursor :=
  (c.span p).2

def skipSpaces (c : Cursor) : Cursor :=
  c.skip (· == ' ')

def takeBreak? (c : Cursor) : Option (Char × Cursor) :=
  if isBreak c.peek then some (breakText c.peek, c.next) else none

def skipBreak (c : Cursor) : Cursor :=
  if isBreak c.peek then c.next else c

def skipComment (c : Cursor) : Cursor :=
  if c.peek = '#' then c.skip (!isBreakOrEnd ·) else c

/-- Whether three of the same mark and then a space or the end come next. -/
def atMark (mark : Char) (c : Cursor) : Bool :=
  c.rest.take 3 == [mark, mark, mark] && isSpaceOrEnd (c.peekAt 3)

def atSeparator (c : Cursor) : Bool :=
  c.atMark '-' || c.atMark '.'

end Cursor

end AnomalyWindows.Yaml
