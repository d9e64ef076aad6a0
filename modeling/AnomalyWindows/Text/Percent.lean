import AnomalyWindows.Text.Hex

namespace AnomalyWindows.Text

/-- A character that stands for itself, or a byte that is written with a percent sign. -/
inductive Piece
  | char (c : Char)
  | byte (b : Nat)
  deriving DecidableEq, Repr

def byteOf? (a b : Char) : Option Nat :=
  match hexDigit? a, hexDigit? b with
  | some high, some low => some (16 * high + low)
  | _, _ => none

/-- The pieces of a text. A percent sign without two digits stands for itself. -/
def pieces : List Char → List Piece
  | c :: a :: b :: rest =>
    match if c = '%' then byteOf? a b else none with
    | some byte => .byte byte :: pieces rest
    | none => .char c :: pieces (a :: b :: rest)
  | cs => cs.map .char

/-- A character that has begun: the bits so far, how many bytes it lacks, and the bounds of the next
one. -/
structure Begun where
  bits : Nat
  lacks : Nat
  low : Nat := 0x80
  high : Nat := 0xbf
  deriving DecidableEq, Repr

def replacement : Char := '\ufffd'

/-- What a byte begins: a character that is complete, or one that lacks bytes. -/
def beginWith (b : Nat) : Except Begun Char :=
  if b < 0x80 then .ok (Char.ofNat b)
  else if b < 0xc2 then .ok replacement
  else if b < 0xe0 then .error ⟨b - 0xc0, 1, 0x80, 0xbf⟩
  else if b < 0xf0 then
    .error ⟨b - 0xe0, 2, if b = 0xe0 then 0xa0 else 0x80, if b = 0xed then 0x9f else 0xbf⟩
  else if b < 0xf5 then
    .error ⟨b - 0xf0, 3, if b = 0xf0 then 0x90 else 0x80, if b = 0xf4 then 0x8f else 0xbf⟩
  else .ok replacement

def joinPieces : Option Begun → List Piece → List Char
  | none, [] => []
  | some _, [] => [replacement]
  | none, .char c :: rest => c :: joinPieces none rest
  | some _, .char c :: rest => replacement :: c :: joinPieces none rest
  | none, .byte b :: rest =>
    match beginWith b with
    | .ok c => c :: joinPieces none rest
    | .error begun => joinPieces (some begun) rest
  | some begun, .byte b :: rest =>
    if begun.low ≤ b ∧ b ≤ begun.high then
      let bits := 64 * begun.bits + (b - 0x80)
      if begun.lacks ≤ 1 then Char.ofNat bits :: joinPieces none rest
      else joinPieces (some { bits, lacks := begun.lacks - 1 }) rest
    else
      match beginWith b with
      | .ok c => replacement :: c :: joinPieces none rest
      | .error begun => replacement :: joinPieces (some begun) rest

def percentDecoded (cs : List Char) : List Char :=
  joinPieces none (pieces cs)

theorem joinPieces_char (cs : List Char) : joinPieces none (cs.map .char) = cs := by
  induction cs with
  | nil => rfl
  | cons c cs ih => simp [joinPieces, ih]

theorem pieces_of_not_mem {cs : List Char} (h : '%' ∉ cs) : pieces cs = cs.map .char := by
  induction cs with
  | nil => rfl
  | cons c cs ih =>
    simp only [List.mem_cons, not_or] at h
    match cs, h, ih with
    | [], _, _ => rfl
    | [a], _, _ => rfl
    | a :: b :: rest, h, ih =>
      rw [pieces, if_neg (Ne.symm h.1)]
      simp [ih h.2]

theorem percentDecoded_of_not_mem {cs : List Char} (h : '%' ∉ cs) : percentDecoded cs = cs := by
  rw [percentDecoded, pieces_of_not_mem h, joinPieces_char]

end AnomalyWindows.Text
