import AnomalyWindows.Calendar.Iso
import AnomalyWindows.Calendar.IsoReader
import AnomalyWindows.Proofs.CalendarDays
import Mathlib.Data.List.TakeDrop

namespace AnomalyWindows.Proofs.WrittenMoments

open Calendar Text Calendar.IsoReader
open AnomalyWindows.Proofs.CalendarYear AnomalyWindows.Proofs.YearlyChanges
open AnomalyWindows.Proofs.CalendarDays

theorem toList_pushn (c : Char) (count : Nat) :
    ("".pushn c count).toList = List.replicate count c := by
  rw [String.pushn]
  induction count with
  | zero => rfl
  | succ count ih => rw [Nat.repeat, String.toList_push, ih, List.replicate_succ']

/-- The characters of a number in decimal, filled up with zeros to a width. -/
def paddedChars (width n : Nat) : List Char :=
  List.replicate (width - (Nat.toDigits 10 n).length) '0' ++ Nat.toDigits 10 n

theorem toList_padded (width n : Nat) : (padded width n).toList = paddedChars width n := by
  simp only [padded, paddedChars, String.toList_append, toList_pushn,
    Nat.toString_eq_ofList_toDigits, String.toList_ofList, String.length_ofList]

theorem isDigit_of_mem_paddedChars {width n : Nat} {c : Char} (h : c ∈ paddedChars width n) :
    c.isDigit = true := by
  rcases List.mem_append.1 h with hzero | hdigit
  · rw [List.eq_of_mem_replicate hzero]
    rfl
  · exact Nat.isDigit_of_mem_toDigits (by decide) (by decide) hdigit

theorem length_paddedChars {width n : Nat} (hwidth : 0 < width) (h : n < 10 ^ width) :
    (paddedChars width n).length = width := by
  have hlength := (Nat.length_toDigits_le_iff (by decide) hwidth).2 h
  rw [paddedChars, List.length_append, List.length_replicate]
  omega

theorem paddedChars_ne_nil {width n : Nat} (hwidth : 0 < width) (h : n < 10 ^ width) :
    paddedChars width n ≠ [] := by
  rw [← List.length_pos_iff, length_paddedChars hwidth h]
  exact hwidth

def digitValue (c : Char) : Nat :=
  c.toNat - 48

theorem toNat_of_isDigit {c : Char} (h : c.isDigit = true) : 48 ≤ c.toNat ∧ c.toNat ≤ 57 := by
  simp only [Char.isDigit, Bool.and_eq_true, decide_eq_true_eq] at h
  exact h

theorem asciiDigit?_of_isDigit {c : Char} (h : c.isDigit = true) :
    asciiDigit? c = some (digitValue c) := by
  exact if_pos (toNat_of_isDigit h)

theorem mapM_asciiDigit? {cs : List Char} (h : ∀ c ∈ cs, c.isDigit = true) :
    cs.mapM asciiDigit? = some (cs.map digitValue) := by
  induction cs with
  | nil => rfl
  | cons c cs ih =>
      rw [List.forall_mem_cons] at h
      rw [List.mapM_cons, asciiDigit?_of_isDigit h.1, ih h.2]
      rfl

theorem ofDigits_paddedChars (width n : Nat) :
    ofDigits ((paddedChars width n).map digitValue) = n := by
  have hvalue : ofDigits ((paddedChars width n).map digitValue) =
      Nat.ofDigitChars 10 (paddedChars width n) 0 := by
    rw [ofDigits, List.foldl_map]
    rfl
  rw [hvalue, paddedChars, Nat.ofDigitChars_append, Nat.ofDigitChars_replicate_zero, Nat.mul_zero,
    Nat.ofDigitChars_ten_toDigits]

theorem foldl_digits_lt {digits : List Nat} (h : ∀ d ∈ digits, d < 10) (n : Nat) :
    digits.foldl (fun n d => 10 * n + d) n < (n + 1) * 10 ^ digits.length := by
  induction digits generalizing n with
  | nil => simp
  | cons d digits ih =>
      rw [List.forall_mem_cons] at h
      calc
        _ < (10 * n + d + 1) * 10 ^ digits.length := ih h.2 (10 * n + d)
        _ ≤ (n + 1) * 10 * 10 ^ digits.length := Nat.mul_le_mul_right _ (by omega)
        _ = (n + 1) * 10 ^ (digits.length + 1) := by rw [Nat.mul_assoc, ← Nat.pow_succ']

theorem ofDigits_lt {digits : List Nat} (h : ∀ d ∈ digits, d < 10) :
    ofDigits digits < 10 ^ digits.length := by
  have hfold := foldl_digits_lt h 0
  rwa [Nat.zero_add, Nat.one_mul] at hfold

theorem takeNumber?_paddedChars {width n : Nat} (hwidth : 0 < width) (h : n < 10 ^ width)
    (rest : List Char) :
    takeNumber? width (paddedChars width n ++ rest) = some (n, rest) := by
  have hlength := length_paddedChars hwidth h
  rw [takeNumber?, List.take_left' hlength, List.drop_left' hlength,
    mapM_asciiDigit? fun _ => isDigit_of_mem_paddedChars, Option.bind_eq_bind, Option.bind_some,
    List.length_map, if_pos hlength, ofDigits_paddedChars]

def fieldsOf (t : Int) : Fields :=
  ⟨(t / hour).toNat, (t / minute % 60).toNat, (t / second % 60).toNat, (t % second).toNat, false⟩

theorem total_fieldsOf {t : Int} (h : 0 ≤ t) : (fieldsOf t).total = t := by
  simp only [fieldsOf, Fields.total, hour, minute, second]
  omega

theorem fieldsOf_bounds {t : Int} (hfirst : 0 ≤ t) (hlast : t < day) :
    (fieldsOf t).hours ≤ 23 ∧ (fieldsOf t).minutes ≤ 59 ∧ (fieldsOf t).seconds ≤ 59 ∧
      (fieldsOf t).micros < 1000000 := by
  rw [day, hour, minute, second] at hlast
  simp only [fieldsOf, hour, minute, second]
  omega

theorem takeMicros?_paddedChars {n : Nat} (h : n < 10 ^ 6) :
    takeMicros? (paddedChars 6 n) = some (n, false) := by
  have hlength := length_paddedChars (by decide) h
  have hdigits : ((paddedChars 6 n).map digitValue ++ List.replicate 6 0).take 6 =
      (paddedChars 6 n).map digitValue :=
    List.take_left' (by rw [List.length_map, hlength])
  rw [takeMicros?, List.take_of_length_le hlength.le, List.drop_of_length_le hlength.le,
    mapM_asciiDigit? fun _ => isDigit_of_mem_paddedChars, Option.bind_eq_bind, Option.bind_some,
    hdigits, ofDigits_paddedChars]
  rfl

variable {n : Nat}

theorem takeFields?_last (h : n < 10 ^ 2) (count : Nat) (colons : Option Bool) :
    takeFields? (count + 1) colons (paddedChars 2 n) = some ([n], 0, false) := by
  have htaken := takeNumber?_paddedChars (by decide) h []
  rw [List.append_nil] at htaken
  rw [takeFields?, htaken]
  rfl

theorem takeFields?_colon (h : n < 10 ^ 2) (count : Nat) {colons : Option Bool}
    (hcolons : colons.getD true = true) {rest : List Char} (hrest : rest ≠ []) :
    takeFields? (count + 1) colons (paddedChars 2 n ++ ':' :: rest) =
      (takeFields? count (some true) rest).map fun read => (n :: read.1, read.2) := by
  obtain ⟨c, rest, rfl⟩ := List.exists_cons_of_ne_nil hrest
  have hused : colons.getD (':' == ':') = true := hcolons
  rw [takeFields?, takeNumber?_paddedChars (by decide) h]
  simp only [Option.bind_eq_bind, Option.bind_some, hused]
  cases takeFields? count (some true) (c :: rest) with
  | none => rfl
  | some read => rfl

theorem takeFields?_point (h : n < 10 ^ 2) (count : Nat) {micros : Nat} (hmicros : micros < 10 ^ 6)
    (colons : Option Bool) :
    takeFields? (count + 1) colons (paddedChars 2 n ++ '.' :: paddedChars 6 micros) =
      some ([n], micros, false) := by
  have hne := paddedChars_ne_nil (by decide) hmicros
  have hread := takeMicros?_paddedChars hmicros
  obtain ⟨c, rest, hchars⟩ := List.exists_cons_of_ne_nil hne
  rw [hchars] at hread ⊢
  have hpoint : (('.' : Char) == ':') = false := rfl
  rw [takeFields?, takeNumber?_paddedChars (by decide) h]
  simp only [Option.bind_eq_bind, Option.bind_some, hpoint, Bool.and_false, Bool.false_eq_true,
    if_false, true_or, if_true, hread]
  rfl

theorem toList_clockText (t : Int) (withSeconds : Bool) :
    (clockText t withSeconds).toList =
      paddedChars 2 (fieldsOf t).hours ++ ':' :: (paddedChars 2 (fieldsOf t).minutes ++
        ((if withSeconds then ':' :: paddedChars 2 (fieldsOf t).seconds else []) ++
          if (fieldsOf t).micros = 0 then [] else '.' :: paddedChars 6 (fieldsOf t).micros)) := by
  have hcolon : ":".toList = [':'] := rfl
  have hpoint : ".".toList = ['.'] := rfl
  have hnone : "".toList = [] := rfl
  simp only [clockText, fieldsOf, String.toList_append, toList_padded, apply_ite String.toList,
    hcolon, hpoint, hnone, List.append_assoc, List.cons_append, List.nil_append]
  rfl

theorem takeFields?_seconds (h : n < 10 ^ 2) (count : Nat) {micros : Nat}
    (hmicros : micros < 10 ^ 6) (colons : Option Bool) :
    takeFields? (count + 1) colons
        (paddedChars 2 n ++ if micros = 0 then [] else '.' :: paddedChars 6 micros) =
      some ([n], micros, false) := by
  split
  · rename_i hzero
    rw [List.append_nil, takeFields?_last h, hzero]
  · exact takeFields?_point h count hmicros colons

theorem fields?_clockText {t : Int} (hfirst : 0 ≤ t) (hlast : t < day) {withSeconds : Bool}
    (hwhole : withSeconds = false → t % minute = 0) :
    fields? (clockText t withSeconds).toList = some (fieldsOf t) := by
  obtain ⟨hhours, hminutes, hseconds, hmicros⟩ := fieldsOf_bounds hfirst hlast
  rw [toList_clockText, fields?]
  cases withSeconds with
  | false =>
      have hzero : (fieldsOf t).seconds = 0 ∧ (fieldsOf t).micros = 0 := by
        have hminute := hwhole rfl
        rw [minute, second] at hminute
        simp only [fieldsOf, second]
        omega
      have hne : paddedChars 2 (fieldsOf t).minutes ≠ [] :=
        paddedChars_ne_nil (by decide) (by omega)
      rw [if_pos hzero.2, if_neg Bool.false_ne_true, List.append_nil, List.append_nil,
        takeFields?_colon (by omega) 2 rfl hne, takeFields?_last (by omega)]
      simp only [fieldsOf] at hzero ⊢
      rw [hzero.1, hzero.2]
      rfl
  | true =>
      have hne : paddedChars 2 (fieldsOf t).seconds ≠ [] :=
        paddedChars_ne_nil (by decide) (by omega)
      rw [if_pos rfl, List.cons_append, takeFields?_colon (by omega) 2 rfl (by simp),
        takeFields?_colon (by omega) 1 rfl (List.append_ne_nil_of_left_ne_nil hne _),
        takeFields?_seconds (by omega) 0 (by omega)]
      rfl

def isOfTime (c : Char) : Bool :=
  c != '+' && c != '-' && c != 'Z'

theorem isOfTime_of_isDigit {c : Char} (h : c.isDigit = true) : isOfTime c = true := by
  have hne : ∀ sign : Char, sign.isDigit = false → c ≠ sign := by
    rintro sign hsign rfl
    rw [hsign] at h
    cases h
  simp only [isOfTime, Bool.and_eq_true, bne_iff_ne]
  exact ⟨⟨hne '+' rfl, hne '-' rfl⟩, hne 'Z' rfl⟩

theorem isOfTime_of_mem_clockText {t : Int} {withSeconds : Bool} {c : Char}
    (h : c ∈ (clockText t withSeconds).toList) : isOfTime c = true := by
  have hnumber : ∀ {width n}, c ∈ paddedChars width n → isOfTime c = true :=
    fun hc => isOfTime_of_isDigit (isDigit_of_mem_paddedChars hc)
  rw [toList_clockText] at h
  rcases List.mem_append.1 h with h | h
  · exact hnumber h
  rcases List.mem_cons.1 h with rfl | h
  · rfl
  rcases List.mem_append.1 h with h | h
  · exact hnumber h
  rcases List.mem_append.1 h with h | h
  · split at h
    · rcases List.mem_cons.1 h with rfl | h
      · rfl
      · exact hnumber h
    · cases h
  · split at h
    · cases h
    · rcases List.mem_cons.1 h with rfl | h
      · rfl
      · exact hnumber h

theorem span_append {p : Char → Bool} {body rest : List Char} (hbody : ∀ c ∈ body, p c = true)
    (hrest : ∀ c ∈ rest.head?, p c = false) : (body ++ rest).span p = (body, rest) := by
  rw [List.span_eq_takeWhile_dropWhile, List.takeWhile_append_of_pos hbody,
    List.dropWhile_append_of_pos hbody]
  cases rest with
  | nil => simp
  | cons c rest =>
      have hc := hrest c rfl
      simp [hc]

theorem span_clockText (t : Int) (withSeconds : Bool) {rest : List Char}
    (hrest : ∀ c ∈ rest.head?, isOfTime c = false) :
    ((clockText t withSeconds).toList ++ rest).span isOfTime =
      ((clockText t withSeconds).toList, rest) :=
  span_append (fun _ => isOfTime_of_mem_clockText) hrest

/-- An offset that is read back: none, or one of a second at least, and of less than a day. -/
def IsOffset (offset : Int) : Prop :=
  offset = 0 ∨ (second ≤ |offset| ∧ |offset| < day)

theorem clockOf?_fieldsOf {offset : Int} (h : IsOffset offset) :
    clockOf? (offset < 0) (fieldsOf |offset|) = some (.fixed offset) := by
  have hleft : (fieldsOf |offset|).left = false := rfl
  rw [clockOf?, hleft, if_neg Bool.false_ne_true, total_fieldsOf (abs_nonneg offset)]
  rcases h with rfl | ⟨hfirst, hlast⟩
  · rfl
  · rw [if_neg (by omega), if_pos hlast]
    rcases lt_or_ge offset 0 with hneg | hpos
    · rw [decide_eq_true hneg, if_pos rfl, abs_of_neg hneg, Int.neg_neg]
    · rw [decide_eq_false (by omega), if_neg Bool.false_ne_true, abs_of_nonneg hpos]

theorem offsetText_eq (offset : Int) :
    offsetText offset = (if offset < 0 then "-" else "+") ++
      clockText |offset| (|offset| % minute != 0) := by
  rw [offsetText]
  rcases lt_or_ge offset 0 with hneg | hpos
  · simp only [if_pos hneg, abs_of_neg hneg]
  · simp only [if_neg (not_lt.2 hpos), abs_of_nonneg hpos]

theorem fields?_offset {offset : Int} (h : IsOffset offset) :
    fields? (clockText |offset| (|offset| % minute != 0)).toList = some (fieldsOf |offset|) := by
  have hlast : |offset| < day := by
    rcases h with rfl | ⟨-, hlast⟩
    · decide
    · exact hlast
  exact fields?_clockText (abs_nonneg offset) hlast fun hwhole => by simpa using hwhole

theorem time?_clockText_append {t : Int} (hfirst : 0 ≤ t) (hlast : t < day) (rest : List Char) :
    (∀ c ∈ rest.head?, isOfTime c = false) →
      time? ((clockText t true).toList ++ rest) =
        match rest with
        | [] => some (t, .naive)
        | 'Z' :: rest => if rest = [] then some (t, .utc) else none
        | sign :: rest => do
          let offset ← fields? rest
          let clock ← clockOf? (sign == '-') offset
          return (t, clock) := by
  intro hrest
  obtain ⟨hhours, hminutes, hseconds, -⟩ := fieldsOf_bounds hfirst hlast
  have hexists : ¬ (23 < (fieldsOf t).hours ∨ 59 < (fieldsOf t).minutes ∨
      59 < (fieldsOf t).seconds) := by
    omega
  have hspan : ((clockText t true).toList ++ rest).span
      (fun c => c != '+' && c != '-' && c != 'Z') = ((clockText t true).toList, rest) :=
    span_clockText t true hrest
  have hfields : fields? (clockText t true).toList = some (fieldsOf t) :=
    fields?_clockText hfirst hlast fun h => Bool.noConfusion h
  have hleft : (fieldsOf t).left = false := rfl
  have hread := time?.eq_1 ((clockText t true).toList ++ rest)
  simp only [hspan, hfields, Option.bind_eq_bind, Option.bind_some, if_neg hexists,
    total_fieldsOf hfirst, hleft, Bool.false_eq_true, if_false] at hread
  exact hread

theorem time?_clockText {t : Int} (hfirst : 0 ≤ t) (hlast : t < day) :
    time? (clockText t true).toList = some (t, .naive) := by
  have hread := time?_clockText_append hfirst hlast [] (by simp)
  rwa [List.append_nil] at hread

theorem time?_clockText_sign {t : Int} (hfirst : 0 ≤ t) (hlast : t < day) {sign : Char}
    (hsign : sign = '+' ∨ sign = '-') (rest : List Char) :
    time? ((clockText t true).toList ++ sign :: rest) =
      (fields? rest).bind fun offset => (clockOf? (sign == '-') offset).bind fun clock =>
        some (t, clock) := by
  rcases hsign with rfl | rfl
  · exact time?_clockText_append hfirst hlast ('+' :: rest) (by simp [isOfTime])
  · exact time?_clockText_append hfirst hlast ('-' :: rest) (by simp [isOfTime])

theorem time?_offsetText {t : Int} (hfirst : 0 ≤ t) (hlast : t < day) {offset : Int}
    (h : IsOffset offset) :
    time? ((clockText t true).toList ++ (offsetText offset).toList) = some (t, .fixed offset) := by
  have hclock := clockOf?_fieldsOf h
  have hsigns : (if offset < 0 then "-" else "+").toList = [if offset < 0 then '-' else '+'] := by
    split <;> rfl
  have hsign : ((if offset < 0 then '-' else '+') == '-') = decide (offset < 0) := by
    split <;> simp [*]
  rw [offsetText_eq, String.toList_append, hsigns, List.singleton_append,
    time?_clockText_sign hfirst hlast (by split <;> simp), fields?_offset h, Option.bind_some,
    hsign, hclock, Option.bind_some]

/-- A date whose numbers have the width that they are written in. -/
structure Fits (date : Date) : Prop where
  year : 0 ≤ date.year ∧ date.year < 10000
  month : 0 ≤ date.month ∧ date.month < 100
  day : 0 ≤ date.day ∧ date.day < 100

theorem fits_of_isValid {date : Date} (h : date.isValid = true) : Fits date := by
  simp only [Date.isValid, Bool.and_eq_true, decide_eq_true_eq] at h
  obtain ⟨⟨⟨⟨⟨hyear, hyear'⟩, hmonth⟩, hmonth'⟩, hday⟩, hday'⟩ := h
  have hlongest := (daysInMonth_bounds date.year date.month).2
  exact ⟨by omega, by omega, by omega⟩

theorem toList_dateText (date : Date) :
    date.text.toList = paddedChars 4 date.year.toNat ++ '-' :: (paddedChars 2 date.month.toNat ++
      '-' :: paddedChars 2 date.day.toNat) := by
  have hhyphen : "-".toList = ['-'] := rfl
  simp only [Date.text, String.toList_append, toList_padded, hhyphen, List.append_assoc,
    List.cons_append, List.nil_append]

variable {date : Date}

theorem length_dateText (h : Fits date) : date.text.toList.length = 10 := by
  have hyear := h.year
  have hmonth := h.month
  have hday := h.day
  rw [toList_dateText, List.length_append, List.length_cons, List.length_append, List.length_cons,
    length_paddedChars (by decide) (by omega), length_paddedChars (by decide) (by omega),
    length_paddedChars (by decide) (by omega)]

theorem exists_paddedChars_eq {width n : Nat} (hwidth : 0 < width) (h : n < 10 ^ width) :
    ∃ c rest, paddedChars width n = c :: rest ∧ c ≠ 'W' := by
  obtain ⟨c, rest, hchars⟩ := List.exists_cons_of_ne_nil (paddedChars_ne_nil hwidth h)
  refine ⟨c, rest, hchars, ?_⟩
  rintro rfl
  have hdigit : 'W'.isDigit = true :=
    isDigit_of_mem_paddedChars (hchars ▸ List.mem_cons_self)
  cases hdigit

theorem date?_dateText (h : Fits date) : date? date.text.toList = some date := by
  have hyear := h.year
  have hmonth := h.month
  have hday := h.day
  have hmonth' : date.month.toNat < 10 ^ 2 := by omega
  have hday' : date.day.toNat < 10 ^ 2 := by omega
  obtain ⟨c, rest, hchars, hweek⟩ := exists_paddedChars_eq (by decide) hmonth'
  have htaken := takeNumber?_paddedChars (by decide) hmonth' ('-' :: paddedChars 2 date.day.toNat)
  have hlast := takeNumber?_paddedChars (by decide) hday' []
  rw [List.append_nil] at hlast
  rw [hchars, List.cons_append] at htaken
  rw [toList_dateText, date?, takeNumber?_paddedChars (by decide) (by omega), hchars]
  simp only [Option.bind_eq_bind, Option.bind_some, List.head?_cons, decide_true, afterHyphen?,
    if_true, List.cons_append]
  split
  · rename_i hcons
    exact absurd (List.cons.inj hcons).1 hweek
  · rw [htaken]
    simp only [Option.bind_some, hlast, if_true]
    rw [Int.toNat_of_nonneg hyear.1, Int.toNat_of_nonneg hmonth.1, Int.toNat_of_nonneg hday.1]

theorem dateLength_dateText (h : Fits date) (rest : List Char) :
    dateLength (date.text.toList ++ rest) = 10 := by
  have hyear := h.year
  have hmonth := h.month
  have hmonth' : date.month.toNat < 10 ^ 2 := by omega
  obtain ⟨c, month, hchars, hweek⟩ := exists_paddedChars_eq (by decide) hmonth'
  have hlength : (date.text.toList ++ rest).length ≠ 7 := by
    rw [List.length_append, length_dateText h]
    omega
  rw [dateLength, if_neg hlength, toList_dateText, List.append_assoc,
    List.drop_left' (length_paddedChars (by decide) (by omega)), hchars]
  simp only [List.cons_append]
  split
  · rename_i hcons
    exact absurd (List.cons.inj (List.cons.inj hcons).2).1 hweek
  · rfl
  · rename_i hcons
    cases (List.cons.inj hcons).1
  · rename_i hhyphen _
    exact absurd rfl (hhyphen _)

/-- A moment of years 1 to 9999 without a clock, or on a clock with a fixed offset. -/
structure IsPlain (m : Moment) : Prop where
  first : firstWall ≤ m.wall
  last : m.wall ≤ lastWall
  pass : m.fold = false
  clock : m.clock = .naive ∨ ∃ offset, m.clock = .fixed offset ∧ IsOffset offset

theorem isValid_ofWall {wall : Int} (hfirst : firstWall ≤ wall) (hlast : wall ≤ lastWall) :
    (Date.ofDays (wall / day)).isValid = true := by
  have hstart : newYear 1 * day = firstWall := by decide
  have hend : newYear 10000 * day = lastWall + 1 := by decide
  refine isValid_ofDays ?_ ?_
  · rw [← hstart] at hfirst
    exact Int.le_ediv_of_mul_le (by decide) hfirst
  · refine Int.ediv_lt_of_lt_mul (by decide) ?_
    omega

theorem ofText?_append {wall : Int} (hfirst : firstWall ≤ wall) (hlast : wall ≤ lastWall)
    {suffix : List Char} {clock : Clock}
    (htime : time? ((clockText (wall % day) true).toList ++ suffix) = some (wall % day, clock)) :
    ofText? ((Date.ofDays (wall / day)).text.toList ++
        'T' :: ((clockText (wall % day) true).toList ++ suffix)) =
      some ⟨wall, false, clock⟩ := by
  have hvalid := isValid_ofWall hfirst hlast
  have hfits := fits_of_isValid hvalid
  have hlength := length_dateText hfits
  have hlong : ¬ ((Date.ofDays (wall / day)).text.toList ++
      'T' :: ((clockText (wall % day) true).toList ++ suffix)).length < 7 := by
    rw [List.length_append, hlength]
    omega
  have hwall : wall / day * day + wall % day = wall := Int.ediv_mul_add_emod wall day
  rw [ofText?, if_neg hlong, dateLength_dateText hfits]
  simp only [List.take_left' hlength, List.drop_left' hlength, date?_dateText hfits,
    Option.bind_eq_bind, Option.bind_some, hvalid, Bool.not_true, Bool.false_eq_true, if_false,
    htime, toDays_ofDays, hwall]
  rfl

theorem ofText?_iso {m : Moment} (h : IsPlain m) : ofText? m.iso.toList = some m := by
  obtain ⟨wall, fold, clock⟩ := m
  obtain ⟨hfirst, hlast, rfl, hclock⟩ := h
  have hpos : 0 ≤ wall % day := Int.emod_nonneg wall (by decide)
  have hlt : wall % day < day := Int.emod_lt_of_pos wall (by decide)
  rcases hclock with rfl | ⟨offset, rfl, hoffset⟩
  · have htime := time?_clockText hpos hlt
    rw [← List.append_nil (clockText _ _).toList] at htime
    have hiso : (Moment.mk wall false .naive).iso.toList = (Date.ofDays (wall / day)).text.toList ++
        'T' :: ((clockText (wall % day) true).toList ++ []) := by
      simp [Moment.iso, Moment.textWith, Moment.isNaive]
    rw [hiso, ofText?_append hfirst hlast htime]
  · have hiso : (Moment.mk wall false (.fixed offset)).iso.toList =
        (Date.ofDays (wall / day)).text.toList ++
          'T' :: ((clockText (wall % day) true).toList ++ (offsetText offset).toList) := by
      simp [Moment.iso, Moment.textWith, Moment.isNaive, Moment.offset, Clock.offsetOfWall]
    rw [hiso, ofText?_append hfirst hlast (time?_offsetText hpos hlt hoffset)]

end AnomalyWindows.Proofs.WrittenMoments
