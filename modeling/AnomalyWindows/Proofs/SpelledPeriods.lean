import AnomalyWindows.Period.Reader
import AnomalyWindows.Period.Shift
import AnomalyWindows.Proofs.CalendarMoves
import AnomalyWindows.Proofs.WrittenIntegers

namespace AnomalyWindows.Proofs.SpelledPeriods

open Text Calendar
open Period hiding ofDigits
open AnomalyWindows.Proofs.CalendarMoves AnomalyWindows.Proofs.WrittenMoments
open AnomalyWindows.Proofs.WrittenIntegers

theorem takeDigits_eq (digitOf : Char → Option Nat) (cs : List Char) :
    takeDigits digitOf cs =
      ((cs.takeWhile fun c => (digitOf c).isSome).filterMap digitOf,
        cs.dropWhile fun c => (digitOf c).isSome) := by
  induction cs with
  | nil => rfl
  | cons c cs ih =>
      cases h : digitOf c with
      | none => simp [takeDigits, h]
      | some d => simp [takeDigits, h, ih]

/-- Decimal digits of any script, at least one. -/
structure Numeral where
  chars : List Char
  ne_nil : chars ≠ []
  areDigits : ∀ c ∈ chars, (digit? c).isSome = true

namespace Numeral

def digits (n : Numeral) : List Nat :=
  n.chars.filterMap digit?

def value (n : Numeral) : Nat :=
  ofDigits n.digits

theorem length_digits (n : Numeral) : n.digits.length = n.chars.length := by
  rw [digits, List.filterMap_length_eq_length]
  exact n.areDigits

theorem exists_digits (n : Numeral) : ∃ d ds, n.digits = d :: ds := by
  refine List.exists_cons_of_ne_nil fun hnil => n.ne_nil ?_
  rw [← List.length_eq_zero_iff, ← n.length_digits, hnil, List.length_nil]

theorem takeDigits_append (n : Numeral) {c : Char} (hc : digit? c = none) (rest : List Char) :
    takeDigits digit? (n.chars ++ c :: rest) = (n.digits, c :: rest) := by
  rw [takeDigits_eq, List.takeWhile_append_of_pos n.areDigits,
    List.dropWhile_append_of_pos n.areDigits]
  simp [hc, digits]

theorem exists_of_takeDigits {cs rest : List Char} {d : Nat} {ds : List Nat}
    (h : takeDigits digit? cs = (d :: ds, rest)) :
    ∃ n : Numeral, cs = n.chars ++ rest ∧ n.digits = d :: ds := by
  rw [takeDigits_eq] at h
  obtain ⟨hdigits, hrest⟩ := Prod.mk.inj h
  refine ⟨⟨cs.takeWhile fun c => (digit? c).isSome, ?_, fun c hc => ?_⟩, ?_, hdigits⟩
  · intro hnil
    rw [hnil] at hdigits
    cases hdigits
  · exact List.all_eq_true.mp List.all_takeWhile c hc
  · rw [← hrest, List.takeWhile_append_dropWhile]

end Numeral

def amountChars (letter : Char) : Option Numeral → List Char
  | some n => n.chars ++ [letter]
  | none => []

/-- A text begins with a number and a letter. -/
def Begins (letter : Char) (cs : List Char) : Prop :=
  ∃ (n : Numeral) (rest : List Char), cs = n.chars ++ letter :: rest

theorem not_begins_nil (letter : Char) : ¬ Begins letter [] := by
  rintro ⟨n, rest, h⟩
  exact absurd h.symm (by simp)

theorem not_begins_cons (letter : Char) {c : Char} (hc : digit? c = none) (cs : List Char) :
    ¬ Begins letter (c :: cs) := by
  rintro ⟨n, rest, h⟩
  obtain ⟨first, others, hchars⟩ := List.exists_cons_of_ne_nil n.ne_nil
  have hfirst := n.areDigits first (hchars ▸ List.mem_cons_self ..)
  rw [hchars, List.cons_append] at h
  rw [← (List.cons.inj h).1, hc] at hfirst
  cases hfirst

theorem takeAmount_of_not_begins {letter : Char} {cs : List Char} (h : ¬ Begins letter cs) :
    takeAmount letter cs = (none, cs) := by
  unfold takeAmount
  split
  · next d ds c rest htaken =>
      obtain ⟨n, hcs, -⟩ := Numeral.exists_of_takeDigits htaken
      exact if_neg fun hc : c = letter => h ⟨n, rest, hc ▸ hcs⟩
  · rfl

section Letter

variable {letter : Char} (hletter : digit? letter = none)
include hletter

theorem takeAmount_append (n : Numeral) (rest : List Char) :
    takeAmount letter (n.chars ++ letter :: rest) = (some n.digits, rest) := by
  obtain ⟨d, ds, hdigits⟩ := n.exists_digits
  rw [takeAmount, n.takeDigits_append hletter, hdigits]
  exact if_pos rfl

theorem not_begins_append {c : Char} (hc : digit? c = none) (hne : c ≠ letter) (n : Numeral)
    (rest : List Char) : ¬ Begins letter (n.chars ++ c :: rest) := by
  rintro ⟨n', rest', h⟩
  have htaken := n.takeDigits_append hc rest
  rw [h, n'.takeDigits_append hletter] at htaken
  exact hne (List.cons.inj (Prod.mk.inj htaken).2).1.symm

theorem not_begins_amount {c : Char} (hc : digit? c = none) (hne : c ≠ letter) {rest : List Char}
    (h : ¬ Begins letter rest) (amount : Option Numeral) :
    ¬ Begins letter (amountChars c amount ++ rest) := by
  cases amount with
  | none => exact h
  | some n =>
      rw [amountChars, List.append_assoc]
      exact not_begins_append hletter hc hne n rest

theorem takeAmount_amountChars (amount : Option Numeral) {rest : List Char}
    (h : ¬ Begins letter rest) :
    takeAmount letter (amountChars letter amount ++ rest) =
      (amount.map Numeral.digits, rest) := by
  cases amount with
  | none => exact takeAmount_of_not_begins h
  | some n =>
      rw [amountChars, List.append_assoc]
      exact takeAmount_append hletter n rest

end Letter

theorem exists_of_takeAmount {letter : Char} {cs rest : List Char} {digits : Option (List Nat)}
    (h : takeAmount letter cs = (digits, rest)) :
    ∃ amount : Option Numeral,
      cs = amountChars letter amount ++ rest ∧ amount.map Numeral.digits = digits := by
  unfold takeAmount at h
  split at h
  · next d ds c rest' htaken =>
      obtain ⟨n, hcs, hdigits⟩ := Numeral.exists_of_takeDigits htaken
      split at h
      · next hc =>
          cases h
          exact ⟨some n, by simp [amountChars, hcs, hc], by simp [hdigits]⟩
      · cases h
        exact ⟨none, rfl, rfl⟩
  · cases h
    exact ⟨none, rfl, rfl⟩

structure Fraction extends Numeral where
  short : chars.length ≤ 3

def Fraction.millis (f : Fraction) : Nat :=
  f.value * 10 ^ (3 - f.chars.length)

structure Seconds where
  whole : Numeral
  fraction : Option Fraction

namespace Seconds

def chars (s : Seconds) : List Char :=
  match s.fraction with
  | some f => s.whole.chars ++ '.' :: (f.chars ++ ['S'])
  | none => s.whole.chars ++ ['S']

def digits (s : Seconds) : List Nat × List Nat :=
  (s.whole.digits, (s.fraction.map fun f => f.digits).getD [])

def millis (s : Seconds) : Nat :=
  (s.fraction.map Fraction.millis).getD 0

theorem takeSeconds_chars (s : Seconds) : takeSeconds s.chars = (some s.digits, []) := by
  obtain ⟨whole, fraction⟩ := s
  obtain ⟨d, ds, hdigits⟩ := whole.exists_digits
  cases fraction with
  | none =>
      rw [chars, takeSeconds, whole.takeDigits_append (by decide), hdigits]
      simp [digits, hdigits]
  | some f =>
      obtain ⟨e, es, hfraction⟩ := f.exists_digits
      have hshort := f.short
      rw [← f.length_digits, hfraction, List.length_cons] at hshort
      rw [chars, takeSeconds, whole.takeDigits_append (by decide), hdigits]
      simp only [f.takeDigits_append (by decide : digit? 'S' = none), hfraction]
      rw [if_pos (by omega)]
      simp [digits, hdigits, hfraction]

end Seconds

def secondsChars (seconds : Option Seconds) : List Char :=
  (seconds.map Seconds.chars).getD []

theorem exists_of_takeSeconds {cs : List Char} {digits : Option (List Nat × List Nat)}
    (h : takeSeconds cs = (digits, [])) :
    ∃ seconds : Option Seconds,
      cs = secondsChars seconds ∧ seconds.map Seconds.digits = digits := by
  unfold takeSeconds at h
  split at h
  · next d ds rest htaken =>
      obtain ⟨n, hcs, hdigits⟩ := Numeral.exists_of_takeDigits htaken
      cases h
      exact ⟨some ⟨n, none⟩, hcs, by simp [Seconds.digits, hdigits]⟩
  · next d ds rest htaken =>
      obtain ⟨n, hcs, hdigits⟩ := Numeral.exists_of_takeDigits htaken
      split at h
      · next e es rest' hfraction =>
          obtain ⟨f, hrest, hes⟩ := Numeral.exists_of_takeDigits hfraction
          split at h
          · next hshort =>
              cases h
              have hlength : f.chars.length ≤ 3 := by
                rw [← f.length_digits, hes, List.length_cons]
                omega
              refine ⟨some ⟨n, some ⟨f, hlength⟩⟩, ?_, ?_⟩
              · simp [secondsChars, Seconds.chars, hcs, hrest]
              · simp [Seconds.digits, hdigits, hes]
          · cases h
            exact ⟨none, rfl, rfl⟩
      · cases h
        exact ⟨none, rfl, rfl⟩
  · cases h
    exact ⟨none, rfl, rfl⟩

/-- What a text spells: some amounts, at least one. -/
structure Spelling where
  weeks : Option Numeral
  days : Option Numeral
  hours : Option Numeral
  minutes : Option Numeral
  seconds : Option Seconds
  nonempty : (weeks.isSome || days.isSome || (hours.isSome || minutes.isSome || seconds.isSome)) =
    true

namespace Spelling

def hasTime (s : Spelling) : Bool :=
  s.hours.isSome || s.minutes.isSome || s.seconds.isSome

def timeChars (s : Spelling) : List Char :=
  amountChars 'H' s.hours ++ (amountChars 'M' s.minutes ++ secondsChars s.seconds)

def chars (s : Spelling) : List Char :=
  'P' :: (amountChars 'W' s.weeks ++
    (amountChars 'D' s.days ++ if s.hasTime then 'T' :: s.timeChars else []))

def digits (s : Spelling) : Digits :=
  ⟨s.weeks.map Numeral.digits, s.days.map Numeral.digits, s.hours.map Numeral.digits,
    s.minutes.map Numeral.digits, s.seconds.map Seconds.digits⟩

end Spelling

theorem amountChars_eq_nil_iff {letter : Char} {n : Option Numeral} :
    amountChars letter n = [] ↔ n.isSome = false := by
  cases n <;> simp [amountChars]

theorem Spelling.timeChars_eq_nil_iff {s : Spelling} : s.timeChars = [] ↔ s.hasTime = false := by
  have hseconds : secondsChars s.seconds = [] ↔ s.seconds.isSome = false := by
    rcases s.seconds with _ | ⟨whole, _ | f⟩ <;> simp [secondsChars, Seconds.chars]
  simp only [timeChars, hasTime, List.append_eq_nil_iff, amountChars_eq_nil_iff, hseconds,
    Bool.or_eq_false_iff, and_assoc]

theorem not_begins_secondsChars {letter : Char} (hletter : digit? letter = none)
    (hpoint : '.' ≠ letter) (hs : 'S' ≠ letter) (seconds : Option Seconds) :
    ¬ Begins letter (secondsChars seconds) := by
  rcases seconds with _ | ⟨whole, _ | f⟩
  · exact not_begins_nil letter
  · exact not_begins_append hletter (by decide) hs whole []
  · exact not_begins_append hletter (by decide) hpoint whole _

theorem takeSeconds_secondsChars (seconds : Option Seconds) :
    takeSeconds (secondsChars seconds) = (seconds.map Seconds.digits, []) := by
  cases seconds with
  | none => rfl
  | some s => exact s.takeSeconds_chars

theorem digitsOf?_chars (s : Spelling) : digitsOf? s.chars = some s.digits := by
  have htime (letter : Char) :
      ¬ Begins letter (if s.hasTime then 'T' :: s.timeChars else []) := by
    split
    · exact not_begins_cons letter (by decide) _
    · exact not_begins_nil letter
  have hseconds (letter : Char) (hletter : digit? letter = none) (hpoint : '.' ≠ letter)
      (hs : 'S' ≠ letter) : ¬ Begins letter (secondsChars s.seconds) :=
    not_begins_secondsChars hletter hpoint hs s.seconds
  have hweeks := takeAmount_amountChars (by decide : digit? 'W' = none) s.weeks
    (not_begins_amount (c := 'D') (by decide) (by decide) (by decide) (htime 'W') s.days)
  have hdays := takeAmount_amountChars (by decide : digit? 'D' = none) s.days (htime 'D')
  have hhours := takeAmount_amountChars (by decide : digit? 'H' = none) s.hours
    (not_begins_amount (c := 'M') (by decide) (by decide) (by decide)
      (hseconds 'H' (by decide) (by decide) (by decide)) s.minutes)
  have hminutes := takeAmount_amountChars (by decide : digit? 'M' = none) s.minutes
    (hseconds 'M' (by decide) (by decide) (by decide))
  have hnonempty := s.nonempty
  simp only [Spelling.chars, digitsOf?, hweeks, hdays]
  cases htimed : s.hasTime with
  | false =>
      rw [Spelling.hasTime, Bool.or_eq_false_iff, Bool.or_eq_false_iff] at htimed
      obtain ⟨⟨hnoHours, hnoMinutes⟩, hnoSeconds⟩ := htimed
      simp only [hnoHours, hnoMinutes, hnoSeconds, Bool.or_false] at hnonempty
      rw [Option.isSome_eq_false_iff, Option.isNone_iff_eq_none] at hnoHours hnoMinutes hnoSeconds
      simp [Spelling.digits, hnonempty, hnoHours, hnoMinutes, hnoSeconds]
  | true =>
      simp only [if_true, Spelling.timeChars, hhours, hminutes, takeSeconds_secondsChars]
      rw [Spelling.hasTime] at htimed
      simp [Spelling.digits, htimed]

theorem exists_spelling {cs : List Char} {digits : Digits} (h : digitsOf? cs = some digits) :
    ∃ s : Spelling, cs = s.chars ∧ s.digits = digits := by
  unfold digitsOf? at h
  split at h
  · next cs =>
      rcases hweeks : takeAmount 'W' cs with ⟨weekDigits, behindWeeks⟩
      rcases hdays : takeAmount 'D' behindWeeks with ⟨dayDigits, behindDays⟩
      obtain ⟨weeks, rfl, rfl⟩ := exists_of_takeAmount hweeks
      obtain ⟨days, rfl, rfl⟩ := exists_of_takeAmount hdays
      simp only [hweeks, hdays] at h
      split at h
      · split at h
        · next hdate =>
            cases h
            rw [Option.isSome_map, Option.isSome_map] at hdate
            refine ⟨⟨weeks, days, none, none, none, by simp [hdate]⟩, ?_, rfl⟩
            simp [Spelling.chars, Spelling.hasTime]
        · cases h
      · next cs =>
          rcases hhours : takeAmount 'H' cs with ⟨hourDigits, behindHours⟩
          rcases hminutes : takeAmount 'M' behindHours with ⟨minuteDigits, behindMinutes⟩
          rcases hseconds : takeSeconds behindMinutes with ⟨secondDigits, behindSeconds⟩
          obtain ⟨hours, rfl, rfl⟩ := exists_of_takeAmount hhours
          obtain ⟨minutes, rfl, rfl⟩ := exists_of_takeAmount hminutes
          simp only [hhours, hminutes, hseconds] at h
          split at h
          · next htime =>
              cases h
              obtain ⟨rfl, htime⟩ := htime
              obtain ⟨seconds, rfl, rfl⟩ := exists_of_takeSeconds hseconds
              simp only [Option.isSome_map] at htime
              refine ⟨⟨weeks, days, hours, minutes, seconds, by simp [htime]⟩, ?_, rfl⟩
              simp [Spelling.chars, Spelling.hasTime, htime, Spelling.timeChars]
          · cases h
      · cases h
  · cases h

def amount : Option Numeral → Int
  | some n => n.value
  | none => 0

/-- A number that is not too long, or none. -/
def InLimit (n : Option Numeral) : Prop :=
  ∀ numeral ∈ n, numeral.chars.length ≤ maxDigits

namespace Spelling

/-- The numbers of a spelling are not too long. -/
structure IsReadable (s : Spelling) : Prop where
  weeks : InLimit s.weeks
  days : InLimit s.days
  hours : InLimit s.hours
  minutes : InLimit s.minutes
  seconds : InLimit (s.seconds.map Seconds.whole)

def period (s : Spelling) : Period :=
  ⟨amount s.weeks, amount s.days, amount s.hours, amount s.minutes,
    amount (s.seconds.map Seconds.whole), (s.seconds.map Seconds.millis).getD 0⟩

end Spelling

theorem fieldOf_digits_eq_ok_iff {n : Option Numeral} {value : Int} :
    fieldOf (n.map Numeral.digits) = .ok value ↔ InLimit n ∧ amount n = value := by
  cases n with
  | none => simp [fieldOf, InLimit, amount]
  | some n =>
      rw [Option.map_some, fieldOf, amountOf, n.length_digits]
      by_cases hlimit : n.chars.length ≤ maxDigits
      · simp [hlimit, InLimit, amount, Numeral.value]
      · simp [hlimit, InLimit]

theorem millisOf_fraction (f : Fraction) : millisOf f.digits = f.millis := by
  have hlength := f.length_digits
  have hshort := f.short
  have hpos : f.chars.length ≠ 0 := fun h => f.ne_nil (List.length_eq_zero_iff.mp h)
  rw [Fraction.millis, Numeral.value, ← hlength]
  rw [← hlength] at hshort hpos
  match f.digits, hshort, hpos with
  | [a], _, _ => simp [millisOf, ofDigits]; omega
  | [a, b], _, _ => simp [millisOf, ofDigits]; omega
  | [a, b, c], _, _ => simp [millisOf, ofDigits]; omega

theorem ofDigits_digits_eq_ok_iff {s : Spelling} {p : Period} :
    Period.ofDigits s.digits = .ok p ↔ s.IsReadable ∧ s.period = p := by
  have hseconds : (s.seconds.map Seconds.digits).map (·.1) =
      (s.seconds.map Seconds.whole).map Numeral.digits := by
    cases s.seconds <;> rfl
  have hmillis : millisOf (((s.seconds.map Seconds.digits).map (·.2)).getD []) =
      (s.seconds.map Seconds.millis).getD 0 := by
    rcases s.seconds with _ | ⟨whole, _ | f⟩
    · rfl
    · rfl
    · exact millisOf_fraction f
  simp only [Period.ofDigits, Spelling.digits, hseconds, hmillis, bind_eq_ok_iff,
    fieldOf_digits_eq_ok_iff]
  constructor
  · rintro ⟨_, ⟨hweeks, rfl⟩, _, ⟨hdays, rfl⟩, _, ⟨hhours, rfl⟩, _, ⟨hminutes, rfl⟩, _,
      ⟨hseconds, rfl⟩, h⟩
    exact ⟨⟨hweeks, hdays, hhours, hminutes, hseconds⟩, Except.ok.inj h⟩
  · rintro ⟨⟨hweeks, hdays, hhours, hminutes, hseconds⟩, rfl⟩
    exact ⟨_, ⟨hweeks, rfl⟩, _, ⟨hdays, rfl⟩, _, ⟨hhours, rfl⟩, _, ⟨hminutes, rfl⟩, _,
      ⟨hseconds, rfl⟩, rfl⟩

/-- A reading that nothing but too many digits can stop. -/
def StopsAtLength {α : Type} (result : Except Fault α) : Prop :=
  ∀ fault, result = .error fault → ∃ count, fault = .tooManyDigits count

theorem stopsAtLength_bind {α β : Type} {result : Except Fault α} {next : α → Except Fault β}
    (h : StopsAtLength result) (hnext : ∀ x, StopsAtLength (next x)) :
    StopsAtLength (result >>= next) := by
  intro fault hfault
  rcases bind_eq_error_iff.mp hfault with hfault | ⟨x, -, hfault⟩
  · exact h fault hfault
  · exact hnext x fault hfault

theorem stopsAtLength_fieldOf (digits : Option (List Nat)) : StopsAtLength (fieldOf digits) := by
  intro fault h
  cases digits with
  | none => cases h
  | some digits =>
      rw [fieldOf, amountOf] at h
      split at h
      · cases h
      · exact ⟨_, (Except.error.inj h).symm⟩

theorem stopsAtLength_ofDigits (digits : Digits) : StopsAtLength (Period.ofDigits digits) :=
  stopsAtLength_bind (stopsAtLength_fieldOf _) fun _ =>
    stopsAtLength_bind (stopsAtLength_fieldOf _) fun _ =>
      stopsAtLength_bind (stopsAtLength_fieldOf _) fun _ =>
        stopsAtLength_bind (stopsAtLength_fieldOf _) fun _ =>
          stopsAtLength_bind (stopsAtLength_fieldOf _) fun _ => nofun

theorem Numeral.value_lt (n : Numeral) : n.value < 10 ^ n.chars.length := by
  rw [← n.length_digits]
  refine ofDigits_lt fun d hd => ?_
  obtain ⟨c, -, hc⟩ := List.mem_filterMap.mp hd
  exact digit?_lt hc

theorem Fraction.millis_lt (f : Fraction) : f.millis < 1000 := by
  have hpow : 10 ^ f.chars.length * 10 ^ (3 - f.chars.length) = 1000 := by
    rw [← Nat.pow_add, Nat.add_sub_cancel' f.short]
  rw [Fraction.millis, ← hpow]
  exact Nat.mul_lt_mul_of_pos_right f.value_lt (Nat.pow_pos (by decide))

/-- A number that is neither negative nor too long. -/
def InDigits (n : Int) : Prop :=
  0 ≤ n ∧ n.natAbs < 10 ^ maxDigits

/-- A period of such numbers, with less than a second of milliseconds. -/
structure IsPlain (p : Period) : Prop where
  weeks : InDigits p.weeks
  days : InDigits p.days
  hours : InDigits p.hours
  minutes : InDigits p.minutes
  seconds : InDigits p.seconds
  millis : 0 ≤ p.millis ∧ p.millis < 1000

theorem inDigits_amount {n : Option Numeral} (h : InLimit n) : InDigits (amount n) := by
  cases n with
  | none => exact ⟨Int.le_refl 0, Nat.pow_pos (by decide)⟩
  | some n =>
      have hlt : n.value < 10 ^ maxDigits :=
        n.value_lt.trans_le (Nat.pow_le_pow_right (by decide) (h n rfl))
      exact ⟨Int.natCast_nonneg _, hlt⟩

theorem Seconds.millis_lt (s : Seconds) : s.millis < 1000 := by
  rcases s with ⟨whole, _ | f⟩
  · exact Nat.zero_lt_succ 999
  · exact f.millis_lt

theorem isPlain_period {s : Spelling} (h : s.IsReadable) : IsPlain s.period where
  weeks := inDigits_amount h.weeks
  days := inDigits_amount h.days
  hours := inDigits_amount h.hours
  minutes := inDigits_amount h.minutes
  seconds := inDigits_amount h.seconds
  millis := by
    refine ⟨Int.natCast_nonneg _, Int.ofNat_lt.mpr ?_⟩
    cases s.seconds with
    | none => exact Nat.zero_lt_succ 999
    | some seconds => exact seconds.millis_lt

/-- A text spells a period, with blanks around it and letters of either case. -/
def Spells (text : String) (s : Spelling) : Prop :=
  (trim text.toList).map upper = s.chars

theorem ofText_eq_ok_iff {text : String} {p : Period} :
    ofText text = .ok p ↔ ∃ s : Spelling, Spells text s ∧ s.IsReadable ∧ s.period = p := by
  rw [ofText]
  constructor
  · intro h
    split at h
    · next digits hdigits =>
        obtain ⟨s, hspells, rfl⟩ := exists_spelling hdigits
        exact ⟨s, hspells, ofDigits_digits_eq_ok_iff.mp h⟩
    · cases h
  · rintro ⟨s, hspells, hs⟩
    rw [hspells, digitsOf?_chars]
    exact ofDigits_digits_eq_ok_iff.mpr hs

def sumOfFields (p : Period) : Int :=
  ((((((p.weeks * 7 + p.days) * 24 + p.hours) * 60 + p.minutes) * 60 + p.seconds) * 1000 +
    p.millis) * 1000)

theorem total_eq (p : Period) : p.total = sumOfFields p := by
  simp only [Period.total, Period.calendarDays, Period.exact, sumOfFields, day, hour, minute,
    second]
  omega

theorem ofText_eq_error {text : String} {fault : Fault} (h : ofText text = .error fault) :
    fault.isUnusableValue = true := by
  rw [ofText] at h
  split at h
  · obtain ⟨count, rfl⟩ := stopsAtLength_ofDigits _ _ h
    rfl
  · cases h
    rfl

/-- A text is read exactly if it spells a period in numbers that are not too long, and then as that
period. Its milliseconds are less than a second, and its duration is the sum of its fields, if that
is not too long. Every other text is refused for what it is. -/
theorem read_iff_spelled (text : String) :
    (∀ p, ofText text = .ok p ↔ ∃ s : Spelling, Spells text s ∧ s.IsReadable ∧ s.period = p) ∧
    (∀ p, ofText text = .ok p →
      0 ≤ p.millis ∧ p.millis < 1000 ∧ p.duration = checkedDuration (sumOfFields p)) ∧
    (∀ fault, ofText text = .error fault → fault.isUnusableValue = true) := by
  refine ⟨fun p => ofText_eq_ok_iff, fun p h => ?_, fun fault => ofText_eq_error⟩
  obtain ⟨s, -, hreadable, rfl⟩ := ofText_eq_ok_iff.mp h
  obtain ⟨hpos, hlt⟩ := (isPlain_period hreadable).millis
  exact ⟨hpos, hlt, by rw [Period.duration, total_eq]⟩

theorem spelled_in_two_scripts :
    let text := " p1wt٢h5.06s\n"
    let p : Period := ⟨1, 0, 2, 0, 5, 60⟩
    ofText text = .ok p ∧ (∃ s : Spelling, Spells text s ∧ s.IsReadable ∧ s.period = p) ∧
      p.duration = .ok 612005060000 := by
  intro text p
  have h : ofText " p1wt٢h5.06s\n" = .ok ⟨1, 0, 2, 0, 5, 60⟩ := by rfl
  obtain ⟨hread, hduration, -⟩ := read_iff_spelled text
  exact ⟨h, (hread p).mp h, (hduration p h).2.2.trans rfl⟩

end AnomalyWindows.Proofs.SpelledPeriods
