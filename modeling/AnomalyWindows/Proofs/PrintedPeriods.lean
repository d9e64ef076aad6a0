import AnomalyWindows.Granularity
import AnomalyWindows.Proofs.SpelledPeriods

namespace AnomalyWindows.Proofs.PrintedPeriods

open Text Calendar
open Period hiding ofDigits
open AnomalyWindows.Proofs.WrittenMoments AnomalyWindows.Proofs.WrittenIntegers
open AnomalyWindows.Proofs.SpelledPeriods

/-- A number in decimal, filled up with zeros to a width. -/
def numeral (width n : Nat) : Numeral where
  chars := paddedChars width n
  ne_nil := List.append_ne_nil_of_right_ne_nil _ Nat.toDigits_ne_nil
  areDigits c hc := by rw [digit?_of_isDigit (isDigit_of_mem_paddedChars hc), Option.isSome_some]

theorem chars_numeral_zero (n : Nat) : (numeral 0 n).chars = Nat.toDigits 10 n := by
  change paddedChars 0 n = _
  rw [paddedChars, Nat.zero_sub, List.replicate_zero, List.nil_append]

theorem value_numeral (width n : Nat) : (numeral width n).value = n := by
  have hdigits : (numeral width n).digits = (paddedChars width n).map digitValue := by
    rw [← List.filterMap_eq_map]
    exact List.filterMap_congr fun c hc => digit?_of_isDigit (isDigit_of_mem_paddedChars hc)
  rw [Numeral.value, hdigits, ofDigits_paddedChars]

theorem length_numeral_le {n : Nat} (h : n < 10 ^ maxDigits) :
    (numeral 0 n).chars.length ≤ maxDigits := by
  rw [chars_numeral_zero]
  exact (Nat.length_toDigits_le_iff (by decide) (by decide)).mpr h

theorem toList_toString_of_nonneg {n : Int} (h : 0 ≤ n) :
    (toString n).toList = (numeral 0 n.toNat).chars := by
  have habs : n.natAbs = n.toNat := by omega
  rw [toList_toString, if_neg (Int.not_lt.mpr h), List.nil_append, habs, chars_numeral_zero]

def field (n : Int) : Option Numeral :=
  if n = 0 then none else some (numeral 0 n.toNat)

theorem amount_field {n : Int} (h : 0 ≤ n) : amount (field n) = n := by
  rw [field]
  split
  · next hzero => exact hzero.symm
  · rw [amount, value_numeral, Int.toNat_of_nonneg h]

theorem inLimit_field {n : Int} (h : InDigits n) : InLimit (field n) := by
  obtain ⟨hpos, hlt⟩ := h
  rw [field]
  split
  · nofun
  · rintro _ ⟨⟩
    exact length_numeral_le (by omega)

theorem toList_part {n : Int} (h : 0 ≤ n) {suffix : String} (letter : Char)
    (hsuffix : suffix.toList = [letter]) :
    (part n suffix).toList = amountChars letter (field n) := by
  rw [part, field]
  split
  · rfl
  · rw [String.toList_append, toList_toString_of_nonneg h, hsuffix]
    rfl

def fraction (n : Nat) (h : n < 1000) : Fraction where
  toNumeral := numeral 3 n
  short := (length_paddedChars (by decide) h).le

theorem millis_fraction {n : Nat} (h : n < 1000) : (fraction n h).millis = n := by
  have hlength : (fraction n h).chars.length = 3 := length_paddedChars (by decide) h
  rw [Fraction.millis, hlength, Nat.pow_zero, Nat.mul_one]
  exact value_numeral 3 n

theorem isSome_field {n : Int} : (field n).isSome = true ↔ n ≠ 0 := by
  rw [field]
  split <;> simp_all

theorem toNat_millis_lt {p : Period} (hp : IsPlain p) : p.millis.toNat < 1000 :=
  (Int.toNat_lt hp.millis.1).mpr hp.millis.2

section Written

variable {p : Period} (hp : IsPlain p)

def seconds : Option Seconds :=
  if p.millis = 0 then (field p.seconds).map fun whole => ⟨whole, none⟩
  else some ⟨numeral 0 p.seconds.toNat, some (fraction p.millis.toNat (toNat_millis_lt hp))⟩

theorem isSome_seconds : (seconds hp).isSome = true ↔ p.seconds ≠ 0 ∨ p.millis ≠ 0 := by
  rw [seconds]
  split
  · next hzero => rw [Option.isSome_map, isSome_field, or_iff_left (not_not.mpr hzero)]
  · next hmillis => exact iff_of_true rfl (.inr hmillis)

theorem toList_seconds :
    (if p.millis ≠ 0 then toString p.seconds ++ "." ++ millisText p.millis ++ "S"
      else part p.seconds "S").toList = secondsChars (seconds hp) := by
  rw [seconds, ite_not]
  split
  · rw [toList_part hp.seconds.1 'S' rfl]
    cases field p.seconds <;> rfl
  · have hmillis : (millisText p.millis).toList = (numeral 3 p.millis.toNat).chars := by
      rw [millisText, if_neg (Int.not_lt.mpr hp.millis.1), toList_padded]
      rfl
    rw [String.toList_append, String.toList_append, String.toList_append,
      toList_toString_of_nonneg hp.seconds.1, hmillis]
    simp [secondsChars, Seconds.chars, fraction]

theorem whole_seconds :
    InLimit ((seconds hp).map Seconds.whole) ∧
      amount ((seconds hp).map Seconds.whole) = p.seconds := by
  obtain ⟨hpos, hlt⟩ := hp.seconds
  rw [seconds]
  split
  · rw [Option.map_map, show Seconds.whole ∘ _ = id from rfl, Option.map_id_fun, id]
    exact ⟨inLimit_field hp.seconds, amount_field hpos⟩
  · refine ⟨?_, ?_⟩
    · rintro _ ⟨⟩
      exact length_numeral_le (by omega)
    · rw [Option.map_some, amount, value_numeral, Int.toNat_of_nonneg hpos]

theorem millis_seconds : (((seconds hp).map Seconds.millis).getD 0 : Nat) = p.millis := by
  rw [seconds]
  split
  · next hzero =>
      rw [hzero]
      cases field p.seconds <;> rfl
  · rw [Option.map_some, Option.getD_some, Seconds.millis, Option.map_some, Option.getD_some,
      millis_fraction, Int.toNat_of_nonneg hp.millis.1]

/-- The spelling of the written form of a period that is not zero. -/
def printed (hne : p ≠ Period.zero) : Spelling where
  weeks := field p.weeks
  days := field p.days
  hours := field p.hours
  minutes := field p.minutes
  seconds := seconds hp
  nonempty := by
    simp only [Bool.or_eq_true, isSome_field, isSome_seconds]
    contrapose! hne
    obtain ⟨⟨hweeks, hdays⟩, ⟨hhours, hminutes⟩, hseconds, hmillis⟩ := hne
    obtain ⟨weeks, days, hours, minutes, seconds, millis⟩ := p
    simp_all [Period.zero]

theorem toList_text (hne : p ≠ Period.zero) : p.text.toList = (printed hp hne).chars := by
  set s := printed hp hne
  have hdate : (part p.weeks "W" ++ part p.days "D").toList =
      amountChars 'W' s.weeks ++ amountChars 'D' s.days := by
    rw [String.toList_append, toList_part hp.weeks.1 'W' rfl,
      toList_part hp.days.1 'D' rfl]
    rfl
  have htime : (part p.hours "H" ++ part p.minutes "M" ++
      if p.millis ≠ 0 then toString p.seconds ++ "." ++ millisText p.millis ++ "S"
      else part p.seconds "S").toList = s.timeChars := by
    rw [String.toList_append, String.toList_append, toList_part hp.hours.1 'H' rfl,
      toList_part hp.minutes.1 'M' rfl, toList_seconds hp, List.append_assoc]
    rfl
  have hnonempty := s.nonempty
  rw [Period.text]
  simp only [← String.toList_eq_nil_iff, hdate, htime, List.append_eq_nil_iff,
    amountChars_eq_nil_iff, Spelling.timeChars_eq_nil_iff]
  rw [if_neg]
  · rw [String.toList_append, String.toList_append, hdate, Spelling.chars]
    cases hhas : s.hasTime with
    | false => simp
    | true => simp [← htime]
  · rintro ⟨⟨hweeks, hdays⟩, hnoTime⟩
    rw [Spelling.hasTime] at hnoTime
    rw [hweeks, hdays, hnoTime] at hnonempty
    cases hnonempty

theorem isReadable_printed (hne : p ≠ Period.zero) : (printed hp hne).IsReadable where
  weeks := inLimit_field hp.weeks
  days := inLimit_field hp.days
  hours := inLimit_field hp.hours
  minutes := inLimit_field hp.minutes
  seconds := (whole_seconds hp).1

theorem period_printed (hne : p ≠ Period.zero) : (printed hp hne).period = p := by
  have hseconds := (whole_seconds hp).2
  have hmillis := millis_seconds hp
  simp only [Spelling.period, printed, amount_field hp.weeks.1, amount_field hp.days.1,
    amount_field hp.hours.1, amount_field hp.minutes.1, hseconds, hmillis]

def signs : List Char :=
  ['P', 'W', 'D', 'T', 'H', 'M', 'S', '.']

theorem mem_amountChars_field {letter c : Char} {n : Int} (h : c ∈ amountChars letter (field n)) :
    c.isDigit = true ∨ c = letter := by
  rw [field] at h
  split at h
  · cases h
  · exact (List.mem_append.mp h).imp isDigit_of_mem_paddedChars List.mem_singleton.mp

theorem mem_secondsChars {c : Char} (h : c ∈ secondsChars (seconds hp)) :
    c.isDigit = true ∨ c ∈ signs := by
  rw [seconds] at h
  split at h
  · have hfield : c ∈ amountChars 'S' (field p.seconds) := by
      revert h
      cases field p.seconds <;> exact id
    exact (mem_amountChars_field hfield).imp_right fun hc : c = 'S' => hc ▸ by decide
  · rcases List.mem_append.mp h with h | h
    · exact .inl (isDigit_of_mem_paddedChars h)
    rcases List.mem_cons.mp h with rfl | h
    · exact .inr (by decide)
    rcases List.mem_append.mp h with h | h
    · exact .inl (isDigit_of_mem_paddedChars h)
    · exact .inr (List.mem_singleton.mp h ▸ by decide)

theorem mem_chars_printed (hne : p ≠ Period.zero) {c : Char} (h : c ∈ (printed hp hne).chars) :
    c.isDigit = true ∨ c ∈ signs := by
  have hamount {letter : Char} (hletter : letter ∈ signs) {n : Int}
      (hc : c ∈ amountChars letter (field n)) : c.isDigit = true ∨ c ∈ signs :=
    (mem_amountChars_field hc).imp_right fun heq : c = letter => heq ▸ hletter
  rcases List.mem_cons.mp h with rfl | h
  · exact .inr (by decide)
  rcases List.mem_append.mp h with h | h
  · exact hamount (by decide) h
  rcases List.mem_append.mp h with h | h
  · exact hamount (by decide) h
  split at h
  · rcases List.mem_cons.mp h with rfl | h
    · exact .inr (by decide)
    rcases List.mem_append.mp h with h | h
    · exact hamount (by decide) h
    rcases List.mem_append.mp h with h | h
    · exact hamount (by decide) h
    · exact mem_secondsChars hp h
  · cases h

end Written

theorem upper_of_isDigit {c : Char} (h : c.isDigit = true) : upper c = c := by
  have hdigit := toNat_of_isDigit h
  rw [upper, if_neg, if_neg]
  · refine dif_neg fun hlower => ?_
    have hle : 97 ≤ c.toNat := hlower.1
    omega
  · rintro rfl
    exact absurd hdigit.2 (by decide)
  · rintro rfl
    exact absurd hdigit.2 (by decide)

theorem isBlank_and_upper_of_mem {c : Char} (h : c.isDigit = true ∨ c ∈ signs) :
    isBlank c = false ∧ upper c = c := by
  have hsigns : ∀ c ∈ signs, isBlank c = false ∧ upper c = c := by
    simp only [signs, List.forall_mem_cons, List.not_mem_nil, false_implies, implies_true]
    decide
  rcases h with h | h
  · exact ⟨isBlank_of_isDigit h, upper_of_isDigit h⟩
  · exact hsigns c h

theorem map_upper_trim {cs : List Char} (h : ∀ c ∈ cs, c.isDigit = true ∨ c ∈ signs) :
    (trim cs).map upper = cs := by
  have hchars : ∀ c ∈ cs, isBlank c = false ∧ upper c = c :=
    fun c hc => isBlank_and_upper_of_mem (h c hc)
  rw [trim, trimWith_of_forall fun c hc => (hchars c hc).1]
  exact (List.map_congr_left fun c hc => (hchars c hc).2).trans (List.map_id _)

theorem ofText_text {p : Period} (hp : IsPlain p) : ofText p.text = .ok p := by
  by_cases hne : p = Period.zero
  · rw [hne]
    rfl
  · have hspells : Spells p.text (printed hp hne) := by
      rw [Spells, toList_text hp hne]
      exact map_upper_trim fun c hc => mem_chars_printed hp hne hc
    exact ofText_eq_ok_iff.mpr ⟨_, hspells, isReadable_printed hp hne, period_printed hp hne⟩

theorem isPlain_of_ofText {text : String} {p : Period} (h : ofText text = .ok p) : IsPlain p := by
  obtain ⟨s, -, hreadable, rfl⟩ := ofText_eq_ok_iff.mp h
  exact isPlain_period hreadable

/-- A text that is the written form of the period that it is read as. -/
def IsNormal (text : String) : Prop :=
  ∃ p, ofText text = .ok p ∧ p.text = text

/-- A period that was read has numbers that can be written, and is read back from its written form.
That is the only normal form of the text that it was read from. -/
theorem read_back {text : String} {p : Period} (h : ofText text = .ok p) :
    IsPlain p ∧ ofText p.text = .ok p ∧ IsNormal p.text ∧
      ∀ normal, IsNormal normal → ofText normal = .ok p → normal = p.text := by
  have hp := isPlain_of_ofText h
  have hback := ofText_text hp
  refine ⟨hp, hback, ⟨p, hback, rfl⟩, ?_⟩
  rintro normal ⟨q, hq, rfl⟩ hnormal
  rw [Except.ok.inj (hq.symm.trans hnormal)]

theorem shortFraction_read_back :
    let text := "p0w٢dt00h0.07s"
    let p : Period := ⟨0, 2, 0, 0, 0, 70⟩
    ofText text = .ok p ∧ p.text = "P2DT0.070S" ∧ ofText "P2DT0.070S" = .ok p ∧
      IsNormal "P2DT0.070S" := by
  intro text p
  have h : ofText "p0w٢dt00h0.07s" = .ok ⟨0, 2, 0, 0, 0, 70⟩ := by rfl
  have htext : p.text = "P2DT0.070S" := by decide +kernel
  obtain ⟨-, hback, hnormal, -⟩ := read_back h
  exact ⟨h, htext, htext ▸ hback, htext ▸ hnormal⟩

theorem isPlain_toPeriod {g : Granularity} (hsize : InDigits g.size)
    (hshort : g.unit ≠ .milliseconds ∨ g.size < 1000) : IsPlain g.toPeriod := by
  have hzero : InDigits 0 := ⟨Int.le_refl 0, Nat.pow_pos (by decide)⟩
  have hnone : (0 : Int) ≤ 0 ∧ (0 : Int) < 1000 := by decide
  obtain ⟨size, unit⟩ := g
  cases unit with
  | days => exact ⟨hzero, hsize, hzero, hzero, hzero, hnone⟩
  | hours => exact ⟨hzero, hzero, hsize, hzero, hzero, hnone⟩
  | minutes => exact ⟨hzero, hzero, hzero, hsize, hzero, hnone⟩
  | seconds => exact ⟨hzero, hzero, hzero, hzero, hsize, hnone⟩
  | milliseconds =>
      exact ⟨hzero, hzero, hzero, hzero, hzero, hsize.1, hshort.resolve_left (not_not.mpr rfl)⟩

theorem takeSeconds_long (whole fraction : Numeral) (h : 3 < fraction.chars.length) :
    let cs := whole.chars ++ '.' :: (fraction.chars ++ ['S'])
    takeSeconds cs = (none, cs) := by
  intro cs
  obtain ⟨d, ds, hwhole⟩ := whole.exists_digits
  obtain ⟨e, es, hfraction⟩ := fraction.exists_digits
  rw [← fraction.length_digits, hfraction, List.length_cons] at h
  have htaken := whole.takeDigits_append (by decide : digit? '.' = none) (fraction.chars ++ ['S'])
  rw [takeSeconds, htaken, hwhole]
  simp only [fraction.takeDigits_append (by decide : digit? 'S' = none), hfraction]
  exact if_neg (by omega)

theorem toList_text_millis {size : Int} (h : 1000 ≤ size) :
    (Period.of size .milliseconds).text.toList =
      'P' :: 'T' :: ((numeral 0 0).chars ++ '.' :: ((numeral 3 size.toNat).chars ++ ['S'])) := by
  have hmillis : (millisText size).toList = (numeral 3 size.toNat).chars := by
    rw [millisText, if_neg (by omega), toList_padded]
    rfl
  have hzero : (toString (0 : Int)).toList = (numeral 0 0).chars :=
    toList_toString_of_nonneg (Int.le_refl 0)
  have hne : size ≠ 0 := by omega
  simpa [Period.text, Period.of, Period.zero, part, hne, hmillis] using hzero

theorem ofText_longMillis {size : Int} (h : 1000 ≤ size) :
    let text := (Period.of size .milliseconds).text
    ofText text = .error (.unsupportedPeriod text) := by
  intro text
  have hchars := toList_text_millis h
  have hwritten : ∀ c ∈ text.toList, c.isDigit = true ∨ c ∈ signs := by
    have hdigit {width n : Nat} {c : Char} (hc : c ∈ (numeral width n).chars) :
        c.isDigit = true ∨ c ∈ signs := .inl (isDigit_of_mem_paddedChars hc)
    have hsign {c : Char} (hc : c ∈ signs) : c.isDigit = true ∨ c ∈ signs := .inr hc
    rw [hchars]
    simp only [List.forall_mem_cons, List.forall_mem_append]
    exact ⟨hsign (by decide), hsign (by decide), fun _ => hdigit, hsign (by decide),
      fun _ => hdigit, hsign (by decide), nofun⟩
  have hlong : 3 < (numeral 3 size.toNat).chars.length := by
    have hdigits := (Nat.length_toDigits_le_iff (n := size.toNat) (b := 10) (k := 3) (by decide)
      (by decide)).not.mpr (by omega)
    change 3 < (paddedChars 3 size.toNat).length
    rw [paddedChars, List.length_append]
    omega
  -- No amount is found behind the T, and what is found there is no second either.
  have hnone : digitsOf? text.toList = none := by
    have hdate (letter : Char) (cs : List Char) : ¬ Begins letter ('T' :: cs) :=
      not_begins_cons letter (by decide) cs
    have htime (letter : Char) (hletter : digit? letter = none) (hne : '.' ≠ letter)
        (cs : List Char) : ¬ Begins letter ((numeral 0 0).chars ++ '.' :: cs) :=
      not_begins_append hletter (by decide) hne _ cs
    have hseconds := takeSeconds_long (numeral 0 0) (numeral 3 size.toNat) hlong
    rw [hchars, digitsOf?]
    simp only [takeAmount_of_not_begins (hdate 'W' _), takeAmount_of_not_begins (hdate 'D' _),
      takeAmount_of_not_begins (htime 'H' (by decide) (by decide) _),
      takeAmount_of_not_begins (htime 'M' (by decide) (by decide) _), hseconds]
    simp
  rw [ofText, map_upper_trim hwritten, hnone]

/-- The period of a granularity is read back from its written form, with its duration, exactly if
it does not count a second or more in milliseconds. -/
theorem granularity_read_back_iff {g : Granularity} (hsize : 0 ≤ g.size)
    (hlimit : g.size.natAbs < 10 ^ maxDigits) :
    (∃ p, ofText g.toPeriod.text = .ok p ∧ p.duration = g.toPeriod.duration) ↔
      g.unit ≠ .milliseconds ∨ g.size < 1000 := by
  constructor
  · rintro ⟨p, hread, -⟩
    by_contra hlong
    obtain ⟨hunit, hsize⟩ := not_or.mp hlong
    rw [Granularity.toPeriod, not_not.mp hunit, ofText_longMillis (Int.not_lt.mp hsize)] at hread
    cases hread
  · exact fun hshort => ⟨_, ofText_text (isPlain_toPeriod ⟨hsize, hlimit⟩ hshort), rfl⟩

theorem sevenMillis_read_back :
    let g : Granularity := ⟨7, .milliseconds⟩
    0 ≤ g.size ∧ g.size.natAbs < 10 ^ maxDigits ∧ g.toPeriod.text = "PT0.007S" ∧
      ∃ p, ofText "PT0.007S" = .ok p ∧ p.duration = g.toPeriod.duration := by
  intro g
  have hlimit : g.size.natAbs < 10 ^ maxDigits :=
    (show 7 < 10 ^ 1 by decide).trans_le (Nat.pow_le_pow_right (by decide) (by decide))
  have htext : g.toPeriod.text = "PT0.007S" := by decide +kernel
  have hback := (granularity_read_back_iff (g := g) (by decide) hlimit).mpr (.inr (by decide))
  exact ⟨by decide, hlimit, htext, htext ▸ hback⟩

/-- One and a half seconds in milliseconds are written with a fraction of four digits, which is not
read. -/
theorem longMillis_not_read_back :
    let g : Granularity := ⟨1500, .milliseconds⟩
    0 ≤ g.size ∧ g.size.natAbs < 10 ^ maxDigits ∧ g.toPeriod.duration = .ok 1500000 ∧
      g.toPeriod.text = "PT0.1500S" ∧
      ofText "PT0.1500S" = .error (.unsupportedPeriod "PT0.1500S") := by
  intro g
  have hlimit : g.size.natAbs < 10 ^ maxDigits :=
    (show 1500 < 10 ^ 4 by decide).trans_le (Nat.pow_le_pow_right (by decide) (by decide))
  exact ⟨by decide, hlimit, rfl, by decide +kernel, rfl⟩

end AnomalyWindows.Proofs.PrintedPeriods
