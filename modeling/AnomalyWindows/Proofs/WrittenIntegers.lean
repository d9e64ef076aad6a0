import AnomalyWindows.Proofs.WrittenMoments
import AnomalyWindows.Text.Integer

namespace AnomalyWindows.Proofs.WrittenIntegers

open Text
open AnomalyWindows.Proofs.WrittenMoments

theorem digit?_lt {c : Char} {d : Nat} (h : digit? c = some d) : d < 10 := by
  obtain ⟨first, -, hfirst⟩ := List.exists_of_findSome?_eq_some h
  split at hfirst
  · cases hfirst
    omega
  · cases hfirst

theorem asciiDigit?_lt {c : Char} {d : Nat} (h : asciiDigit? c = some d) : d < 10 := by
  rw [asciiDigit?] at h
  split at h
  · next hdigit =>
      have hlast : c.toNat ≤ 57 := hdigit.2
      cases h
      omega
  · cases h

theorem lt_of_takeDigits {cs rest : List Char} {digits : List Nat}
    (h : takeDigits asciiDigit? cs = (digits, rest)) : ∀ d ∈ digits, d < 10 := by
  induction cs generalizing digits rest with
  | nil =>
      cases h
      nofun
  | cons c cs ih =>
      rw [takeDigits] at h
      split at h
      · next d hd =>
          cases h
          exact List.forall_mem_cons.mpr ⟨asciiDigit?_lt hd, ih rfl⟩
      · cases h
        nofun

theorem digits_lt_of_digitGroups? {digitOf : Char → Option Nat}
    (hdigit : ∀ c d, digitOf c = some d → d < 10) {cs : List Char} {digits : List Nat}
    (h : digitGroups? digitOf cs = some digits) : ∀ d ∈ digits, d < 10 := by
  induction cs using digitGroups?.induct generalizing digits with
  | case1 => cases h
  | case2 c =>
      obtain ⟨d, hd, rfl⟩ := Option.map_eq_some_iff.mp h
      simpa using hdigit c d hd
  | case3 c rest ih =>
      simp only [digitGroups?, Option.bind_eq_bind, Option.bind_eq_some_iff] at h
      obtain ⟨d, hd, rest, hrest, h⟩ := h
      cases h
      exact List.forall_mem_cons.mpr ⟨hdigit c d hd, ih hrest⟩
  | case4 c rest hsingle hgroup ih =>
      simp only [digitGroups?, Option.bind_eq_bind, Option.bind_eq_some_iff] at h
      obtain ⟨d, hd, rest, hrest, h⟩ := h
      cases h
      exact List.forall_mem_cons.mpr ⟨hdigit c d hd, ih hrest⟩

theorem natAbs_signed (negative : Bool) (n : Nat) : (signed negative n).natAbs = n := by
  cases negative <;> simp [signed]

theorem natAbs_lt_of_integer? {cs : List Char} {n : Int} (h : integer? cs = some n) :
    n.natAbs < 10 ^ maxDigits := by
  unfold integer? at h
  dsimp only at h
  split at h
  · next digits hdigits =>
      split at h
      · next hlength =>
          cases h
          rw [natAbs_signed]
          calc
            _ < 10 ^ digits.length :=
              ofDigits_lt (digits_lt_of_digitGroups? (fun _ _ => digit?_lt) hdigits)
            _ ≤ 10 ^ maxDigits := Nat.pow_le_pow_right (by decide) hlength
      · cases h
  · cases h

theorem digit?_of_isDigit {c : Char} (h : c.isDigit = true) : digit? c = some (digitValue c) := by
  have hbounds : 0x30 ≤ c.toNat ∧ c.toNat < 0x30 + 10 := by
    have hdigit := toNat_of_isDigit h
    omega
  rw [digit?, digitZeros, List.findSome?_cons, if_pos hbounds]
  rfl

theorem ne_underscore_of_isDigit {c : Char} (h : c.isDigit = true) : c ≠ '_' := by
  rintro rfl
  cases h

theorem digitGroups?_of_isDigit {cs : List Char} (hne : cs ≠ [])
    (h : ∀ c ∈ cs, c.isDigit = true) : digitGroups? digit? cs = some (cs.map digitValue) := by
  induction cs with
  | nil => exact absurd rfl hne
  | cons c cs ih =>
      rw [List.forall_mem_cons] at h
      cases cs with
      | nil => simp [digitGroups?, digit?_of_isDigit h.1]
      | cons next rest =>
          have hrest := ih (List.cons_ne_nil _ _) h.2
          have hnext := ne_underscore_of_isDigit (h.2 next (List.mem_cons_self ..))
          rw [digitGroups?, digit?_of_isDigit h.1, hrest]
          · rfl
          · exact List.cons_ne_nil _ _
          · exact fun _ heq => hnext (List.cons.inj heq).1

theorem trimWith_of_forall {drop : Char → Bool} {cs : List Char} (h : ∀ c ∈ cs, drop c = false) :
    trimWith drop cs = cs := by
  have hkept {cs : List Char} (h : ∀ c ∈ cs, drop c = false) : cs.dropWhile drop = cs := by
    cases cs with
    | nil => rfl
    | cons c cs => rw [List.dropWhile_cons_of_neg (by simp [h c (List.mem_cons_self ..)])]
  rw [trimWith, hkept h, hkept fun c hc => h c (List.mem_reverse.mp hc), List.reverse_reverse]

theorem isBlank_of_isDigit {c : Char} (h : c.isDigit = true) : isBlank c = false := by
  have hdigit := toNat_of_isDigit h
  simp only [isBlank, Bool.or_eq_false_iff, Bool.and_eq_false_iff, decide_eq_false_iff_not,
    beq_eq_false_iff_ne]
  omega

theorem isSpace_of_isBlank {c : Char} (h : isBlank c = false) : isSpace c = false := by
  rw [isSpace, h, Bool.false_and]

theorem takeSign_of_isDigit {c : Char} (h : c.isDigit = true) (cs : List Char) :
    takeSign (c :: cs) = (false, c :: cs) := by
  unfold takeSign
  split
  · next heq =>
      cases heq
      cases h
  · next heq =>
      cases heq
      cases h
  · rfl

theorem isDigit_toDigits (n : Nat) : ∀ c ∈ Nat.toDigits 10 n, c.isDigit = true := fun _ =>
  Nat.isDigit_of_mem_toDigits (by decide) (by decide)

theorem takeSign_toDigits (n : Nat) :
    takeSign (Nat.toDigits 10 n) = (false, Nat.toDigits 10 n) := by
  have hdigits := isDigit_toDigits n
  obtain ⟨c, cs, hcs⟩ := List.exists_cons_of_ne_nil (Nat.toDigits_ne_nil (b := 10) (n := n))
  rw [hcs] at hdigits ⊢
  exact takeSign_of_isDigit (hdigits c (List.mem_cons_self ..)) cs

theorem integer?_of_takeSign {cs : List Char} {negative : Bool} {n : Nat} (h : n < 10 ^ maxDigits)
    (hsign : takeSign (trimWith isSpace cs) = (negative, Nat.toDigits 10 n)) :
    integer? cs = some (signed negative n) := by
  have hread := digitGroups?_of_isDigit Nat.toDigits_ne_nil (isDigit_toDigits n)
  have hlength : ((Nat.toDigits 10 n).map digitValue).length ≤ maxDigits := by
    rw [List.length_map]
    exact (Nat.length_toDigits_le_iff (by decide) (by decide)).mpr h
  have hvalue : ofDigits ((Nat.toDigits 10 n).map digitValue) = n := by
    have hpadded := ofDigits_paddedChars 0 n
    rwa [paddedChars, Nat.zero_sub, List.replicate_zero, List.nil_append] at hpadded
  simp only [integer?, hsign, hread, if_pos hlength, hvalue]

theorem toList_toString (n : Int) :
    (toString n).toList = (if n < 0 then ['-'] else []) ++ Nat.toDigits 10 n.natAbs := by
  rw [Int.toString_eq_repr]
  cases n with
  | ofNat n =>
      have hnonneg : ¬ Int.ofNat n < 0 := Int.not_lt.mpr (Int.natCast_nonneg n)
      rw [if_neg hnonneg]
      exact Nat.toList_repr
  | negSucc n =>
      rw [if_pos (Int.negSucc_lt_zero n), Int.repr, String.toList_append, Nat.toList_repr]
      rfl

theorem isDigit_of_mem_toString {n : Int} {c : Char} (h : c ∈ (toString n).toList) :
    c = '-' ∨ c.isDigit = true := by
  rw [toList_toString] at h
  rcases List.mem_append.mp h with h | h
  · split at h
    · exact .inl (List.mem_singleton.mp h)
    · cases h
  · exact .inr (isDigit_toDigits _ c h)

theorem integer?_toString {n : Int} (h : n.natAbs < 10 ^ maxDigits) :
    integer? (toString n).toList = some n := by
  have hspace : ∀ c ∈ (toString n).toList, isSpace c = false := by
    intro c hc
    rcases isDigit_of_mem_toString hc with rfl | hc
    · rfl
    · exact isSpace_of_isBlank (isBlank_of_isDigit hc)
  by_cases hnegative : n < 0
  · have hsign : takeSign (trimWith isSpace (toString n).toList) =
        (true, Nat.toDigits 10 n.natAbs) := by
      rw [trimWith_of_forall hspace, toList_toString, if_pos hnegative]
      rfl
    rw [integer?_of_takeSign h hsign, signed, if_pos rfl,
      Int.ofNat_natAbs_of_nonpos (Int.le_of_lt hnegative), Int.neg_neg]
  · have hsign : takeSign (trimWith isSpace (toString n).toList) =
        (false, Nat.toDigits 10 n.natAbs) := by
      rw [trimWith_of_forall hspace, toList_toString, if_neg hnegative, List.nil_append,
        takeSign_toDigits]
    rw [integer?_of_takeSign h hsign, signed, if_neg Bool.false_ne_true,
      Int.natAbs_of_nonneg (Int.not_lt.mp hnegative)]

end AnomalyWindows.Proofs.WrittenIntegers
