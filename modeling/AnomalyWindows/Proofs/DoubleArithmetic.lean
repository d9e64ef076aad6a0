import AnomalyWindows.Number.Decimal
import Mathlib

namespace AnomalyWindows.Proofs.DoubleArithmetic
open Float.Model Float.Model.UnpackedFloat Float.Model.Format

/-- The finite numbers that are doubles -/
inductive Storable : UnpackedFloat → Prop
  | zero (s : Sign) : Storable (.zero s)
  | normal (s : Sign) {m : Nat} {e : Int} (hm : 0 < m) (hlog : m.log2 = 52) (hlow : -1074 ≤ e)
    (hhigh : e ≤ 971) : Storable (.finite s m e hm)
  | subnormal (s : Sign) {m : Nat} (hm : 0 < m) (hlog : m.log2 < 52) :
    Storable (.finite s m (-1074) hm)

theorem pack_unpack (x : Float.Model) : pack x.unpack = x := by
  obtain ⟨bits, hvalid⟩ := x
  simp only [Float.Model.pack, Float.Model.unpack, pack_unpack_of_valid hvalid]

theorem toNat_implicit (m : BitVec 52) : (1#1 ++ m).toNat = 2 ^ 52 + m.toNat := by
  rw [BitVec.toNat_append, ← Nat.shiftLeft_add_eq_or_of_lt m.isLt]
  rfl

theorem log2_implicit {m : Nat} (h : m < 2 ^ 52) : (2 ^ 52 + m).log2 = 52 :=
  (Nat.log2_eq_iff (by omega)).mpr ⟨by omega, by omega⟩

theorem unpack_normal (s : Sign) {e : BitVec 11} (htop : e ≠ -1#11) (hzero : e ≠ 0#11)
    (m : BitVec 52) :
    UnpackedFloat.unpack binary64 (packComponents binary64 s e m) =
      .finite s (1#1 ++ m).toNat (e.toNat - 1075) (by rw [toNat_implicit]; omega) := by
  simp only [UnpackedFloat.unpack, unpackMantissa_packComponents, unpackExponent_packComponents,
    unpackSign_packComponents, Sign.ofBitVec_toBitVec, if_neg htop, if_neg hzero]
  rfl

theorem unpack_subnormal (s : Sign) {m : BitVec 52} (hm : 0 < m.toNat) :
    UnpackedFloat.unpack binary64 (packComponents binary64 s 0#11 m) =
      .finite s m.toNat (-1074) hm := by
  have hnonzero : m ≠ 0#52 := by rintro rfl; exact absurd hm (by decide)
  simp only [UnpackedFloat.unpack, unpackMantissa_packComponents, unpackExponent_packComponents,
    unpackSign_packComponents, Sign.ofBitVec_toBitVec, dif_neg hnonzero]
  rfl

theorem storable_of_isFinite {x : Float} (h : x.isFinite = true) : Storable x.toModel.unpack := by
  change (UnpackedFloat.unpack binary64 x.toModel.toBits.toBitVec).isFinite = true at h
  change Storable (UnpackedFloat.unpack binary64 x.toModel.toBits.toBitVec)
  have hbits :=
    @packComponents_unpackSign_unpackExponent_unpackMantissa binary64 x.toModel.toBits.toBitVec
  rw [← hbits] at h ⊢
  generalize Sign.ofBitVec _ = s, unpackExponent _ = e, unpackMantissa _ = m at h ⊢
  rcases eq_or_ne e (-1#11) with rfl | htop
  · simp [UnpackedFloat.unpack] at h
    split at h <;> cases h
  rcases eq_or_ne e 0#11 with rfl | hzero
  · rcases eq_or_ne m 0#52 with rfl | hm
    · exact @unpack_packedZero binary64 s ▸ .zero s
    · have hpos : m.toNat ≠ 0 := fun h => hm (BitVec.eq_of_toNat_eq h)
      rw [unpack_subnormal s (Nat.pos_of_ne_zero hpos)]
      exact .subnormal _ _ ((Nat.log2_lt hpos).mpr m.isLt)
  · rw [unpack_normal s htop hzero]
    have hpos : e.toNat ≠ 0 := fun h => hzero (BitVec.eq_of_toNat_eq h)
    have hlt : e.toNat ≠ 2047 := fun h => htop (BitVec.eq_of_toNat_eq h)
    exact .normal _ _ (by rw [toNat_implicit, log2_implicit m.isLt]) (by omega) (by omega)

theorem exists_unpack {y : UnpackedFloat} (h : Storable y) : ∃ x : Float.Model, x.unpack = y := by
  suffices hbits : ∃ s e m, e ≠ -1#11 ∧
      UnpackedFloat.unpack binary64 (packComponents binary64 s e m) = y by
    obtain ⟨s, e, m, htop, rfl⟩ := hbits
    exact ⟨⟨.ofBitVec (packComponents binary64 s e m), ⟨fun h => absurd (by simpa using h) htop⟩⟩,
      rfl⟩
  cases h with
  | zero s => exact ⟨s, 0#11, 0#52, by decide, unpack_packedZero⟩
  | @normal s m e hm hlog hlow hhigh =>
      obtain ⟨hleast, hmost⟩ := (Nat.log2_eq_iff hm.ne').mp hlog
      obtain ⟨biased, rfl⟩ : ∃ biased : BitVec 11, (biased.toNat : Int) - 1075 = e :=
        ⟨.ofNat 11 (e + 1075).toNat, by rw [BitVec.toNat_ofNat]; omega⟩
      obtain ⟨rest, rfl⟩ : ∃ rest : BitVec 52, (1#1 ++ rest).toNat = m :=
        ⟨.ofNat 52 (m - 2 ^ 52), by rw [toNat_implicit, BitVec.toNat_ofNat]; omega⟩
      have htop : biased ≠ -1#11 := by rintro rfl; exact absurd hhigh (by decide)
      have hzero : biased ≠ 0#11 := by rintro rfl; exact absurd hlow (by decide)
      exact ⟨s, biased, rest, htop, unpack_normal s htop hzero rest⟩
  | @subnormal s m hm hlog =>
      obtain ⟨rest, rfl⟩ : ∃ rest : BitVec 52, rest.toNat = m :=
        ⟨.ofNat 52 m, Nat.mod_eq_of_lt ((Nat.log2_lt hm.ne').mp hlog)⟩
      exact ⟨s, 0#11, rest, by decide, unpack_subnormal s hm⟩

theorem unpack_pack {y : UnpackedFloat} (h : Storable y) : (pack y).unpack = y := by
  obtain ⟨x, rfl⟩ := exists_unpack h
  rw [pack_unpack]

theorem shift_exact (m k : Nat) :
    ExtendedMantissa.mk (m * 2 ^ k) false false >>> k = ⟨m, false, false⟩ := by
  induction k generalizing m with
  | zero => simp [HShiftRight.hShiftRight, Nat.repeat]
  | succ k ih =>
      have hmore : m * 2 ^ (k + 1) = m * 2 * 2 ^ k := by ring
      change ((ExtendedMantissa.mk (m * 2 ^ (k + 1)) false false) >>> k).shiftRightOne = _
      rw [hmore, ih]
      simp [ExtendedMantissa.shiftRightOne]

theorem mul_two_pow_pos {m : Nat} (hm : 0 < m) (k : Nat) : 0 < m * 2 ^ k :=
  Nat.mul_pos hm (Nat.two_pow_pos k)

theorem log2_mul_two_pow {m : Nat} (hm : m ≠ 0) (k : Nat) : (m * 2 ^ k).log2 = m.log2 + k := by
  have hpos : 0 < 2 ^ k := Nat.two_pow_pos k
  rw [Nat.log2_eq_iff (by positivity)]
  obtain ⟨hlow, hhigh⟩ := (Nat.log2_eq_iff hm).mp rfl
  constructor
  · rw [pow_add]
    exact Nat.mul_le_mul_right _ hlow
  · rw [add_right_comm, pow_add]
    exact Nat.mul_lt_mul_of_pos_right hhigh hpos

theorem totalExponent_shift {m : Nat} (hm : m ≠ 0) (k : Nat) (e : Int) :
    totalExponent (m * 2 ^ k) (e - k) = totalExponent m e := by
  rw [totalExponent, totalExponent, log2_mul_two_pow hm]
  omega

/-- A mantissa and exponent as a double has them -/
def IsCanonical (m : Nat) (e : Int) : Prop :=
  binary64.targetExponent (totalExponent m e) = e

theorem shiftToTarget_canonical {m : Nat} {e : Int} (hm : m ≠ 0) (h : IsCanonical m e) (k : Nat) :
    shiftToTargetExponent binary64 (m * 2 ^ k) (e - k) .exact = (⟨m, false, false⟩, e) := by
  have hshift : (e - (e - k)).toNat = k := by omega
  rw [shiftToTargetExponent, totalExponent_shift hm, h]
  simp only [shiftToExponent, hshift, ExtendedMantissa.ofMantissaAndAccuracy, shift_exact]
  congr 1
  omega

theorem roundWithAccuracy_canonical {s : Sign} {m : Nat} {e : Int} (hm : 0 < m)
    (h : IsCanonical m e) (k : Nat) :
    roundWithAccuracy binary64 s (m * 2 ^ k) (e - k) .exact = .finite s m e hm := by
  have hagain := shiftToTarget_canonical hm.ne' h 0
  simp only [pow_zero, mul_one, Nat.cast_zero, sub_zero] at hagain
  simp only [roundWithAccuracy, shiftToTarget_canonical hm.ne' h, hagain,
    ExtendedMantissa.roundedMantissa, ExtendedMantissa.accuracy, Accuracy.roundToNearestEven,
    dif_neg hm.ne']

theorem round_of_finer {s : Sign} {m : Nat} {e : Int} (hm : 0 < m) (h : IsCanonical m e) (k : Nat) :
    UnpackedFloat.round binary64 s (m * 2 ^ k) (e - k) = .finite s m e hm := by
  have hdecrease : decreaseExponent (m * 2 ^ k) (e - k) e = (m * 2 ^ k, e - k) := by
    simp [decreaseExponent]
  simp only [UnpackedFloat.round, totalExponent_shift hm.ne',
    show binary64.targetExponent _ = e from h, hdecrease, roundWithAccuracy_canonical hm h]

theorem round_of_coarser {s : Sign} {m k : Nat} {e : Int} (hm : 0 < m)
    (h : IsCanonical (m * 2 ^ k) (e - k)) :
    UnpackedFloat.round binary64 s m e = .finite s (m * 2 ^ k) (e - k) (mul_two_pow_pos hm k) := by
  have htarget : binary64.targetExponent (totalExponent m e) = e - k := by
    rw [← totalExponent_shift hm.ne' k, h]
  have hdecrease : decreaseExponent m e (e - k) = (m * 2 ^ k, e - k) := by
    simp [decreaseExponent, Nat.shiftLeft_eq]
  have hround := roundWithAccuracy_canonical (s := s) (by positivity) h 0
  simp only [pow_zero, mul_one, Nat.cast_zero, sub_zero] at hround
  simp only [UnpackedFloat.round, htarget, hdecrease, hround]

/-- The places by which a whole number is moved to fill the digits of a double. -/
def places (n : Nat) : Nat := 52 - n.log2

theorem log2_lt_of_lt {n : Nat} (h : n < 2 ^ 53) : n.log2 ≤ 52 := by
  rcases eq_or_ne n 0 with rfl | hn
  · simp
  · have := (Nat.log2_lt hn).mpr h
    omega

theorem isCanonical_whole {n : Nat} (hn : n ≠ 0) (h : n < 2 ^ 53) :
    IsCanonical (n * 2 ^ places n) (-places n) := by
  have hlog := log2_lt_of_lt h
  have htotal := totalExponent_shift hn (places n) 0
  rw [zero_sub] at htotal
  rw [IsCanonical, htotal]
  simp only [targetExponent, totalExponent, mantissaBits, minExponent, places]
  omega

theorem round_whole {s : Sign} {n : Nat} (hn : 0 < n) (h : n < 2 ^ 53) (k : Nat) :
    UnpackedFloat.round binary64 s (n * 2 ^ k) (-k) =
      .finite s (n * 2 ^ places n) (-places n) (mul_two_pow_pos hn _) := by
  have hcanonical := isCanonical_whole hn.ne' h
  rcases le_total (places n) k with hk | hk
  · obtain ⟨more, rfl⟩ := Nat.exists_eq_add_of_le hk
    rw [← round_of_finer (by positivity) hcanonical more]
    congr 1
    · rw [pow_add, mul_assoc]
    · push_cast
      ring
  · obtain ⟨more, hmore⟩ := Nat.exists_eq_add_of_le hk
    have hmantissa : n * 2 ^ places n = n * 2 ^ k * 2 ^ more := by rw [hmore, pow_add, mul_assoc]
    have hexponent : -(places n : Int) = -k - more := by rw [hmore]; push_cast; ring
    simp only [hmantissa, hexponent] at hcanonical ⊢
    exact round_of_coarser (by positivity) hcanonical

def signOf (n : Int) : Sign := if n < 0 then .negative else .positive

theorem apply_signOf (n : Int) (k : Nat) :
    (signOf n).apply ((n.natAbs * 2 ^ k : Nat) : Int) = n * 2 ^ k := by
  unfold signOf
  split
  · next h =>
      have habs : (n.natAbs : Int) = -n := Int.ofNat_natAbs_of_nonpos h.le
      simp [Sign.apply, habs]
  · next h =>
      have habs : (n.natAbs : Int) = n := Int.natAbs_of_nonneg (not_lt.mp h)
      simp [Sign.apply, habs]

theorem normalize_of_ne_zero {n : Int} (hn : n ≠ 0) (e : Int) :
    normalize binary64 n e .positive = UnpackedFloat.round binary64 (signOf n) n.natAbs e := by
  rcases lt_or_gt_of_ne hn with h | h
  · have hcompare : compare n 0 = .lt := compare_lt_iff_lt.mpr h
    have habs : (-n).toNat = n.natAbs := by omega
    simp only [UnpackedFloat.normalize, hcompare, signOf, if_pos h, habs]
  · have hcompare : compare n 0 = .gt := compare_gt_iff_gt.mpr h
    have habs : n.toNat = n.natAbs := by omega
    simp only [UnpackedFloat.normalize, hcompare, signOf, if_neg h.le.not_gt, habs]

theorem signOf_mul_two_pow (n : Int) (k : Nat) : signOf (n * 2 ^ k) = signOf n := by
  have hpos : (0 : Int) < 2 ^ k := by positivity
  simp only [signOf, mul_neg_iff, hpos, hpos.not_gt, and_true, and_false, false_or]

theorem signOf_neg {n : Int} (hn : n ≠ 0) : signOf (-n) = -signOf n := by
  rcases lt_or_gt_of_ne hn with h | h
  · rw [signOf, signOf, if_pos h, if_neg (by omega)]
    rfl
  · rw [signOf, signOf, if_neg h.le.not_gt, if_pos (by omega)]
    rfl

theorem ofInt_zero : ofInt binary64 0 = .zero .positive := rfl

theorem normalize_whole {n : Int} (hn : n ≠ 0) (h : n.natAbs < 2 ^ 53) (k : Nat) :
    normalize binary64 (n * 2 ^ k) (-k) .positive =
      .finite (signOf n) (n.natAbs * 2 ^ places n.natAbs) (-places n.natAbs)
        (mul_two_pow_pos (Int.natAbs_pos.mpr hn) _) := by
  rw [normalize_of_ne_zero (by positivity), signOf_mul_two_pow, Int.natAbs_mul, Int.natAbs_pow]
  exact round_whole (Int.natAbs_pos.mpr hn) h k

theorem ofInt_of_ne_zero {n : Int} (hn : n ≠ 0) (h : n.natAbs < 2 ^ 53) :
    ofInt binary64 n =
      .finite (signOf n) (n.natAbs * 2 ^ places n.natAbs) (-places n.natAbs)
        (mul_two_pow_pos (Int.natAbs_pos.mpr hn) _) := by
  have hnormalize := normalize_whole hn h 0
  rwa [pow_zero, mul_one, Nat.cast_zero, neg_zero] at hnormalize

theorem normalize_eq_ofInt {n : Int} (h : n.natAbs < 2 ^ 53) (k : Nat) :
    normalize binary64 (n * 2 ^ k) (-k) .positive = ofInt binary64 n := by
  rcases eq_or_ne n 0 with rfl | hn
  · rw [zero_mul, ofInt_zero]
    rfl
  · rw [normalize_whole hn h, ofInt_of_ne_zero hn h]

theorem decreaseExponent_whole {p q : Nat} (h : p ≤ q) (n : Nat) :
    (decreaseExponent (n * 2 ^ p) (-p) (-q)).1 = n * 2 ^ q := by
  have hmoved : (-(p : Int) - -q).toNat = q - p := by omega
  rw [decreaseExponent, hmoved, Nat.shiftLeft_eq, mul_assoc, ← pow_add, Nat.add_sub_cancel' h]

theorem min_neg_cast (p q : Nat) : min (-(p : Int)) (-q) = -(max p q : Nat) := by omega

theorem add_ofInt {m n : Int} (hm : m.natAbs < 2 ^ 53) (hn : n.natAbs < 2 ^ 53)
    (h : (m + n).natAbs < 2 ^ 53) :
    add binary64 (ofInt binary64 m) (ofInt binary64 n) = ofInt binary64 (m + n) := by
  rcases eq_or_ne m 0 with rfl | hm0
  · rcases eq_or_ne n 0 with rfl | hn0
    · rfl
    · rw [zero_add, ofInt_zero, ofInt_of_ne_zero hn0 hn]
      rfl
  · rcases eq_or_ne n 0 with rfl | hn0
    · rw [add_zero, ofInt_zero, ofInt_of_ne_zero hm0 hm]
      rfl
    · rw [ofInt_of_ne_zero hm0 hm, ofInt_of_ne_zero hn0 hn]
      simp only [UnpackedFloat.add, min_neg_cast, decreaseExponent_whole (le_max_left _ _),
        decreaseExponent_whole (le_max_right _ _), apply_signOf, ← add_mul]
      exact normalize_eq_ofInt h _

theorem sub_ofInt {m n : Int} (hm : m.natAbs < 2 ^ 53) (hn : n.natAbs < 2 ^ 53)
    (h : (m - n).natAbs < 2 ^ 53) :
    sub binary64 (ofInt binary64 m) (ofInt binary64 n) = ofInt binary64 (m - n) := by
  rcases eq_or_ne n 0 with rfl | hn0
  · rcases eq_or_ne m 0 with rfl | hm0
    · rfl
    · rw [sub_zero, ofInt_zero, ofInt_of_ne_zero hm0 hm]
      rfl
  · rcases eq_or_ne m 0 with rfl | hm0
    · rw [zero_sub, ofInt_zero, ofInt_of_ne_zero hn0 hn,
        ofInt_of_ne_zero (neg_ne_zero.mpr hn0) (by omega)]
      simp only [UnpackedFloat.sub, Int.natAbs_neg, signOf_neg hn0]
    · rw [ofInt_of_ne_zero hm0 hm, ofInt_of_ne_zero hn0 hn]
      simp only [UnpackedFloat.sub, min_neg_cast, decreaseExponent_whole (le_max_left _ _),
        decreaseExponent_whole (le_max_right _ _), apply_signOf, ← sub_mul]
      exact normalize_eq_ofInt h _

theorem storable_ofInt {n : Int} (h : n.natAbs < 2 ^ 53) : Storable (ofInt binary64 n) := by
  rcases eq_or_ne n 0 with rfl | hn
  · exact .zero _
  · have hlog := log2_lt_of_lt h
    have hplaces : places n.natAbs ≤ 52 := Nat.sub_le _ _
    rw [ofInt_of_ne_zero hn h]
    refine .normal _ _ ?_ (by omega) (by omega)
    rw [log2_mul_two_pow (Int.natAbs_ne_zero.mpr hn), places]
    omega

theorem unpack_pack_ofInt {n : Int} (h : n.natAbs < 2 ^ 53) :
    (pack (ofInt binary64 n)).unpack = ofInt binary64 n :=
  unpack_pack (storable_ofInt h)

def whole (n : Int) : Float := .ofModel (.ofInt n)

theorem whole_add {m n : Int} (hm : m.natAbs < 2 ^ 53) (hn : n.natAbs < 2 ^ 53)
    (h : (m + n).natAbs < 2 ^ 53) : whole m + whole n = whole (m + n) := by
  change Float.ofModel (pack (UnpackedFloat.add binary64 (pack (ofInt binary64 m)).unpack
    (pack (ofInt binary64 n)).unpack)) = _
  rw [unpack_pack_ofInt hm, unpack_pack_ofInt hn, add_ofInt hm hn h]
  rfl

theorem whole_sub {m n : Int} (hm : m.natAbs < 2 ^ 53) (hn : n.natAbs < 2 ^ 53)
    (h : (m - n).natAbs < 2 ^ 53) : whole m - whole n = whole (m - n) := by
  change Float.ofModel (pack (UnpackedFloat.sub binary64 (pack (ofInt binary64 m)).unpack
    (pack (ofInt binary64 n)).unpack)) = _
  rw [unpack_pack_ofInt hm, unpack_pack_ofInt hn, sub_ofInt hm hn h]
  rfl

theorem isNaN_whole {n : Int} (h : n.natAbs < 2 ^ 53) : (whole n).isNaN = false := by
  change (pack (ofInt binary64 n)).unpack.isNaN = false
  rw [unpack_pack_ofInt h]
  rcases eq_or_ne n 0 with rfl | hn
  · rfl
  · rw [ofInt_of_ne_zero hn h]
    rfl

theorem zero_eq_whole : (0.0 : Float) = whole 0 := by decide +kernel

theorem unpack_zero : (0.0 : Float).toModel.unpack = .zero .positive := by
  rw [zero_eq_whole]
  exact unpack_pack_ofInt (by decide)

theorem plus_eq (x y : Float) :
    x + y = .ofModel (pack (UnpackedFloat.add binary64 x.toModel.unpack y.toModel.unpack)) := rfl

theorem minus_eq (x y : Float) :
    x - y = .ofModel (pack (UnpackedFloat.sub binary64 x.toModel.unpack y.toModel.unpack)) := rfl

theorem ofModel_pack_unpack (x : Float) : Float.ofModel (pack x.toModel.unpack) = x := by
  rw [pack_unpack]

theorem eq_of_unpack {x y : Float} (h : x.toModel.unpack = y.toModel.unpack) : x = y := by
  rw [← ofModel_pack_unpack x, h, ofModel_pack_unpack]

theorem minus_zero (x : Float) : x - 0.0 = x := by
  rw [minus_eq, unpack_zero]
  conv_rhs => rw [← ofModel_pack_unpack x]
  rcases x.toModel.unpack with s | _ | s | ⟨s, m, e, hm⟩
  · rfl
  · rfl
  · cases s <;> rfl
  · rfl

theorem unpack_negative_zero : (-0.0 : Float).toModel.unpack = .zero .negative := by
  change (pack (0.0 : Float).toModel.unpack.neg).unpack = _
  rw [unpack_zero]
  rfl

theorem zero_plus (x : Float) : 0.0 + x = x ∨ x = -0.0 ∧ 0.0 + x = 0.0 := by
  rcases hx : x.toModel.unpack with s | _ | s | ⟨s, m, e, hm⟩
  case zero =>
    cases s with
    | negative =>
        obtain rfl : x = -0.0 := eq_of_unpack (hx.trans unpack_negative_zero.symm)
        exact .inr ⟨rfl, by decide +kernel⟩
    | positive =>
        obtain rfl : x = 0.0 := eq_of_unpack (hx.trans unpack_zero.symm)
        exact .inl (by decide +kernel)
  all_goals
    left
    rw [plus_eq, unpack_zero, hx]
    conv_rhs => rw [← ofModel_pack_unpack x, hx]
    rfl

theorem minus_self (x : Float) : x - x = 0.0 ∨ (x - x).isNaN = true := by
  rw [minus_eq]
  rcases x.toModel.unpack with s | _ | s | ⟨s, m, e, hm⟩
  · right
    cases s <;> decide +kernel
  · right
    decide +kernel
  · left
    cases s <;> decide +kernel
  · left
    simp only [UnpackedFloat.sub, sub_self]
    change Float.ofModel (pack (.zero .positive)) = 0.0
    decide +kernel

def one : Float := .ofBits 0x3FF0000000000000

theorem unpack_one : one.toModel.unpack = .finite .positive (2 ^ 52) (-52) (by decide) := by
  rfl

theorem times_one {n : Nat} (h : n < 2 ^ 53) : whole n * one = whole n := by
  change Float.ofModel (pack (UnpackedFloat.mul binary64 (pack (ofInt binary64 n)).unpack
    one.toModel.unpack)) = Float.ofModel (pack (ofInt binary64 n))
  rw [unpack_pack_ofInt (n := n) h, unpack_one]
  rcases eq_or_ne n 0 with rfl | hn
  · rfl
  · have hround := roundWithAccuracy_canonical (s := .positive) (by positivity)
      (isCanonical_whole hn h) 52
    rw [ofInt_of_ne_zero (n := n) (by exact_mod_cast hn) h]
    exact congrArg (fun x => Float.ofModel (pack x)) hround

theorem toFloat_eq_whole {n : Nat} (h : n < 2 ^ 53) : n.toUInt64.toFloat = whole n := by
  have hn : n.toUInt64.toNat = n :=
    UInt64.toNat_ofNat_of_lt' (h.trans (by decide))
  change Float.ofModel (pack (ofInt binary64 n.toUInt64.toNat)) = _
  rw [hn]
  rfl

theorem ofScientific_eq_whole {n : Nat} (h : n < 2 ^ 53) :
    Float.ofScientific n false 0 = whole n := by
  rw [Float.ofScientific, dif_pos ⟨h, by decide⟩, ← times_one h, ← toFloat_eq_whole h]
  rfl

theorem neg_whole {n : Int} (hn : n ≠ 0) (h : n.natAbs < 2 ^ 53) : -whole n = whole (-n) := by
  change Float.ofModel (pack (pack (ofInt binary64 n)).unpack.neg) =
    Float.ofModel (pack (ofInt binary64 (-n)))
  rw [unpack_pack_ofInt h, ofInt_of_ne_zero hn h,
    ofInt_of_ne_zero (neg_ne_zero.mpr hn) (by omega)]
  simp only [UnpackedFloat.neg, Int.natAbs_neg, signOf_neg hn]

theorem ofInt_eq_whole {n : Int} (h : n.natAbs < 2 ^ 53) : Number.ofInt n = whole n := by
  have hlog := log2_lt_of_lt h
  rcases eq_or_ne n 0 with rfl | hn
  · decide +kernel
  · have hlow : ¬ (n.natAbs.log2 : Int) * 30103 / 100000 + 0 < -400 := by omega
    have hhigh : ¬ 400 < (n.natAbs.log2 : Int) * 30103 / 100000 + 0 := by omega
    have hsize : Float.ofScientific n.natAbs (decide ((0 : Int) < 0)) (0 : Int).natAbs =
        whole n.natAbs := ofScientific_eq_whole h
    simp only [Number.ofInt, Number.ofScientific, Int.natAbs_eq_zero.not.mpr hn, if_false,
      if_neg hlow, if_neg hhigh, hsize]
    rcases lt_or_gt_of_ne hn with hneg | hpos
    · have habs : -(n.natAbs : Int) = n := by omega
      rw [if_pos (decide_eq_true hneg), neg_whole (by omega) (by omega), habs]
    · have habs : (n.natAbs : Int) = n := by omega
      rw [if_neg (by simpa using hpos.le), habs]

end AnomalyWindows.Proofs.DoubleArithmetic
