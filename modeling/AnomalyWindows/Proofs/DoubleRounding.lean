import AnomalyWindows.Proofs.DoubleArithmetic

namespace AnomalyWindows.Proofs.DoubleRounding

open Float.Model Float.Model.UnpackedFloat Float.Model.Format
open AnomalyWindows.Proofs.DoubleArithmetic

def rat : UnpackedFloat → ℚ
  | .finite s m e _ => s.apply m * 2 ^ e
  | _ => 0

theorem shiftRight_mantissa (em : ExtendedMantissa) (k : Nat) :
    (em >>> k).mantissa = em.mantissa / 2 ^ k := by
  induction k with
  | zero => simp [HShiftRight.hShiftRight, Nat.repeat]
  | succ k ih =>
      change (em >>> k).mantissa / 2 = _
      rw [ih, Nat.div_div_eq_div_mul, pow_succ]

theorem roundedMantissa_bounds (em : ExtendedMantissa) :
    em.mantissa ≤ em.roundedMantissa ∧ em.roundedMantissa ≤ em.mantissa + 1 := by
  obtain ⟨m, r, s⟩ := em
  cases r <;> cases s <;>
    simp only [ExtendedMantissa.roundedMantissa, ExtendedMantissa.accuracy,
      Accuracy.roundToNearestEven]
  all_goals omega

theorem isCanonical_of_log2 {m : Nat} {e : Int} (hlog : m.log2 = 52) (hlow : -1074 ≤ e) :
    IsCanonical m e := by
  simp only [IsCanonical, targetExponent, totalExponent, mantissaBits, minExponent, hlog]
  omega

theorem full_of_log2 {m k : Nat} (hlog : m.log2 = 52 + k) :
    2 ^ 52 ≤ m / 2 ^ k ∧ m / 2 ^ k < 2 ^ 53 := by
  obtain ⟨hleast, hmost⟩ := (Nat.log2_eq_iff (by rintro rfl; simp at hlog; omega)).mp hlog
  have hpos : 0 < 2 ^ k := Nat.two_pow_pos k
  constructor
  · rwa [Nat.le_div_iff_mul_le hpos, ← pow_add]
  · rw [Nat.div_lt_iff_lt_mul hpos, ← pow_add]
    exact hmost.trans_eq (by ring)

/-- Digits beyond those of a double are cut off and the last digit is rounded, which may fill one
more digit that is cut off by a second shift. -/
theorem round_of_shifted {s : Sign} {m m' k : Nat} {e e' : Int} (hlog : m.log2 = 52 + k)
    (hlow : -1074 ≤ e)
    (hsecond : shiftToTargetExponent binary64
      (ExtendedMantissa.mk m false false >>> k).roundedMantissa (e + k) .exact =
        (⟨m', false, false⟩, e')) (hm' : 0 < m') :
    UnpackedFloat.round binary64 s m e = .finite s m' e' hm' := by
  have htarget : binary64.targetExponent (totalExponent m e) = e + k := by
    simp only [targetExponent, totalExponent, mantissaBits, minExponent, hlog]
    omega
  have hdecrease : decreaseExponent m e (e + k) = (m, e) := by
    have hnone : (e - (e + k)).toNat = 0 := by omega
    simp [decreaseExponent]
  have hfirst : shiftToTargetExponent binary64 m e .exact =
      (ExtendedMantissa.mk m false false >>> k, e + k) := by
    have hplaces : (e + k - e).toNat = k := by omega
    rw [shiftToTargetExponent, htarget, shiftToExponent, hplaces]
    rfl
  simp only [UnpackedFloat.round, htarget, hdecrease, roundWithAccuracy, hfirst, hsecond,
    dif_neg hm'.ne']

theorem round_of_longer {s : Sign} {m : Nat} {e : Int} {k : Nat} (hlog : m.log2 = 52 + k)
    (hlow : -1074 ≤ e) (hhigh : e + k ≤ 970) :
    ∃ r m' e' hm', m / 2 ^ k ≤ r ∧ r ≤ m / 2 ^ k + 1 ∧
      UnpackedFloat.round binary64 s m e = .finite s m' e' hm' ∧
      Storable (.finite s m' e' hm') ∧ (m' : ℚ) * 2 ^ e' = r * 2 ^ (e + k) := by
  obtain ⟨hfloor, hceil⟩ := roundedMantissa_bounds (ExtendedMantissa.mk m false false >>> k)
  have hshifted (m' : Nat) (e' : Int) := @round_of_shifted s m m' k e e' hlog hlow
  have hmantissa : (ExtendedMantissa.mk m false false >>> k).mantissa = m / 2 ^ k :=
    shiftRight_mantissa _ k
  rw [hmantissa] at hfloor hceil
  generalize (ExtendedMantissa.mk m false false >>> k).roundedMantissa = r at *
  obtain ⟨hleast, hmost⟩ := full_of_log2 hlog
  rcases Nat.lt_or_ge r (2 ^ 53) with hless | hmore
  · have hlogr : r.log2 = 52 := (Nat.log2_eq_iff (by omega)).mpr ⟨by omega, hless⟩
    have hstays := shiftToTarget_canonical (m := r) (by omega)
      (isCanonical_of_log2 (e := e + k) hlogr (by omega)) 0
    rw [pow_zero, mul_one, Nat.cast_zero, sub_zero] at hstays
    exact ⟨r, r, e + k, by omega, hfloor, hceil, hshifted _ _ hstays _,
      .normal s _ hlogr (by omega) (by omega), rfl⟩
  · obtain rfl : r = 2 ^ 52 * 2 ^ 1 := by omega
    have hcarry := shiftToTarget_canonical (m := 2 ^ 52) (e := e + k + 1) (by decide)
      (isCanonical_of_log2 (by decide) (by omega)) 1
    rw [Nat.cast_one, add_sub_cancel_right] at hcarry
    refine ⟨_, 2 ^ 52, e + k + 1, by decide, hfloor, hceil, hshifted _ _ hcarry _,
      .normal s _ (by decide) (by omega) (by omega), ?_⟩
    rw [zpow_add_one₀ (by norm_num)]
    push_cast
    ring

theorem rounded_near {m r k : Nat} (hfloor : m / 2 ^ k ≤ r) (hceil : r ≤ m / 2 ^ k + 1) :
    |(r : ℚ) * 2 ^ k - m| ≤ 2 ^ k := by
  have hpos : 0 < 2 ^ k := Nat.two_pow_pos k
  have hlow : m < (m / 2 ^ k + 1) * 2 ^ k := Nat.lt_mul_of_div_lt (Nat.lt_succ_self _) hpos
  have hhigh : m / 2 ^ k * 2 ^ k ≤ m := Nat.div_mul_le_self m _
  have hmore : m ≤ r * 2 ^ k + 2 ^ k := by nlinarith
  have hless : r * 2 ^ k ≤ m + 2 ^ k := by nlinarith
  have hmore : (m : ℚ) ≤ r * 2 ^ k + 2 ^ k := by exact_mod_cast hmore
  have hless : (r : ℚ) * 2 ^ k ≤ m + 2 ^ k := by exact_mod_cast hless
  exact abs_le.mpr ⟨by linarith, by linarith⟩

theorem round_near {s : Sign} {m : Nat} {e : Int} (hm : 0 < m) (hlow : -1074 ≤ e)
    (hsize : (m : ℚ) * 2 ^ e < 2 ^ (1023 : Int)) :
    ∃ m' e' hm', UnpackedFloat.round binary64 s m e = .finite s m' e' hm' ∧
      Storable (.finite s m' e' hm') ∧
      |(m' : ℚ) * 2 ^ e' - m * 2 ^ e| ≤ m * 2 ^ e / 2 ^ 52 := by
  have hlog : (2 : ℚ) ^ ((m.log2 : Int) + e) ≤ m * 2 ^ e := by
    rw [zpow_add₀ (by norm_num), zpow_natCast]
    have hleast : 2 ^ m.log2 ≤ m := Nat.log2_self_le hm.ne'
    gcongr
    exact_mod_cast hleast
  have htop : (m.log2 : Int) + e < 1023 :=
    (zpow_lt_zpow_iff_right₀ (by norm_num)).mp (hlog.trans_lt hsize)
  rcases Nat.lt_or_ge 52 m.log2 with hlong | hshort
  · obtain ⟨k, hk⟩ := Nat.exists_eq_add_of_le hlong.le
    obtain ⟨r, m', e', hm', hfloor, hceil, hround, hstorable, hvalue⟩ :=
      round_of_longer (s := s) hk hlow (by omega)
    refine ⟨m', e', hm', hround, hstorable, ?_⟩
    have hsplit : (2 : ℚ) ^ (e + k) = 2 ^ k * 2 ^ e := by
      rw [zpow_add₀ (by norm_num), zpow_natCast, mul_comm]
    have hfar := rounded_near hfloor hceil
    have hplace : (2 : ℚ) ^ k * 2 ^ 52 ≤ m := by
      rw [← pow_add, add_comm, ← hk]
      exact_mod_cast Nat.log2_self_le hm.ne'
    have hpow : (0 : ℚ) < 2 ^ e := by positivity
    rw [hvalue, hsplit, ← mul_assoc, ← sub_mul, abs_mul, abs_of_pos hpow, mul_div_right_comm]
    gcongr
    exact hfar.trans ((le_div_iff₀ (by norm_num)).mpr hplace)
  · obtain ⟨k, hk⟩ := Int.eq_ofNat_of_zero_le
      (show 0 ≤ e - max ((m.log2 : Int) + e - 52) (-1074) by omega)
    have hlogs := log2_mul_two_pow hm.ne' k
    have hcanonical : IsCanonical (m * 2 ^ k) (e - k) := by
      simp only [IsCanonical, targetExponent, totalExponent, mantissaBits, minExponent, hlogs]
      omega
    have hvalue : ((m * 2 ^ k : Nat) : ℚ) * 2 ^ (e - k) = m * 2 ^ e := by
      rw [zpow_sub₀ (by norm_num), zpow_natCast]
      push_cast
      field_simp
    refine ⟨_, _, _, round_of_coarser hm hcanonical, ?_, ?_⟩
    · rcases Nat.lt_or_ge (m * 2 ^ k).log2 52 with hsub | hfull
      · rw [show e - (k : Int) = -1074 by omega]
        exact .subnormal s _ hsub
      · exact .normal s _ (by omega) (by omega) (by omega)
    · rw [hvalue, sub_self, abs_zero]
      positivity

/-- A result of double arithmetic next to the exact one, within the last of its 53 digits. -/
structure IsNear (x : UnpackedFloat) (q : ℚ) : Prop where
  storable : Storable x
  near : |rat x - q| ≤ |q| / 2 ^ 52

theorem isNear_rat {x : UnpackedFloat} (h : Storable x) : IsNear x (rat x) :=
  ⟨h, by rw [sub_self, abs_zero]; positivity⟩

theorem isNear_normalize {n : Int} {e : Int} (hlow : -1074 ≤ e)
    (hsize : |(n : ℚ) * 2 ^ e| < 2 ^ (1023 : Int)) :
    IsNear (normalize binary64 n e .positive) (n * 2 ^ e) := by
  rcases eq_or_ne n 0 with rfl | hn
  · rw [Int.cast_zero, zero_mul]
    exact isNear_rat (.zero .positive)
  · have hpow : (0 : ℚ) < 2 ^ e := by positivity
    have habs : |(n : ℚ) * 2 ^ e| = n.natAbs * 2 ^ e := by
      rw [abs_mul, abs_of_pos hpow, Nat.cast_natAbs, Int.cast_abs]
    obtain ⟨m', e', hm', hround, hstorable, hnear⟩ :=
      round_near (s := signOf n) (Int.natAbs_pos.mpr hn) hlow (habs ▸ hsize)
    rw [normalize_of_ne_zero hn, hround]
    refine ⟨hstorable, ?_⟩
    have hsign : n = (signOf n).apply n.natAbs := by simpa using (apply_signOf n 0).symm
    have hexact : (n : ℚ) * 2 ^ e = (signOf n).apply n.natAbs * 2 ^ e := by rw [← hsign]
    rw [habs, rat, hexact]
    cases signOf n with
    | positive => simpa only [Sign.apply, Int.cast_natCast] using hnear
    | negative =>
        simpa only [Sign.apply, Int.cast_neg, Int.cast_natCast, neg_mul, neg_sub_neg,
          abs_sub_comm] using hnear

theorem apply_mul (s : Sign) (m k : Nat) :
    s.apply ((m * 2 ^ k : Nat) : Int) = s.apply m * 2 ^ k := by
  cases s <;> simp [Sign.apply]

theorem aligned_eq {s : Sign} {m : Nat} {e f : Int} (h : f ≤ e) :
    ((s.apply ((decreaseExponent m e f).1 : Int) : Int) : ℚ) * 2 ^ f = s.apply m * 2 ^ e := by
  obtain ⟨k, rfl⟩ := Int.le.dest h
  have hplaces : (f + k - f).toNat = k := by omega
  rw [decreaseExponent, hplaces, Nat.shiftLeft_eq, apply_mul, zpow_add₀ (by norm_num), zpow_natCast]
  push_cast
  ring

theorem le_exponent {s : Sign} {m : Nat} {e : Int} {hm : 0 < m} (h : Storable (.finite s m e hm)) :
    -1074 ≤ e := by
  cases h with
  | normal => assumption
  | subnormal => exact le_refl _

theorem isNear_add {x y : UnpackedFloat} (hx : Storable x) (hy : Storable y)
    (hsize : |rat x + rat y| < 2 ^ (1023 : Int)) : IsNear (add binary64 x y) (rat x + rat y) := by
  cases x with
  | infinity | notANumber => cases hx
  | zero s =>
      rw [show rat (.zero s) = 0 from rfl, zero_add] at hsize ⊢
      cases y with
      | infinity | notANumber => cases hy
      | zero t => cases s <;> cases t <;> exact isNear_rat (.zero _)
      | finite t n f hn => exact isNear_rat hy
  | finite s m e hm =>
      cases y with
      | infinity | notANumber => cases hy
      | zero t =>
          rw [show rat (.zero t) = 0 from rfl, add_zero] at hsize ⊢
          exact isNear_rat hx
      | finite t n f hn =>
          have hsum : rat (.finite s m e hm) + rat (.finite t n f hn) =
              ((s.apply ((decreaseExponent m e (min e f)).1 : Int) +
                t.apply ((decreaseExponent n f (min e f)).1 : Int) : Int) : ℚ) *
                2 ^ (min e f) := by
            rw [Int.cast_add, add_mul, aligned_eq (min_le_left e f), aligned_eq (min_le_right e f)]
            rfl
          rw [hsum] at hsize ⊢
          exact isNear_normalize (le_min (le_exponent hx) (le_exponent hy)) hsize

theorem apply_neg (s : Sign) (n : Int) : (-s).apply n = -s.apply n := by
  cases s with
  | positive => rfl
  | negative => exact (neg_neg n).symm

theorem sub_eq_add (x y : UnpackedFloat) :
    UnpackedFloat.sub binary64 x y = UnpackedFloat.add binary64 x y.neg := by
  cases x <;> cases y
  case finite.finite =>
    simp only [UnpackedFloat.sub, UnpackedFloat.add, UnpackedFloat.neg, apply_neg,
      Int.sub_eq_add_neg]
  all_goals rfl

theorem storable_neg {x : UnpackedFloat} (h : Storable x) : Storable x.neg := by
  cases h with
  | zero s => exact .zero _
  | normal s hm hlog hlow hhigh => exact .normal _ hm hlog hlow hhigh
  | subnormal s hm hlog => exact .subnormal _ hm hlog

theorem rat_neg (x : UnpackedFloat) : rat x.neg = -rat x := by
  cases x with
  | finite s m e hm => rw [UnpackedFloat.neg, rat, rat, apply_neg, Int.cast_neg, neg_mul]
  | infinity | notANumber | zero => exact neg_zero.symm

theorem isNear_sub {x y : UnpackedFloat} (hx : Storable x) (hy : Storable y)
    (hsize : |rat x - rat y| < 2 ^ (1023 : Int)) :
    IsNear (UnpackedFloat.sub binary64 x y) (rat x - rat y) := by
  rw [sub_eq_add, sub_eq_add_neg, ← rat_neg]
  rw [sub_eq_add_neg, ← rat_neg] at hsize
  exact isNear_add hx (storable_neg hy) hsize

/-- The value of a finite double. -/
def exact (x : Float) : ℚ := rat x.toModel.unpack

theorem isFinite_of_storable {y : UnpackedFloat} (h : Storable y) : y.isFinite = true := by
  cases h with
  | zero | normal | subnormal => rfl

theorem isNaN_of_isFinite {x : Float} (h : x.isFinite = true) : x.isNaN = false := by
  have hstorable := storable_of_isFinite h
  change x.toModel.unpack.isNaN = false
  generalize x.toModel.unpack = y at hstorable
  cases hstorable with
  | zero | normal | subnormal => rfl

structure Near (x : Float) (q : ℚ) : Prop where
  finite : x.isFinite = true
  near : |exact x - q| ≤ |q| / 2 ^ 52

theorem near_pack {y : UnpackedFloat} {q : ℚ} (h : IsNear y q) : Near (.ofModel (pack y)) q := by
  have hunpack : (Float.ofModel (pack y)).toModel.unpack = y := unpack_pack h.storable
  constructor
  · change (Float.ofModel (pack y)).toModel.unpack.isFinite = true
    rw [hunpack]
    exact isFinite_of_storable h.storable
  · rw [exact, hunpack]
    exact h.near

theorem isFinite_of_pack {y : UnpackedFloat} (h : (Float.ofModel (pack y)).isFinite = true) :
    y.isFinite = true := by
  cases y with
  | notANumber => exact absurd h (by decide +kernel)
  | infinity s => cases s <;> exact absurd h (by decide +kernel)
  | zero | finite => rfl

theorem isFinite_of_add {x y : UnpackedFloat} (h : (add binary64 x y).isFinite = true) :
    x.isFinite = true ∧ y.isFinite = true := by
  cases x with
  | notANumber => cases h
  | infinity s =>
      cases y with
      | infinity t => cases s <;> cases t <;> cases h
      | notANumber | zero | finite => cases h
  | zero | finite =>
      cases y with
      | notANumber | infinity => cases h
      | zero | finite => exact ⟨rfl, rfl⟩

variable {x y : Float}

theorem isFinite_of_plus (h : (x + y).isFinite = true) :
    x.isFinite = true ∧ y.isFinite = true :=
  isFinite_of_add (isFinite_of_pack h)

theorem isFinite_of_minus (h : (x - y).isFinite = true) : x.isFinite = true := by
  rw [minus_eq, sub_eq_add] at h
  exact (isFinite_of_add (isFinite_of_pack h)).1

theorem plus_near (hx : x.isFinite = true) (hy : y.isFinite = true)
    (hsize : |exact x + exact y| < 2 ^ (1023 : Int)) : Near (x + y) (exact x + exact y) := by
  rw [plus_eq]
  exact near_pack (isNear_add (storable_of_isFinite hx) (storable_of_isFinite hy) hsize)

theorem minus_near (hx : x.isFinite = true) (hy : y.isFinite = true)
    (hsize : |exact x - exact y| < 2 ^ (1023 : Int)) : Near (x - y) (exact x - exact y) := by
  rw [minus_eq]
  exact near_pack (isNear_sub (storable_of_isFinite hx) (storable_of_isFinite hy) hsize)

end AnomalyWindows.Proofs.DoubleRounding
