import AnomalyWindows.Proofs.DoubleRounding
import AnomalyWindows.Series.Sample

namespace AnomalyWindows.Proofs.DoubleSums
open Series Number
open AnomalyWindows.Proofs.DoubleArithmetic AnomalyWindows.Proofs.DoubleRounding

def total (xs : List Float) : ℚ := (xs.map exact).sum

def size (xs : List Float) : ℚ := (xs.map fun x => |exact x|).sum

theorem total_append (xs : List Float) (x : Float) : total (xs ++ [x]) = total xs + exact x := by
  simp [total]

theorem size_append (xs : List Float) (x : Float) : size (xs ++ [x]) = size xs + |exact x| := by
  simp [size]

theorem size_nonneg (xs : List Float) : 0 ≤ size xs :=
  List.sum_nonneg (by simp)

theorem abs_total_le (xs : List Float) : |total xs| ≤ size xs := by
  induction xs with
  | nil => simp [total, size]
  | cons x rest ih =>
      have hsum := abs_add_le (exact x) (total rest)
      simp only [total, size, List.map_cons, List.sum_cons] at ih hsum ⊢
      linarith

theorem abs_le_of_near {a b e : ℚ} (h : |a - b| ≤ e) : |a| ≤ |b| + e := by
  have hsplit := abs_add_le b (a - b)
  rw [add_sub_cancel] at hsplit
  linarith

/-- What a sum of doubles is to the doubles. One of them is its own sum and two are added as they
are. Whole numbers of any count are added exactly while they stay below `2 ^ 53`. The
error of a sum of finite doubles does not grow with their count, and a sum with others among them
is not finite. -/
structure IsTotal (xs : List Float) (x : Float) : Prop where
  few : xs.length ≤ 2 → x = xs.foldl (· + ·) 0.0
  single : ∀ a, xs = [a] → (x == a) = true
  whole : ∀ ns : List Int, xs = ns.map ofInt → (∀ n ∈ ns, n.natAbs < 2 ^ 53) →
    (∀ part, part <+: ns → part.sum.natAbs < 2 ^ 53) → x = ofInt ns.sum
  finite : x.isFinite = true → ∀ a ∈ xs, a.isFinite = true
  near : (∀ a ∈ xs, a.isFinite = true) → xs.length ≤ 2 ^ 46 → size xs < 2 ^ 1018 →
    x.isFinite = true ∧ |exact x - total xs| ≤ size xs / 2 ^ 48

theorem lost_of_exact {t y : Float} (h : t - y = 0.0 ∨ (t - y).isNaN = true) :
    (if (t - y).isNaN then 0.0 else t - y) = 0.0 := by
  rcases h with h | h
  · rw [h]
    split <;> rfl
  · rw [if_pos h]

theorem add_first {a : Float} (ha : a.isNaN = false) : Sum.add {} a = ⟨0.0 + a, 0.0⟩ := by
  have hlost : 0.0 + a - a = 0.0 ∨ (0.0 + a - a).isNaN = true := by
    rcases zero_plus a with h | ⟨rfl, h⟩
    · rw [h]
      exact minus_self a
    · left
      decide +kernel
  simp only [Sum.add, ha, Bool.false_eq_true, if_false, minus_zero, lost_of_exact hlost]

theorem total_add {s b : Float} (hb : b.isNaN = false) : (Sum.add ⟨s, 0.0⟩ b).total = s + b := by
  simp only [Sum.add, hb, Bool.false_eq_true, if_false, minus_zero]

theorem of_few {xs : List Float} (hknown : ∀ a ∈ xs, a.isNaN = false) (h : xs.length ≤ 2) :
    Sum.of xs = xs.foldl (· + ·) 0.0 := by
  match xs with
  | [] => rfl
  | [a] => simp [Sum.of, add_first (hknown a (by simp))]
  | [a, b] =>
    simp [Sum.of, add_first (hknown a (by simp)), total_add (hknown b (by simp))]
  | _ :: _ :: _ :: _ => simp at h

theorem of_single {a : Float} (ha : a.isNaN = false) : (Sum.of [a] == a) = true := by
  rw [of_few (by simpa using ha) (by simp)]
  rcases zero_plus a with h | ⟨rfl, h⟩
  · rw [List.foldl_cons, List.foldl_nil, h]
    exact Float.beq_self_iff.mpr (by simpa using ha)
  · decide +kernel

theorem isNaN_ofInt {n : Int} (h : n.natAbs < 2 ^ 53) : (ofInt n).isNaN = false := by
  rw [ofInt_eq_whole h, isNaN_whole h]

theorem add_ofInt_total {s n : Int} (hs : s.natAbs < 2 ^ 53) (hn : n.natAbs < 2 ^ 53)
    (h : (s + n).natAbs < 2 ^ 53) : Sum.add ⟨ofInt s, 0.0⟩ (ofInt n) = ⟨ofInt (s + n), 0.0⟩ := by
  have hsum : ofInt s + ofInt n = ofInt (s + n) := by
    rw [ofInt_eq_whole hs, ofInt_eq_whole hn, ofInt_eq_whole h, whole_add hs hn h]
  have hback : ofInt (s + n) - ofInt s = ofInt n := by
    have hrest : s + n - s = n := add_sub_cancel_left s n
    rw [ofInt_eq_whole hs, ofInt_eq_whole hn, ofInt_eq_whole h, whole_sub h hs (by rwa [hrest]),
      hrest]
  have hlost := lost_of_exact (minus_self (ofInt n))
  simp only [Sum.add, isNaN_ofInt hn, Bool.false_eq_true, if_false, minus_zero, hsum, hback, hlost]

theorem foldl_ofInt {ns : List Int} (hns : ∀ n ∈ ns, n.natAbs < 2 ^ 53) {s : Int}
    (hparts : ∀ part, part <+: ns → (s + part.sum).natAbs < 2 ^ 53) :
    (ns.map ofInt).foldl Sum.add ⟨ofInt s, 0.0⟩ = ⟨ofInt (s + ns.sum), 0.0⟩ := by
  induction ns generalizing s with
  | nil => simp
  | cons n rest ih =>
      have hs : s.natAbs < 2 ^ 53 := by simpa using hparts [] List.nil_prefix
      have hnext : (s + n).natAbs < 2 ^ 53 := by simpa using hparts [n] (by simp)
      rw [List.map_cons, List.foldl_cons, add_ofInt_total hs (hns n (by simp)) hnext,
        ih (fun m hm => hns m (List.mem_cons_of_mem _ hm)), List.sum_cons, add_assoc]
      intro part hpart
      simpa [add_assoc] using hparts (n :: part) (List.cons_prefix_cons.mpr ⟨rfl, hpart⟩)

theorem isFinite_of_foldl {xs : List Float} {s : Sum} (hknown : ∀ a ∈ xs, a.isNaN = false)
    (h : (xs.foldl Sum.add s).total.isFinite = true) :
    s.total.isFinite = true ∧ ∀ a ∈ xs, a.isFinite = true := by
  induction xs generalizing s with
  | nil => exact ⟨h, by simp⟩
  | cons x rest ih =>
      obtain ⟨hnext, hrest⟩ := ih (fun a ha => hknown a (List.mem_cons_of_mem _ ha)) h
      simp only [Sum.add, hknown x (by simp), Bool.false_eq_true, if_false] at hnext
      obtain ⟨htotal, hvalue⟩ := isFinite_of_plus hnext
      exact ⟨htotal, List.forall_mem_cons.mpr ⟨isFinite_of_minus hvalue, hrest⟩⟩

section Within

variable {room : ℚ} (hroom : room < 2 ^ (1023 : Int)) {x y : Float} (hx : x.isFinite = true)
variable (hy : y.isFinite = true) (h : |exact x| + |exact y| ≤ room)
include hroom hx hy h

theorem plus_within :
    Near (x + y) (exact x + exact y) ∧ |exact (x + y)| ≤ 2 * (|exact x| + |exact y|) := by
  have hsum := abs_add_le (exact x) (exact y)
  have hnear := plus_near hx hy ((hsum.trans h).trans_lt hroom)
  have hsize := abs_le_of_near hnear.near
  exact ⟨hnear, by linarith [abs_nonneg (exact x + exact y)]⟩

theorem minus_within :
    Near (x - y) (exact x - exact y) ∧ |exact (x - y)| ≤ 2 * (|exact x| + |exact y|) := by
  have hdifference := abs_sub (exact x) (exact y)
  have hnear := minus_near hx hy ((hdifference.trans h).trans_lt hroom)
  have hsize := abs_le_of_near hnear.near
  exact ⟨hnear, by linarith [abs_nonneg (exact x - exact y)]⟩

end Within

/-- One addition, in which the digits `c'` lost by it are found by two subtractions. -/
theorem compensated_step {bound x c t y t' d c' : ℚ} (hx : |x| ≤ bound)
    (hc : |c| ≤ 8 * bound / 2 ^ 52) (ht : |t| ≤ 2 * bound)
    (hy : |y - (x - c)| ≤ |x - c| / 2 ^ 52) (ht' : |t' - (t + y)| ≤ |t + y| / 2 ^ 52)
    (hd : |d - (t' - t)| ≤ |t' - t| / 2 ^ 52) (hc' : |c' - (d - y)| ≤ |d - y| / 2 ^ 52) :
    |c'| ≤ 8 * bound / 2 ^ 52 ∧
      |t' - c' - (t - c) - x| ≤ 3 * |x| / 2 ^ 52 + 32 * bound / 2 ^ 52 / 2 ^ 52 := by
  have hpos : 0 ≤ |x| := abs_nonneg x
  have hxc : |x - c| ≤ |x| + |c| := abs_sub x c
  have hysize := abs_le_of_near hy
  have hty : |t + y| ≤ |t| + |y| := abs_add_le t y
  have hmoved : |t' - t| ≤ |y| + |t + y| / 2 ^ 52 := by
    have hrest : t' - t - y = t' - (t + y) := by ring
    exact abs_le_of_near (by rwa [hrest])
  have hkept : |d - y| ≤ |t' - (t + y)| + |t' - t| / 2 ^ 52 := by
    have hrest : d - y - (t' - (t + y)) = d - (t' - t) := by ring
    exact abs_le_of_near (by rwa [hrest])
  have hlost := abs_le_of_near hc'
  have hdrift : t' - c' - (t - c) - x = (y - (x - c)) - (d - (t' - t)) - (c' - (d - y)) := by ring
  have hparts : |t' - c' - (t - c) - x| ≤ |y - (x - c)| + |d - (t' - t)| + |c' - (d - y)| := by
    rw [hdrift]
    exact (abs_sub _ _).trans (add_le_add_left (abs_sub _ _) _)
  constructor
  · linarith
  · linarith

/-- The state of a sum after `xs`. The digits lost so far are made up for by the next value, so the
error grows with the count of values only in the square of the last digit. -/
structure Compensated (bound : ℚ) (xs : List Float) (s : Sum) : Prop where
  finite : s.total.isFinite = true
  lostFinite : s.lost.isFinite = true
  lost : |exact s.lost| ≤ 8 * bound / 2 ^ 52
  near : |exact s.total - exact s.lost - total xs| ≤
    3 * size xs / 2 ^ 52 + xs.length * (32 * bound / 2 ^ 52 / 2 ^ 52)

namespace Compensated

variable {bound : ℚ} {xs : List Float} {s : Sum}

theorem total_near (h : Compensated bound xs s) (hsize : size xs ≤ bound)
    (hlength : xs.length ≤ 2 ^ 46) : |exact s.total - total xs| ≤ bound / 2 ^ 48 := by
  have hbound : 0 ≤ bound := (size_nonneg xs).trans hsize
  have hdrift : xs.length * (32 * bound / 2 ^ 52 / 2 ^ 52) ≤
      2 ^ 46 * (32 * bound / 2 ^ 52 / 2 ^ 52) := by
    gcongr
    exact_mod_cast hlength
  have hsplit := abs_add_le (exact s.total - exact s.lost - total xs) (exact s.lost)
  rw [sub_right_comm, sub_add_cancel, sub_right_comm] at hsplit
  have hnear := h.near
  have hlost := h.lost
  linarith

theorem add {a : Float} (h : Compensated bound xs s) (ha : a.isFinite = true)
    (hsize : size (xs ++ [a]) ≤ bound) (hroom : 32 * bound < 2 ^ (1023 : Int))
    (hlength : xs.length ≤ 2 ^ 46) : Compensated bound (xs ++ [a]) (s.add a) := by
  rw [size_append] at hsize
  have hx : |exact a| ≤ bound := by linarith [size_nonneg xs]
  have hxs : size xs ≤ bound := by linarith [abs_nonneg (exact a)]
  have hbound : 0 ≤ bound := (abs_nonneg _).trans hx
  have hc := h.lost
  have ht : |exact s.total| ≤ 2 * bound := by
    have hnear := abs_le_of_near (h.total_near hxs hlength)
    linarith [abs_total_le xs]
  obtain ⟨hy, hysize⟩ := minus_within hroom ha h.lostFinite (by linarith)
  obtain ⟨ht', htsize⟩ := plus_within hroom h.finite hy.finite (by linarith)
  obtain ⟨hd, hdsize⟩ := minus_within hroom ht'.finite h.finite (by linarith)
  obtain ⟨hc', -⟩ := minus_within hroom hd.finite hy.finite (by linarith)
  have hstep := compensated_step hx hc ht hy.near ht'.near hd.near hc'.near
  simp only [Sum.add, isNaN_of_isFinite ha, isNaN_of_isFinite hc'.finite, Bool.false_eq_true,
    if_false]
  refine ⟨ht'.finite, hc'.finite, hstep.1, ?_⟩
  rw [total_append, size_append, List.length_append, List.length_singleton]
  refine le_trans ?_ ((add_le_add h.near hstep.2).trans_eq (by push_cast; ring))
  refine le_trans (le_of_eq ?_) (abs_add_le _ _)
  congr 1
  ring

end Compensated

theorem compensated_nil {bound : ℚ} (h : 0 ≤ bound) : Compensated bound [] {} := by
  have hzero : exact 0.0 = 0 := by rw [exact, unpack_zero]; rfl
  refine ⟨rfl, rfl, ?_, ?_⟩
  · simp only [hzero, abs_zero]
    positivity
  · simp [hzero, total, size]

theorem compensated_foldl {bound : ℚ} (hroom : 32 * bound < 2 ^ (1023 : Int)) {xs : List Float}
    (hfinite : ∀ a ∈ xs, a.isFinite = true) (hlength : xs.length ≤ 2 ^ 46)
    (hsize : size xs ≤ bound) : Compensated bound xs (xs.foldl Sum.add {}) := by
  induction xs using List.reverseRecOn with
  | nil => exact compensated_nil hsize
  | append_singleton rest a ih =>
      have hlength' : rest.length ≤ 2 ^ 46 := by
        rw [List.length_append] at hlength
        omega
      have hsize' : size rest ≤ bound := by
        rw [size_append] at hsize
        linarith [abs_nonneg (exact a)]
      rw [List.foldl_concat]
      exact (ih (fun b hb => hfinite b (List.mem_append_left _ hb)) hlength' hsize').add
        (hfinite a (by simp)) hsize hroom hlength'

theorem of_near {xs : List Float} (hfinite : ∀ a ∈ xs, a.isFinite = true)
    (hlength : xs.length ≤ 2 ^ 46) (hsize : size xs < 2 ^ 1018) :
    (Sum.of xs).isFinite = true ∧ |exact (Sum.of xs) - total xs| ≤ size xs / 2 ^ 48 := by
  have hroom : 32 * size xs < 2 ^ (1023 : Int) := by
    have hlimit : (2 : ℚ) ^ (1023 : Int) = 32 * 2 ^ 1018 := by
      rw [show (32 : ℚ) = 2 ^ 5 by norm_num, ← pow_add]
      exact zpow_natCast 2 1023
    rw [hlimit]
    gcongr
  have h := compensated_foldl hroom hfinite hlength le_rfl
  exact ⟨h.finite, h.total_near le_rfl hlength⟩

theorem isTotal_of {xs : List Float} (hknown : ∀ a ∈ xs, a.isNaN = false) :
    IsTotal xs (Sum.of xs) := by
  refine ⟨of_few hknown, ?_, ?_, fun h => (isFinite_of_foldl hknown h).2, of_near⟩
  · rintro a rfl
    exact of_single (hknown a (by simp))
  · rintro ns rfl hns hparts
    have hzero : (0.0 : Float) = ofInt 0 := by decide +kernel
    have hfold := foldl_ofInt hns (s := 0) (by simpa using hparts)
    rw [zero_add, ← hzero] at hfold
    exact congrArg Sum.total hfold

example : Sum.of [1.0, 1.0e-16, 1.0e-16] = 1.0000000000000002 := by
  decide +kernel

end AnomalyWindows.Proofs.DoubleSums
