import PortfolioManagement.Lib.Decimal
import Mathlib.Tactic.Ring
import Mathlib.Algebra.Field.Rat
import Mathlib.Algebra.GroupWithZero.Units.Basic
import Mathlib.Algebra.Order.Field.Rat
import Mathlib.Tactic.NormNum

/-!
# Decimals of one value

A decimal can be written with more digits: `1.50` for `1.5`. Two decimals are equal exactly when one
is the other with zeros appended, and rounding, products and quantization depend on the value only.
-/

namespace PortfolioManagement.Decimal

/-- `x` with `k` zeros appended to its digits. -/
def extended (x : Decimal) (k : Nat) : Decimal := ⟨x.coefficient * 10 ^ k, x.exponent - k⟩

@[simp] theorem extended_zero (x : Decimal) : x.extended 0 = x := by simp [extended]

/-! ## Equality -/

/-- The number a decimal denotes. -/
def value (x : Decimal) : ℚ := x.coefficient * 10 ^ x.exponent

/-- The value at a smaller exponent. -/
theorem value_eq {x : Decimal} {e : Int} (h : e ≤ x.exponent) :
    value x = ((x.coefficient * 10 ^ (x.exponent - e).toNat : Int) : ℚ) * 10 ^ e := by
  have hten : (10 : ℚ) ≠ 0 := by norm_num
  have hexp : x.exponent = ((x.exponent - e).toNat : Int) + e := by omega
  unfold value
  push_cast
  rw [mul_assoc]
  congr 1
  rw [← zpow_natCast, ← zpow_add₀ hten, ← hexp]

/-- Decimals are equal when their values are. -/
theorem equal_iff_value {x y : Decimal} : equal x y = true ↔ value x = value y := by
  have hpow : (10 : ℚ) ^ min x.exponent y.exponent ≠ 0 := zpow_ne_zero _ (by norm_num)
  rw [value_eq (min_le_left x.exponent y.exponent), value_eq (min_le_right x.exponent y.exponent),
    mul_left_inj' hpow, Int.cast_inj]
  simp [equal, aligned]

theorem equal_self (x : Decimal) : equal x x = true := equal_iff_value.mpr rfl

theorem equal_symm {x y : Decimal} (h : equal x y = true) : equal y x = true :=
  equal_iff_value.mpr (equal_iff_value.mp h).symm

theorem equal_trans {x y z : Decimal} (h : equal x y = true) (h' : equal y z = true) :
    equal x z = true :=
  equal_iff_value.mpr ((equal_iff_value.mp h).trans (equal_iff_value.mp h'))

/-- Equal decimals differ in appended zeros. -/
theorem equal_iff {x y : Decimal} :
    equal x y = true ↔ (∃ k, y = x.extended k) ∨ ∃ k, x = y.extended k := by
  obtain ⟨a, e⟩ := x
  obtain ⟨b, f⟩ := y
  simp only [equal, aligned, beq_iff_eq, extended, Decimal.mk.injEq]
  constructor
  · intro h
    rcases le_total f e with hle | hle
    · rw [min_eq_right hle, Int.sub_self, Int.toNat_zero, pow_zero, mul_one] at h
      exact .inl ⟨(e - f).toNat, h.symm, by omega⟩
    · rw [min_eq_left hle, Int.sub_self, Int.toNat_zero, pow_zero, mul_one] at h
      exact .inr ⟨(f - e).toNat, h, by omega⟩
  · rintro (⟨k, rfl, rfl⟩ | ⟨k, rfl, rfl⟩)
    · have hk : (e - (e - (k : Int))).toNat = k := by omega
      rw [min_eq_right (by omega), Int.sub_self, Int.toNat_zero, pow_zero, mul_one, hk]
    · have hk : (f - (f - (k : Int))).toNat = k := by omega
      rw [min_eq_left (by omega), Int.sub_self, Int.toNat_zero, pow_zero, mul_one, hk]

/-- Whatever appended zeros do not change is the same for equal decimals. -/
theorem eq_of_equal {α : Type} {f : Decimal → α} (hf : ∀ x k, f (extended x k) = f x)
    {x y : Decimal} (h : equal x y = true) : f x = f y := by
  rcases equal_iff.mp h with ⟨k, rfl⟩ | ⟨k, rfl⟩
  · exact (hf x k).symm
  · exact hf y k

theorem equal_extended (x : Decimal) (k : Nat) : equal (x.extended k) x = true :=
  equal_iff.mpr (.inr ⟨k, rfl⟩)

/-- Only zeros are equal to zeros. -/
theorem coefficient_eq_zero_of_equal {x y : Decimal} (h : equal x y = true) :
    x.coefficient = 0 ↔ y.coefficient = 0 := by
  refine iff_of_eq (eq_of_equal (f := fun x => x.coefficient = 0) (fun x k => propext ?_) h)
  have hpow : (10 : Int) ^ k ≠ 0 := pow_ne_zero _ (by decide)
  simp [extended, hpow]

/-- The sign of a number is that of its value. -/
theorem pos_of_equal {x y : Decimal} (h : equal x y = true) :
    0 < x.coefficient ↔ 0 < y.coefficient := by
  refine iff_of_eq (eq_of_equal (f := fun x => 0 < x.coefficient) (fun x k => propext ?_) h)
  have hpow : (0 : Int) < 10 ^ k := by positivity
  simp only [extended]
  exact ⟨fun hpos => pos_of_mul_pos_left hpos hpow.le, fun hpos => mul_pos hpos hpow⟩

/-! ## Rounding -/

theorem natAbs_mul_pow (c : Int) (k : Nat) : (c * 10 ^ k).natAbs = c.natAbs * 10 ^ k := by
  rw [Int.natAbs_mul, Int.natAbs_pow]
  rfl

theorem sign_mul_pow (c : Int) (k : Nat) : (c * 10 ^ k).sign = c.sign := by
  have hpow : (0 : Int) < 10 ^ k := by positivity
  rw [Int.sign_mul, Int.sign_eq_one_of_pos hpow, mul_one]

theorem digitCount_mul_pow {n : Nat} (hn : n ≠ 0) (k : Nat) :
    digitCount (n * 10 ^ k) = digitCount n + k := by
  induction k with
  | zero => simp
  | succ k ih =>
    have hne : n * 10 ^ k ≠ 0 := by positivity
    rw [pow_succ, ← mul_assoc]
    unfold digitCount at ih ⊢
    rw [Nat.log_mul_base (by decide) hne]
    omega

/-- Dropping appended zeros and more digits. -/
theorem halfUp_mul_pow_add (c : Int) (j k : Nat) : halfUp (c * 10 ^ k) (j + k) = halfUp c j := by
  have hpow : 0 < 10 ^ k := by positivity
  have htop : 2 * (c.natAbs * 10 ^ k) + 10 ^ j * 10 ^ k = (2 * c.natAbs + 10 ^ j) * 10 ^ k := by ring
  have hbottom : 2 * (10 ^ j * 10 ^ k) = 2 * 10 ^ j * 10 ^ k := by ring
  unfold halfUp
  rw [natAbs_mul_pow, sign_mul_pow, pow_add, htop, hbottom, Nat.mul_div_mul_right _ _ hpow]

/-- Dropping some of the appended zeros. -/
theorem halfUp_mul_pow_of_le (c : Int) {j k : Nat} (h : j ≤ k) :
    halfUp (c * 10 ^ k) j = c * 10 ^ (k - j) := by
  have hexact : halfUp (c * 10 ^ (k - j)) 0 = c * 10 ^ (k - j) := by
    have hdiv : ∀ n : Nat, (2 * n + 1) / 2 = n := by omega
    unfold halfUp
    rw [pow_zero, mul_one, hdiv]
    exact Int.sign_mul_natAbs _
  have hsplit : c * 10 ^ k = c * 10 ^ (k - j) * 10 ^ j := by
    rw [mul_assoc, ← pow_add, Nat.sub_add_cancel h]
  have hdrop := halfUp_mul_pow_add (c * 10 ^ (k - j)) 0 j
  rw [Nat.zero_add] at hdrop
  rw [hsplit, hdrop, hexact]

theorem halfEven_mul_pow_add (c : Int) (j k : Nat) :
    halfEven (c * 10 ^ k) (j + k) = halfEven c j := by
  have hpow : 0 < 10 ^ k := by positivity
  have hiff : (10 ^ j * 10 ^ k < 2 * (c.natAbs % 10 ^ j * 10 ^ k) ∨
      2 * (c.natAbs % 10 ^ j * 10 ^ k) = 10 ^ j * 10 ^ k ∧ c.natAbs / 10 ^ j % 2 = 1) ↔
      (10 ^ j < 2 * (c.natAbs % 10 ^ j) ∨
        2 * (c.natAbs % 10 ^ j) = 10 ^ j ∧ c.natAbs / 10 ^ j % 2 = 1) := by
    rw [← mul_assoc, Nat.mul_lt_mul_right hpow, Nat.mul_right_cancel_iff hpow]
  unfold halfEven
  simp only
  rw [natAbs_mul_pow, sign_mul_pow, pow_add, Nat.mul_div_mul_right _ _ hpow, Nat.mul_mod_mul_right]
  simp only [hiff]

theorem halfEven_mul_pow_of_le (c : Int) {j k : Nat} (h : j ≤ k) :
    halfEven (c * 10 ^ k) j = c * 10 ^ (k - j) := by
  have hexact : halfEven (c * 10 ^ (k - j)) 0 = c * 10 ^ (k - j) := by
    unfold halfEven
    simp only [pow_zero, Nat.div_one, Nat.mod_one]
    exact Int.sign_mul_natAbs _
  have hsplit : c * 10 ^ k = c * 10 ^ (k - j) * 10 ^ j := by
    rw [mul_assoc, ← pow_add, Nat.sub_add_cancel h]
  have hdrop := halfEven_mul_pow_add (c * 10 ^ (k - j)) 0 j
  rw [Nat.zero_add] at hdrop
  rw [hsplit, hdrop, hexact]

/-! ## Operations -/

/-- `quantize` depends on the value. -/
theorem quantize_extended (x : Decimal) (k : Nat) (e : Int) :
    quantize (x.extended k) e = quantize x e := by
  unfold quantize extended
  simp only
  by_cases hlow : e ≤ x.exponent - k
  · have hexp : (x.exponent - e).toNat = k + (x.exponent - k - e).toNat := by omega
    have hle : e ≤ x.exponent := by omega
    rw [if_pos hlow, if_pos hle, hexp, pow_add, ← mul_assoc]
  · rw [if_neg hlow]
    by_cases hhigh : e ≤ x.exponent
    · have hle : (e - (x.exponent - k)).toNat ≤ k := by omega
      have hexp : k - (e - (x.exponent - k)).toNat = (x.exponent - e).toNat := by omega
      rw [if_pos hhigh, halfUp_mul_pow_of_le _ hle, hexp]
    · have hexp : (e - (x.exponent - k)).toNat = (e - x.exponent).toNat + k := by omega
      rw [if_neg hhigh, hexp, halfUp_mul_pow_add]

/-- Rounding to the context keeps equal numbers equal. -/
theorem fix_extended (x : Decimal) (k : Nat) : equal (fix (x.extended k)) (fix x) = true := by
  obtain ⟨c, e⟩ := x
  by_cases hc : c = 0
  · subst hc
    have hzero : ∀ e, fix ⟨0, e⟩ = ⟨0, e⟩ := fun e => fix_of_lt (by simp [precision])
    simp [extended, hzero, equal, aligned]
  have hdigits := digitCount_mul_pow (Int.natAbs_ne_zero.mpr hc)
  have hcount : digitCount (c * 10 ^ k).natAbs = digitCount c.natAbs + k := by
    rw [natAbs_mul_pow, hdigits]
  unfold fix extended
  simp only [hcount]
  by_cases hlong : digitCount c.natAbs ≤ precision
  · rw [if_pos hlong]
    by_cases hfits : digitCount c.natAbs + k ≤ precision
    · rw [if_pos hfits]
      exact equal_extended ⟨c, e⟩ k
    · -- only appended zeros are dropped
      have hle : digitCount c.natAbs + k - precision ≤ k := by omega
      have hkept : digitCount (c * 10 ^ (k - (digitCount c.natAbs + k - precision))).natAbs ≤
          precision := by
        rw [natAbs_mul_pow, hdigits]
        omega
      rw [if_neg hfits, halfEven_mul_pow_of_le c hle, if_pos hkept]
      refine equal_iff.mpr (.inr ⟨k - (digitCount c.natAbs + k - precision), ?_⟩)
      simp only [extended, Decimal.mk.injEq, true_and]
      omega
  · have hlonger : ¬ digitCount c.natAbs + k ≤ precision := by omega
    have hdropped : digitCount c.natAbs + k - precision = digitCount c.natAbs - precision + k := by
      omega
    have hexp : e - k + ((digitCount c.natAbs - precision + k : Nat) : Int) =
        e + ((digitCount c.natAbs - precision : Nat) : Int) := by
      push_cast
      ring
    rw [if_neg hlong, if_neg hlonger, hdropped, halfEven_mul_pow_add, hexp]
    exact equal_self _

/-- `fix` and then `quantize` depends on the value. -/
theorem quantize_fix_extended (x : Decimal) (k : Nat) (e : Int) :
    quantize (fix (x.extended k)) e = quantize (fix x) e :=
  eq_of_equal (f := fun x => quantize x e) (fun x k => quantize_extended x k e) (fix_extended x k)

/-- A product with equal factors, quantized. -/
theorem quantize_mul_congr (x : Decimal) {y z : Decimal} (h : equal y z = true) (e : Int) :
    quantize (mul x y) e = quantize (mul x z) e := by
  refine eq_of_equal (f := fun y => quantize (mul x y) e) (fun y k => ?_) h
  have hproduct : mul x (y.extended k) =
      fix (extended ⟨x.coefficient * y.coefficient, x.exponent + y.exponent⟩ k) := by
    unfold mul extended
    simp only
    congr 2
    · ring
    · ring
  rw [hproduct, quantize_fix_extended]
  rfl

end PortfolioManagement.Decimal
