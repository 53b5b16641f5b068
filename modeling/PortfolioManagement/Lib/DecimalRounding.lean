import PortfolioManagement.Lib.DecimalValue
import PortfolioManagement.Lib.Rounding

/-!
# Rounded decimals

Quantizing a decimal rounds its value, and rounding to the context keeps its sign. A rounded number is at most
one from another number exactly when it was rounded from the band of halves around the integers beside it.
-/

namespace PortfolioManagement

namespace Decimal

/-- A coefficient over a power of ten, rounded half away from zero. -/
theorem halfUp_eq (c : Int) (k : Nat) : halfUp c k = roundHalfUp ((c : ℚ) / 10 ^ k) := by
  have hten : (0 : ℚ) < 10 ^ k := by positivity
  have hnat : ∀ n : Nat, (((2 * n + 10 ^ k) / (2 * 10 ^ k) : Nat) : Int) = roundHalfUp ((n : ℚ) / 10 ^ k) := by
    intro n
    have hdivmod := Nat.div_add_mod (2 * n + 10 ^ k) (2 * 10 ^ k)
    have hlt : (2 * n + 10 ^ k) % (2 * 10 ^ k) < 2 * 10 ^ k := Nat.mod_lt _ (by positivity)
    generalize (2 * n + 10 ^ k) / (2 * 10 ^ k) = q at hdivmod ⊢
    generalize (2 * n + 10 ^ k) % (2 * 10 ^ k) = r at hdivmod hlt
    have hsum : (2 * 10 ^ k * q + r : ℚ) = 2 * n + 10 ^ k := by exact_mod_cast hdivmod
    have hr : (r : ℚ) < 2 * 10 ^ k := by exact_mod_cast hlt
    have hr' : (0 : ℚ) ≤ r := Nat.cast_nonneg r
    have hhalf : (n : ℚ) / 10 ^ k + 1 / 2 = (2 * n + 10 ^ k) / (2 * 10 ^ k) := by
      field_simp
    rw [roundHalfUp_of_nonneg (by positivity), eq_comm, Int.floor_eq_iff, hhalf, ← hsum,
      le_div_iff₀ (by positivity), div_lt_iff₀ (by positivity)]
    push_cast
    constructor <;> nlinarith
  unfold halfUp
  rcases le_or_gt 0 c with hc | hc
  · obtain ⟨n, rfl⟩ := Int.eq_ofNat_of_zero_le hc
    rcases Nat.eq_zero_or_pos n with rfl | hn
    · have hzero := roundHalfUp_intCast 0
      simp only [Nat.cast_zero, Int.sign_zero, zero_mul, Int.cast_zero, zero_div] at hzero ⊢
      exact hzero.symm
    · rw [Int.sign_eq_one_of_pos (by exact_mod_cast hn), one_mul, Int.natAbs_natCast, Int.cast_natCast]
      exact hnat n
  · obtain ⟨n, hn⟩ := Int.eq_ofNat_of_zero_le (a := -c) (by omega)
    have hneg : c = -(n : Int) := by omega
    have hquotient : ((c : Int) : ℚ) / 10 ^ k = -((n : ℚ) / 10 ^ k) := by
      rw [hneg]
      push_cast
      ring
    have habs : c.natAbs = n := by omega
    rw [Int.sign_eq_neg_one_of_neg hc, habs, hquotient, roundHalfUp_neg, ← hnat n]
    ring

/-- A quantized decimal is its value, rounded. -/
theorem quantize_eq {x : Decimal} {e c : Int} (h : quantize x e = some c) :
    c = roundHalfUp (value x * 10 ^ (-e)) := by
  have hten : (10 : ℚ) ≠ 0 := by norm_num
  unfold quantize at h
  simp only at h
  split_ifs at h with hexp hfits hfits
  · rw [← Option.some.inj h, value_eq hexp, mul_assoc, ← zpow_add₀ hten, add_neg_cancel, zpow_zero, mul_one,
      roundHalfUp_intCast]
  · have hvalue : value x * 10 ^ (-e) = (x.coefficient : ℚ) / 10 ^ (e - x.exponent).toNat := by
      have hneg : x.exponent + -e = -((e - x.exponent).toNat : Int) := by omega
      unfold value
      rw [mul_assoc, ← zpow_add₀ hten, hneg, zpow_neg, zpow_natCast, div_eq_mul_inv]
    rw [← Option.some.inj h, hvalue, halfUp_eq]

theorem value_nonneg {x : Decimal} : 0 ≤ value x ↔ 0 ≤ x.coefficient := by
  have hten : (0 : ℚ) < 10 ^ x.exponent := zpow_pos (by norm_num) _
  unfold value
  rw [mul_nonneg_iff_of_pos_right hten, Int.cast_nonneg_iff]

theorem value_pos {x : Decimal} : 0 < value x ↔ 0 < x.coefficient := by
  have hten : (0 : ℚ) < 10 ^ x.exponent := zpow_pos (by norm_num) _
  unfold value
  rw [mul_pos_iff_of_pos_right hten, Int.cast_pos]

theorem value_nonpos {x : Decimal} : value x ≤ 0 ↔ x.coefficient ≤ 0 := by
  rw [← not_lt, value_pos, not_lt]

theorem halfEven_nonneg {c : Int} (h : 0 ≤ c) (k : Nat) : 0 ≤ halfEven c k := by
  unfold halfEven
  exact mul_nonneg (Int.sign_nonneg_iff.mpr h) (Int.natCast_nonneg _)

theorem halfEven_nonpos {c : Int} (h : c ≤ 0) (k : Nat) : halfEven c k ≤ 0 := by
  unfold halfEven
  exact mul_nonpos_of_nonpos_of_nonneg (Int.sign_nonpos_iff.mpr h) (Int.natCast_nonneg _)

/-- Rounding to the context keeps the sign. -/
theorem fix_sign (x : Decimal) : (0 ≤ x.coefficient → 0 ≤ (fix x).coefficient) ∧
    (x.coefficient ≤ 0 → (fix x).coefficient ≤ 0) := by
  unfold fix
  simp only
  split_ifs with hkept hfits
  · exact ⟨id, id⟩
  · exact ⟨fun h => halfEven_nonneg h _, fun h => halfEven_nonpos h _⟩
  · refine ⟨fun h => ?_, fun h => ?_⟩
    · exact Int.ediv_nonneg (halfEven_nonneg h _) (by decide)
    · have hnonpos := halfEven_nonpos h (digitCount x.coefficient.natAbs - precision)
      show halfEven x.coefficient (digitCount x.coefficient.natAbs - precision) / 10 ≤ 0
      omega

end Decimal

section
variable {x y : ℚ}

theorem roundHalfUp_nonpos (h : x ≤ 0) : roundHalfUp x ≤ 0 := by
  have hneg := roundHalfUp_nonneg (x := -x) (by linarith)
  rw [roundHalfUp_neg] at hneg
  omega

/-- `y` lies in the band of halves around the integers at most one from `x`; both are sizes. -/
def InBand (x y : ℚ) : Prop := (⌈x⌉ : ℚ) - 3 / 2 ≤ y ∧ y < ⌊x⌋ + 3 / 2

instance : Decidable (InBand x y) := inferInstanceAs (Decidable (_ ∧ _))

theorem abs_roundHalfUp_sub_le_one_of_nonneg (hy : 0 ≤ y) : |(roundHalfUp y : ℚ) - x| ≤ 1 ↔ InBand x y := by
  rw [roundHalfUp_of_nonneg hy, abs_le]
  have hlow : (⌊y + 1 / 2⌋ : ℚ) - x ≤ 1 ↔ y < ⌊x⌋ + 3 / 2 := by
    have hcast : (⌊y + 1 / 2⌋ : ℚ) - x ≤ 1 ↔ ((⌊y + 1 / 2⌋ - 1 : ℤ) : ℚ) ≤ x := by
      push_cast
      constructor <;> intro h <;> linarith
    have hfloor : ⌊y + 1 / 2⌋ - 1 ≤ ⌊x⌋ ↔ ⌊y + 1 / 2⌋ < ⌊x⌋ + 2 := by omega
    rw [hcast, ← Int.le_floor, hfloor, Int.floor_lt]
    push_cast
    constructor <;> intro h <;> linarith
  have hhigh : -1 ≤ (⌊y + 1 / 2⌋ : ℚ) - x ↔ (⌈x⌉ : ℚ) - 3 / 2 ≤ y := by
    have hcast : -1 ≤ (⌊y + 1 / 2⌋ : ℚ) - x ↔ x ≤ ((⌊y + 1 / 2⌋ + 1 : ℤ) : ℚ) := by
      push_cast
      constructor <;> intro h <;> linarith
    have hceil : ⌈x⌉ ≤ ⌊y + 1 / 2⌋ + 1 ↔ ⌈x⌉ - 1 ≤ ⌊y + 1 / 2⌋ := by omega
    rw [hcast, ← Int.ceil_le, hceil, Int.le_floor]
    push_cast
    constructor <;> intro h <;> linarith
  rw [hlow, hhigh]
  exact Iff.rfl

/-- A rounded number is at most one from another of its sign exactly when its size was in the band. -/
theorem abs_roundHalfUp_sub_le_one (h : (0 ≤ x ∧ 0 ≤ y) ∨ (x ≤ 0 ∧ y ≤ 0)) :
    |(roundHalfUp y : ℚ) - x| ≤ 1 ↔ InBand |x| |y| := by
  rcases h with ⟨hx, hy⟩ | ⟨hx, hy⟩
  · rw [abs_of_nonneg hx, abs_of_nonneg hy]
    exact abs_roundHalfUp_sub_le_one_of_nonneg hy
  · have hneg : |(roundHalfUp y : ℚ) - x| = |(roundHalfUp (-y) : ℚ) - -x| := by
      rw [roundHalfUp_neg, ← abs_neg]
      push_cast
      congr 1
      ring
    rw [abs_of_nonpos hx, abs_of_nonpos hy, hneg]
    exact abs_roundHalfUp_sub_le_one_of_nonneg (by linarith)

end

end PortfolioManagement
