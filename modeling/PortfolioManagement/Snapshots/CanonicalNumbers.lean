import PortfolioManagement.Snapshots.ReadBack

/-!
# Canonical texts of decimals

A decimal of at most 28 significant digits is written as its value: the text depends on nothing else, and
reading it gives a decimal of the same value. More digits are rounded away before the text is written, and
an integer that needs more has no text.
-/

namespace PortfolioManagement

namespace Decimal

variable {x y : Decimal}

/-- A decimal of at most 28 digits. -/
def Short (x : Decimal) : Prop := x.coefficient.natAbs < 10 ^ precision

instance (x : Decimal) : Decidable x.Short :=
  inferInstanceAs (Decidable (x.coefficient.natAbs < 10 ^ precision))

/-- A decimal of at most 28 significant digits. -/
def Fits (x : Decimal) : Prop := ∃ y : Decimal, y.Short ∧ x.equal y = true

theorem Short.fits (h : x.Short) : x.Fits := ⟨x, h, equal_self x⟩

theorem Fits.congr (h : x.Fits) (hequal : y.equal x = true) : y.Fits := by
  obtain ⟨z, hshort, hz⟩ := h
  exact ⟨z, hshort, equal_trans hequal hz⟩

theorem natAbs_halfEven_le (c : Int) (k : Nat) : (halfEven c k).natAbs ≤ c.natAbs / 10 ^ k + 1 := by
  unfold halfEven
  simp only [Int.natAbs_mul, Int.natAbs_natCast]
  have hsign : c.sign.natAbs ≤ 1 := by
    rcases lt_trichotomy c 0 with h | h | h
    · simp [Int.sign_eq_neg_one_of_neg h]
    · simp [h]
    · simp [Int.sign_eq_one_of_pos h]
  refine (Nat.mul_le_mul_right _ hsign).trans ?_
  rw [one_mul]
  split_ifs
  · exact le_rfl
  · exact Nat.le_succ _

/-- Rounding to the context leaves at most its digits. -/
theorem short_fix (x : Decimal) : (fix x).Short := by
  unfold fix
  simp only
  by_cases hfits : digitCount x.coefficient.natAbs ≤ precision
  · rw [if_pos hfits]
    exact (digitCount_le (by decide)).mp hfits
  · rw [if_neg hfits]
    by_cases hkept : digitCount (halfEven x.coefficient
        (digitCount x.coefficient.natAbs - precision)).natAbs ≤ precision
    · rw [if_pos hkept]
      exact (digitCount_le (by decide)).mp hkept
    · -- a carry into a new digit
      have hlt : x.coefficient.natAbs < 10 ^ digitCount x.coefficient.natAbs :=
        Nat.lt_pow_succ_log_self (by decide) _
      have hsplit : digitCount x.coefficient.natAbs =
          precision + (digitCount x.coefficient.natAbs - precision) := by omega
      have hquotient : x.coefficient.natAbs / 10 ^ (digitCount x.coefficient.natAbs - precision) <
          10 ^ precision := by
        rw [Nat.div_lt_iff_lt_mul (pow_pos (by decide) _), ← pow_add, ← hsplit]
        exact hlt
      have hle := natAbs_halfEven_le x.coefficient (digitCount x.coefficient.natAbs - precision)
      rw [if_neg hkept]
      unfold Short
      simp only [precision] at hquotient hle ⊢
      omega

/-- Rounding keeps a decimal that fits. -/
theorem fix_equal (h : x.Fits) : (fix x).equal x = true := by
  obtain ⟨y, hshort, hequal⟩ := h
  rcases equal_iff.mp hequal with ⟨k, hk⟩ | ⟨k, hk⟩
  · have hsmaller : x.Short := by
      have hcoefficient : y.coefficient.natAbs = x.coefficient.natAbs * 10 ^ k := by
        rw [hk, extended, natAbs_mul_pow]
      have hten : 0 < 10 ^ k := Nat.pow_pos (by decide)
      have hle : x.coefficient.natAbs ≤ y.coefficient.natAbs :=
        hcoefficient ▸ Nat.le_mul_of_pos_right _ hten
      exact hle.trans_lt hshort
    rw [fix_of_lt hsmaller]
    exact equal_self x
  · have hfix := fix_extended y k
    rw [← hk, fix_of_lt hshort] at hfix
    exact equal_trans hfix (equal_symm hequal)

/-- Stripped decimals of one value are the same. -/
theorem Stripped.eq_of_equal (hx : x.Stripped) (hy : y.Stripped) (h : x.equal y = true) : x = y := by
  have hextended : ∀ {a b : Decimal} {k : Nat}, a.Stripped → b.Stripped → b = a.extended k → b = a := by
    intro a b k ha hb heq
    cases k with
    | zero => rw [heq, extended_zero]
    | succ k =>
      have hmod : b.coefficient % 10 = 0 := by
        rw [heq, extended, pow_succ, ← mul_assoc, Int.mul_emod_left]
      have hb0 := hb.resolve_right (not_not.mpr hmod)
      have ha0 : a.coefficient = 0 := by
        have hzero := congrArg Decimal.coefficient heq
        rw [hb0] at hzero
        exact (mul_eq_zero.mp hzero.symm).resolve_right (pow_ne_zero _ (by decide))
      rcases ha with ha | ha
      · rw [hb0, ha]
      · exact absurd (by rw [ha0]; rfl) ha
  rcases equal_iff.mp h with ⟨k, hk⟩ | ⟨k, hk⟩
  · exact (hextended hx hy hk).symm
  · exact hextended hy hx hk

/-- Stripping zeros keeps the value and leaves none. -/
theorem strippedZeros_spec (n : Nat) {c e : Int} (hc : c ≠ 0) (hfits : c.natAbs < 10 ^ n) :
    (strippedZeros n c e).Stripped ∧ (strippedZeros n c e).equal ⟨c, e⟩ = true ∧
      (strippedZeros n c e).coefficient.natAbs ≤ c.natAbs := by
  induction n generalizing c e with
  | zero => omega
  | succ n ih =>
    rw [strippedZeros]
    by_cases hmod : c % 10 = 0
    · have hten : c = c / 10 * 10 := (Int.ediv_mul_cancel (Int.dvd_of_emod_eq_zero hmod)).symm
      obtain ⟨hstripped, hequal, hle⟩ := ih (c := c / 10) (e := e + 1) (by omega) (by
        rw [pow_succ] at hfits
        omega)
      rw [if_pos hmod]
      refine ⟨hstripped, equal_trans hequal (equal_iff.mpr (.inl ⟨1, ?_⟩)), by omega⟩
      rw [extended, pow_one, ← hten]
      simp
    · rw [if_neg hmod]
      exact ⟨.inr hmod, equal_self _, le_rfl⟩

/-- Normalizing strips what rounding leaves. -/
theorem normalize_spec (x : Decimal) :
    (normalize x).Stripped ∧ (normalize x).equal (fix x) = true ∧ (normalize x).Short := by
  unfold normalize
  simp only
  by_cases hzero : (fix x).coefficient = 0
  · rw [if_pos hzero]
    refine ⟨.inl rfl, ?_, by decide⟩
    simp [equal, aligned, hzero]
  · rw [if_neg hzero]
    obtain ⟨hstripped, hequal, hle⟩ :=
      strippedZeros_spec precision (e := (fix x).exponent) hzero (short_fix x)
    exact ⟨hstripped, hequal, hle.trans_lt (short_fix x)⟩

/-- Normalizing keeps the value of a decimal that fits. -/
theorem normalize_equal (h : x.Fits) : (normalize x).equal x = true :=
  equal_trans (normalize_spec x).2.1 (fix_equal h)

theorem normalize_congr (hx : x.Fits) (h : x.equal y = true) : normalize x = normalize y :=
  (normalize_spec x).1.eq_of_equal (normalize_spec y).1 (equal_trans (normalize_equal hx)
    (equal_trans h (equal_symm (normalize_equal (hx.congr (equal_symm h))))))

theorem isIntegral_extended (x : Decimal) (k : Nat) : (x.extended k).IsIntegral ↔ x.IsIntegral := by
  obtain ⟨c, e⟩ := x
  unfold IsIntegral extended
  simp only
  by_cases he : 0 ≤ e
  · refine iff_of_true ?_ (.inl he)
    by_cases hlow : 0 ≤ e - k
    · exact .inl hlow
    · have hle : (-(e - (k : Int))).toNat ≤ k := by omega
      exact .inr (Int.emod_eq_zero_of_dvd (Dvd.dvd.mul_left (pow_dvd_pow 10 hle) c))
  · have hlow : ¬ 0 ≤ e - k := by omega
    have hexp : (-(e - (k : Int))).toNat = (-e).toNat + k := by omega
    have hpow : (10 : Int) ^ k ≠ 0 := pow_ne_zero _ (by decide)
    rw [or_iff_right he, or_iff_right hlow, hexp, pow_add, ← Int.dvd_iff_emod_eq_zero,
      ← Int.dvd_iff_emod_eq_zero, mul_dvd_mul_iff_right hpow]

theorem isIntegral_congr (h : x.equal y = true) : x.IsIntegral ↔ y.IsIntegral :=
  iff_of_eq (eq_of_equal (fun x k => propext (isIntegral_extended x k)) h)

/-- An integral decimal is quantized to its value. -/
theorem quantize_zero_equal (hx : x.IsIntegral) {c : Int} (h : x.quantize 0 = some c) :
    (⟨c, 0⟩ : Decimal).equal x = true := by
  obtain ⟨a, e⟩ := x
  unfold quantize at h
  simp only at h
  by_cases he : 0 ≤ e
  · rw [if_pos he] at h
    split_ifs at h with hfits
    refine equal_iff.mpr (.inr ⟨e.toNat, ?_⟩)
    rw [extended, Int.toNat_of_nonneg he, ← Option.some.inj h]
    simp
  · rw [if_neg he] at h
    split_ifs at h with hfits
    have hdvd : a % 10 ^ (-e).toNat = 0 := hx.resolve_left he
    obtain ⟨m, hm⟩ := Int.dvd_of_emod_eq_zero hdvd
    have hexp : (0 - e).toNat = (-e).toNat := by omega
    have hround := halfUp_mul_pow_of_le m (le_refl (-e).toNat)
    rw [Nat.sub_self, pow_zero, mul_one, mul_comm, ← hm] at hround
    have hc : m = c := by
      have hsome := Option.some.inj h
      rwa [hexp, hround] at hsome
    refine equal_iff.mpr (.inl ⟨(-e).toNat, ?_⟩)
    rw [extended, ← hc, mul_comm m, ← hm]
    simp only [mk.injEq, true_and]
    omega

end Decimal

namespace Snapshots

variable {x y : Decimal} {text : String}

theorem canonicalOptional_some_ok {text : Option String} :
    canonicalOptional (some x) = .ok text ↔ ∃ t, canonicalDecimal x = .ok t ∧ text = some t := by
  have hmap : canonicalOptional (some x) = (canonicalDecimal x).map some := rfl
  rw [hmap]
  cases canonicalDecimal x with
  | error e => simp [Except.map]
  | ok t => simp [Except.map, eq_comm]

/-- The canonical text of a decimal that fits depends on its value. -/
theorem canonicalDecimal_congr (hx : x.Fits) (h : x.equal y = true) :
    canonicalDecimal x = canonicalDecimal y := by
  have hquantize : x.quantize 0 = y.quantize 0 :=
    Decimal.eq_of_equal (f := fun x => x.quantize 0) (fun x k => Decimal.quantize_extended x k 0) h
  have hzero := Decimal.coefficient_eq_zero_of_equal h
  have hintegral := Decimal.isIntegral_congr h
  unfold canonicalDecimal
  simp only [hzero, hintegral, hquantize, Decimal.normalize_congr hx h]

/-- The canonical text of a decimal that fits is read as a decimal of its value. -/
theorem canonicalDecimal_read (hx : x.Fits) (h : canonicalDecimal x = .ok text) :
    ∃ read : Decimal, decimalOf (Json.text text) = some read ∧ read.equal x = true ∧ read.Short ∧
      canonicalDecimal read = .ok text := by
  -- every canonical text is a fixed-point text
  suffices hshape : ∃ written : Decimal, text = Decimal.fixedPoint written ∧
      written.expanded.equal x = true ∧ written.expanded.Short by
    obtain ⟨written, rfl, hequal, hshort⟩ := hshape
    refine ⟨written.expanded, ?_, hequal, hshort,
      (canonicalDecimal_congr hshort.fits hequal).trans h⟩
    rw [Json.text, decimalOf, textOf?_codes, Option.bind_some, strip_fixedPoint,
      Decimal.ofText_fixedPoint]
  unfold canonicalDecimal at h
  by_cases hzero : x.coefficient = 0
  · rw [if_pos hzero] at h
    cases h
    refine ⟨⟨0, 0⟩, by decide +kernel, ?_, by decide⟩
    simp [Decimal.expanded, Decimal.equal, Decimal.aligned, hzero]
  · rw [if_neg hzero] at h
    by_cases hintegral : x.IsIntegral
    · rw [if_pos hintegral] at h
      cases hc : x.quantize 0 with
      | none =>
        rw [hc] at h
        cases h
      | some c =>
        rw [hc] at h
        cases h
        have hexpanded : (⟨c, 0⟩ : Decimal).expanded = ⟨c, 0⟩ := by simp [Decimal.expanded]
        exact ⟨⟨c, 0⟩, rfl, by rw [hexpanded]; exact Decimal.quantize_zero_equal hintegral hc,
          by rw [hexpanded]; exact Decimal.natAbs_of_quantize hc⟩
    · rw [if_neg hintegral] at h
      cases h
      have hequal := Decimal.normalize_equal hx
      have hshort := (Decimal.normalize_spec x).2.2
      have hneg : ¬ 0 ≤ x.normalize.exponent := fun hexp =>
        hintegral ((Decimal.isIntegral_congr hequal).mp (.inl hexp))
      have hexpanded : x.normalize.expanded = x.normalize := if_neg hneg
      exact ⟨x.normalize, rfl, by rw [hexpanded]; exact hequal, by rw [hexpanded]; exact hshort⟩

end Snapshots

end PortfolioManagement
