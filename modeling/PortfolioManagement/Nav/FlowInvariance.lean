import Mathlib.Algebra.Order.Field.Basic
import PortfolioManagement.Nav.SelfCheck

/-!
# External flows and the NAV per share

A flow changes the shares at the previous NAV, so a portfolio whose value changes by the flow alone
keeps its NAV up to rounding. What the previous record lost when its NAV, its total and its shares
were rounded is spread over the resulting shares.
-/

namespace PortfolioManagement.Nav

/-- `NAV_QUANT` -/
def navStep : ℚ := 1 / 1000000

/-- `MONEY_QUANT`, of amounts and of shares. -/
def moneyStep : ℚ := 1 / 100

theorem abs_quantizeNav_sub_le (x : ℚ) : |(quantizeNav x).toDecimal - x| ≤ navStep / 2 := by
  have hround := abs_le.mp (abs_roundHalfUp_sub_le (x * 1000000))
  rw [Micro.toDecimal, quantizeNav, navStep, abs_le]
  constructor <;> linarith [hround.1, hround.2]

theorem abs_money_sub_le (x : ℚ) : |(money x).toDecimal - x| ≤ moneyStep / 2 := by
  have hround := abs_le.mp (abs_roundHalfUp_sub_le (x * 100))
  rw [Cents.toDecimal, money_eq_roundHalfUp, moneyStep, abs_le]
  constructor <;> linarith [hround.1, hround.2]

theorem money_nonneg {x : ℚ} (h : 0 ≤ x) : 0 ≤ money x := by
  rw [money_eq_roundHalfUp]
  exact roundHalfUp_nonneg (by linarith)

/-! ## Drift -/

/-- What a record loses by rounding: the NAV on all its shares, the total, and the shares at the
NAV. -/
def roundingLoss (nav total shares exactTotal exactShares : ℚ) : ℚ :=
  navStep / 2 * exactShares + |total - exactTotal| + nav * |shares - exactShares|

section
variable {nav total shares exactTotal exactShares flow : ℚ}

/-- The total of a rounded record differs from its shares at its NAV by what was lost. -/
theorem abs_total_sub_le (hnav : 0 < nav) (hshares : 0 < exactShares)
    (hrounded : |nav - exactTotal / exactShares| ≤ navStep / 2) :
    |total - nav * shares| ≤ roundingLoss nav total shares exactTotal exactShares := by
  have hexact : |exactTotal - nav * exactShares| ≤ navStep / 2 * exactShares := by
    have hscaled : exactTotal - nav * exactShares =
        -((nav - exactTotal / exactShares) * exactShares) := by
      rw [sub_mul, div_mul_cancel₀ _ hshares.ne']
      ring
    rw [hscaled, abs_neg, abs_mul, abs_of_pos hshares]
    exact mul_le_mul_of_nonneg_right hrounded hshares.le
  have hissued : |nav * exactShares - nav * shares| = nav * |shares - exactShares| := by
    rw [← mul_sub, abs_mul, abs_of_pos hnav, abs_sub_comm]
  calc |total - nav * shares|
      = |(total - exactTotal) + (exactTotal - nav * exactShares) +
          (nav * exactShares - nav * shares)| := by congr 1; ring
    _ ≤ |total - exactTotal| + |exactTotal - nav * exactShares| +
          |nav * exactShares - nav * shares| := abs_add_three _ _ _
    _ ≤ roundingLoss nav total shares exactTotal exactShares := by
        rw [hissued, roundingLoss]
        linarith

/-- Shares issued at the NAV move the quotient by what was lost, over the resulting shares. -/
theorem abs_quotient_sub_le (hnav : 0 < nav) (hshares : 0 < exactShares)
    (hrounded : |nav - exactTotal / exactShares| ≤ navStep / 2)
    (hresult : 0 < shares + flow / nav) :
    |(total + flow) / (shares + flow / nav) - nav| ≤
      roundingLoss nav total shares exactTotal exactShares / (shares + flow / nav) := by
  have hquotient : (total + flow) / (shares + flow / nav) - nav =
      (total - nav * shares) / (shares + flow / nav) := by
    rw [eq_div_iff hresult.ne', sub_mul, div_mul_cancel₀ _ hresult.ne', mul_add,
      mul_div_cancel₀ _ hnav.ne']
    ring
  rw [hquotient, abs_div, abs_of_pos hresult]
  exact div_le_div_of_nonneg_right (abs_total_sub_le hnav hshares hrounded) hresult.le

end

/-! ## Records -/

/-- The NAV, the total and the shares of a record are those of exact values, rounded. -/
structure RoundedFrom (last : NAVHistory) (nav : Micro) (exactTotal exactShares : ℚ) : Prop where
  sharesPos : 0 < exactShares
  navField : last.nav = some nav
  navEq : nav = quantizeNav (exactTotal / exactShares)
  totalEq : last.totalValue = money exactTotal
  sharesField : last.shares = some (money exactShares)

section
variable {rt : Runtime} {today : CivilDate} {yesterdayNav : Option NAVHistory}
  {yearlyData : Items String YearData} {startYear : Nat} {x : PeriodInputs} {last : NAVHistory}
  {nav : Micro} {exactTotal exactShares totalValue : ℚ} {evidence : PreviousEvidence}

theorem RoundedFrom.evidence_eq (h : RoundedFrom last nav exactTotal exactShares) (hnav : 0 < nav)
    (hlast : x.lastNav = some last) :
    previousEvidence x.lastNav = .ok (some (nav, money exactShares)) := by
  have hnonneg := money_nonneg h.sharesPos.le
  rw [hlast]
  unfold previousEvidence
  simp only [h.navField, h.sharesField]
  rw [if_neg (not_or.mpr ⟨not_le.mpr hnav, not_lt.mpr hnonneg⟩)]

/-- The metrics are returned unless the first year's base record has no NAV. -/
theorem calcNavMetrics_spec (hlast : previousEvidence x.lastNav = .ok evidence) :
    ((∃ m, calcNavMetrics rt today totalValue yesterdayNav yearlyData startYear x = .ok m) ↔
        ∀ base ∈ firstBaseOf yearlyData startYear, base.nav ≠ none) ∧
      ∀ m, calcNavMetrics rt today totalValue yesterdayNav yearlyData startYear x = .ok m →
        m.shares = sharesOf totalValue x.effectiveCashFlow evidence ∧
        m.nav = navOf totalValue m.shares ∧
        m.dailyAppreciation = (yesterdayNav.filter (dayBefore today)).map fun yesterday =>
          totalValue - yesterday.totalValue.toDecimal - x.effectiveCashFlow := by
  constructor
  · rw [← @cagrOf_ok_iff rt today (navOf totalValue
      (sharesOf totalValue x.effectiveCashFlow evidence)), firstBaseOf]
    simp only [calcNavMetrics, hlast, bind, Except.bind, pure, Except.pure]
    cases cagrOf rt today _ _ <;> simp
  · intro m hm
    simp only [calcNavMetrics, hlast, bind, Except.bind, pure, Except.pure] at hm
    split at hm
    · cases hm
    · cases hm
      exact ⟨rfl, rfl, rfl⟩

end

/-! ## A deposit, an overdrawn account and a withdrawal -/

/-- The inputs of a day with a flow, after a record of a total, some shares and a NAV. -/
def flowInputs (totalValue shares : Cents) (nav : Micro) (flow : ℚ) : PeriodInputs :=
  { depositInputs flow with lastNav := some (bareRecord depositDay totalValue shares nav) }

end PortfolioManagement.Nav
