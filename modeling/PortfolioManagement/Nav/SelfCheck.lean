import PortfolioManagement.Nav.Invariants

/-!
# When a computed NAV record passes its own check

The record that `calc_nav_metrics` and `build_nav_record` compute is checked with the inputs it was
computed from. The NAV is computed from the exact shares and checked against the rounded ones, so
the check fails where rounding the shares to two places moves the NAV by more than a millionth, and
where the shares round to zero.
-/

namespace PortfolioManagement.Nav

/-! ## Rounding -/

/-- Two numbers of millionths are within one millionth when they are at most one apart. -/
theorem approxEqual_toDecimal {a b : Micro} :
    approxEqual a.toDecimal b.toDecimal (1 / 1000000) = true ↔ |a - b| ≤ 1 := by
  have hdiff : a.toDecimal - b.toDecimal = ((a - b : ℤ) : ℚ) / 1000000 := by
    rw [Micro.toDecimal, Micro.toDecimal]
    push_cast
    ring
  rw [approxEqual, decide_eq_true_iff, hdiff, abs_div, abs_of_pos (by norm_num : (0 : ℚ) < 1000000),
    div_le_div_iff_of_pos_right (by norm_num)]
  exact_mod_cast Iff.rfl

/-- The weights of two parts of a total sum to one, up to rounding. -/
theorem weights_sum {a b : ℚ} (h : a + b = 1) :
    approxEqual ((quantizeWeight a).toDecimal + (quantizeWeight b).toDecimal) 1 (1 / 10000) =
      true := by
  have ha := abs_le.mp (abs_roundHalfUp_sub_le (a * 1000000))
  have hb := abs_le.mp (abs_roundHalfUp_sub_le (b * 1000000))
  rw [approxEqual, decide_eq_true_iff, abs_le, Micro.toDecimal, Micro.toDecimal, quantizeWeight,
    quantizeWeight]
  constructor <;> linarith [ha.1, ha.2, hb.1, hb.2]

/-- The two parts of a positive total weigh one. -/
theorem weightOf_add_weightOf {cash nonCash totalValue : Cents} (h : totalValue = cash + nonCash)
    (hpos : 0 < totalValue) : weightOf nonCash totalValue + weightOf cash totalValue = 1 := by
  have htotal : totalValue.toDecimal ≠ 0 := by
    rw [Cents.toDecimal]
    exact div_ne_zero (by exact_mod_cast hpos.ne') (by norm_num)
  rw [weightOf, weightOf, if_pos hpos, if_pos hpos, ← add_div, div_eq_one_iff_eq htotal, h,
    Cents.toDecimal, Cents.toDecimal, Cents.toDecimal]
  push_cast
  ring

/-- The shares are positive at two places, and rounding them moves the NAV by at most one
millionth. -/
def NavStable (totalValue shares : ℚ) : Prop :=
  0 < money shares ∧
    |quantizeNav (totalValue / shares) - quantizeNav (totalValue / (money shares).toDecimal)| ≤ 1

/-- The rounding of the shares does not show where they are large against the NAV. -/
theorem navStable_of_le {totalValue shares : ℚ} (hshares : 0 < shares) (hmoney : 0 < money shares)
    (h : 5000 * |totalValue| ≤ shares * (money shares).toDecimal) :
    NavStable totalValue shares := by
  refine ⟨hmoney, abs_roundHalfUp_sub_roundHalfUp_le ?_ ?_⟩
  · have hrounded : 0 < (money shares).toDecimal := by
      rw [Cents.toDecimal]
      exact div_pos (by exact_mod_cast hmoney) (by norm_num)
    have hsquare : totalValue / shares * 1000000 * (totalValue / (money shares).toDecimal * 1000000) =
        totalValue ^ 2 / (shares * (money shares).toDecimal) * 1000000 ^ 2 := by
      field_simp
    rw [hsquare]
    positivity
  · have hrounded : 0 < (money shares).toDecimal := by
      rw [Cents.toDecimal]
      exact div_pos (by exact_mod_cast hmoney) (by norm_num)
    have hnear : |(money shares).toDecimal - shares| ≤ 1 / 200 := by
      have hround := abs_le.mp (abs_roundHalfUp_sub_le (shares * 100))
      rw [Cents.toDecimal, money_eq_roundHalfUp, abs_le]
      constructor <;> linarith [hround.1, hround.2]
    have hdiff : totalValue / shares * 1000000 - totalValue / (money shares).toDecimal * 1000000 =
        totalValue * ((money shares).toDecimal - shares) * 1000000 /
          (shares * (money shares).toDecimal) := by
      field_simp
    rw [hdiff, abs_div, abs_of_pos (mul_pos hshares hrounded), div_le_one (mul_pos hshares hrounded),
      abs_mul, abs_mul, abs_of_pos (by norm_num : (0 : ℚ) < 1000000)]
    calc |totalValue| * |(money shares).toDecimal - shares| * 1000000
        ≤ |totalValue| * (1 / 200) * 1000000 := by gcongr
      _ = 5000 * |totalValue| := by ring
      _ ≤ shares * (money shares).toDecimal := h

/-! ## The computed record -/

section
variable (rt : Runtime)

/-- The record `_record_nav_impl` computes from a valuation, before its provenance is added. The
previous record is also the one of yesterday. -/
def computeNavRecord (today : CivilDate) (account : String) (v : PortfolioValuation)
    (yearlyData : Items String YearData) (startYear : Nat) (x : PeriodInputs) :
    Except Error NAVHistory := do
  let p ← projectValuation v
  let m ← calcNavMetrics rt today p.totalValue.toDecimal x.lastNav yearlyData startYear x
  pure (buildNavRecord today account p.canonicalValuation p.nonCashValue.toDecimal
    p.cashValue.toDecimal p.totalValue.toDecimal p.stockWeight.toDecimal p.cashWeight.toDecimal
    yearlyData x m)

end

/-- What the check reads of a computed record. -/
structure Computed (today : CivilDate) (p : NavValuationProjection) (x : PeriodInputs)
    (evidence : PreviousEvidence) (r : NAVHistory) : Prop where
  date : r.date = today
  totalValue : r.totalValue = p.totalValue
  cashValue : r.cashValue = some p.cashValue
  stockValue : r.stockValue = some p.nonCashValue
  fundValue : r.fundValue = some p.fundValue
  stockWeight : r.stockWeight = some p.stockWeight
  cashWeight : r.cashWeight = some p.cashWeight
  shares : r.shares = some (money (sharesOf p.totalValue.toDecimal x.effectiveCashFlow evidence))
  nav : r.nav = some (navOf p.totalValue.toDecimal
    (sharesOf p.totalValue.toDecimal x.effectiveCashFlow evidence))
  cashFlow : r.cashFlow = some (money x.dailyCashFlow)
  shareChange : r.shareChange = some (money (sharesChangeOf x.effectiveCashFlow evidence))
  mtdNavChange : r.mtdNavChange =
    (r.nav.bind fun nav => calcMtdNavChange nav x.monthBaseNav).map quantizeNav
  ytdNavChange : r.ytdNavChange =
    (r.nav.bind fun nav => calcYtdNavChange nav x.yearBaseNav).map quantizeNav
  pnl : r.pnl = ((x.lastNav.filter (dayBefore today)).map fun last =>
    p.totalValue.toDecimal - last.totalValue.toDecimal - x.effectiveCashFlow).map money
  mtdPnl : r.mtdPnl =
    (calcMtdPnl p.totalValue.toDecimal x.prevMonthEndNav x.monthlyCashFlow).map money
  ytdPnl : r.ytdPnl =
    (calcYtdPnl p.totalValue.toDecimal x.prevYearEndNav x.yearlyCashFlow).map money
  status : statusOf r = none
  cumulativeAppreciation : r.details.bind (·.cumulativeAppreciation) =
    some (money (cumulativeAppreciationOf p.totalValue.toDecimal x))

/-- What `project_valuation` establishes. -/
structure Projected (p : NavValuationProjection) : Prop where
  totalValue : p.totalValue = p.cashValue + p.nonCashValue
  stockWeight : p.stockWeight = quantizeWeight (weightOf p.nonCashValue p.totalValue)
  cashWeight : p.cashWeight = quantizeWeight (weightOf p.cashValue p.totalValue)

theorem projected {v : PortfolioValuation} {p : NavValuationProjection}
    (h : projectValuation v = .ok p) : Projected p := by
  unfold projectValuation at h
  simp only at h
  split at h
  · cases h
  · cases h
    exact ⟨rfl, rfl, rfl⟩

section
variable {rt : Runtime} {today : CivilDate} {account : String} {v : PortfolioValuation}
  {yearlyData : Items String YearData} {startYear : Nat} {x : PeriodInputs}
  {p : NavValuationProjection} {evidence : PreviousEvidence} {r : NAVHistory}

/-- The compound rate is missing only where the base record has no NAV. -/
theorem cagrOf_ok_iff {nav : Micro} {firstBase : Option NAVHistory} :
    (∃ cagr, cagrOf rt today nav firstBase = .ok cagr) ↔ ∀ base ∈ firstBase, base.nav ≠ none := by
  unfold cagrOf
  cases firstBase with
  | none => simp
  | some base =>
    cases hnav : base.nav with
    | none => simp [hnav]
    | some baseNav => simp [hnav]

/-- The first year's base record. -/
def firstBaseOf (yearlyData : Items String YearData) (startYear : Nat) : Option NAVHistory :=
  (yearlyData.lookup (toString startYear)).bind (·.prevEnd)

/-- A record is computed unless the first year's base record has no NAV; what is computed. -/
theorem computeNavRecord_spec (hp : projectValuation v = .ok p)
    (hlast : previousEvidence x.lastNav = .ok evidence) :
    ((∃ r, computeNavRecord rt today account v yearlyData startYear x = .ok r) ↔
        ∀ base ∈ firstBaseOf yearlyData startYear, base.nav ≠ none) ∧
      ∀ r, computeNavRecord rt today account v yearlyData startYear x = .ok r →
        Computed today p x evidence r ∧ finalityOf r = none ∧ basisOf r = none := by
  constructor
  · rw [← @cagrOf_ok_iff rt today (navOf p.totalValue.toDecimal
      (sharesOf p.totalValue.toDecimal x.effectiveCashFlow evidence)), firstBaseOf]
    simp only [computeNavRecord, hp, calcNavMetrics, hlast, bind, Except.bind, pure, Except.pure]
    cases cagrOf rt today _ _ <;> simp
  · intro r hr
    simp only [computeNavRecord, hp, calcNavMetrics, hlast, bind, Except.bind, pure,
      Except.pure] at hr
    split at hr
    · cases hr
    next m hm =>
    split at hm
    · cases hm
    · cases hm
      cases hr
      refine ⟨⟨rfl, ?_, ?_, ?_, ?_, ?_, ?_, rfl, ?_, rfl, rfl, ?_, ?_, rfl, rfl, rfl, rfl, rfl⟩, rfl,
        rfl⟩
      all_goals simp [buildNavRecord, NavValuationProjection.canonicalValuation]

/-! ## The checks of a computed record -/

namespace Computed

theorem isClosed_eq (h : Computed today p x evidence r) : isClosed r = false := by
  rw [isClosed, h.status]
  decide +kernel

theorem totalErrors_eq (h : Computed today p x evidence r) (hp : Projected p) :
    totalErrors rt r = [] := by
  have hsum : p.nonCashValue.toDecimal + p.cashValue.toDecimal = p.totalValue.toDecimal := by
    rw [hp.totalValue, Cents.toDecimal, Cents.toDecimal, Cents.toDecimal]
    push_cast
    ring
  simp only [totalErrors, h.cashValue, h.stockValue]
  rw [failing_eq_nil, h.totalValue, hsum, money_toDecimal]
  exact moneyEqual_self _

theorem fundErrors_eq_nil (h : Computed today p x evidence r) :
    fundErrors r = [] ↔ (0 ≤ p.fundValue → 0 ≤ p.nonCashValue → p.fundValue ≤ p.nonCashValue) := by
  simp only [fundErrors, h.fundValue, h.stockValue]
  rw [failing_eq_nil, decide_eq_true_iff]
  constructor
  · intro hnot hfund hstock
    by_contra hlt
    exact hnot ⟨hfund, hstock, not_le.mp hlt⟩
  · rintro himp ⟨hfund, hstock, hlt⟩
    exact absurd (himp hfund hstock) (not_le.mpr hlt)

theorem weightErrors_eq (h : Computed today p x evidence r) (hp : Projected p) :
    weightErrors rt r = [] := by
  unfold weightErrors
  rw [h.totalValue]
  split
  · rfl
  next hpos =>
    rw [not_le] at hpos
    have hone : weightOf p.nonCashValue p.totalValue + weightOf p.cashValue p.totalValue = 1 :=
      weightOf_add_weightOf hp.totalValue hpos
    have hweight : ∀ label value, weightError rt label (quantizeWeight (weightOf value p.totalValue))
        value p.totalValue = [] := by
      intro label value
      rw [weightError, failing_eq_nil, approxEqual_toDecimal, weightOf, if_pos hpos, sub_self]
      decide
    simp only [h.stockWeight, h.cashWeight, h.stockValue, h.cashValue, hp.stockWeight,
      hp.cashWeight, hweight, List.nil_append]
    rw [failing_eq_nil]
    exact weights_sum hone

theorem navErrors_eq_nil (h : Computed today p x evidence r)
    (hshares : 0 < sharesOf p.totalValue.toDecimal x.effectiveCashFlow evidence) :
    navErrors rt r = [] ↔
      NavStable p.totalValue.toDecimal
        (sharesOf p.totalValue.toDecimal x.effectiveCashFlow evidence) := by
  unfold navErrors NavStable
  simp only [h.isClosed_eq, h.shares, h.nav, expectedNav, h.totalValue, Bool.false_eq_true,
    if_false]
  split
  next hpos =>
    rw [failing_eq_nil, approxEqual_toDecimal, navOf, if_pos hshares]
    exact ⟨fun hle => ⟨hpos, hle⟩, fun hle => hle.2⟩
  next hpos => simp [hpos]

theorem cashFlowErrors_eq (h : Computed today p x evidence r) : cashFlowErrors rt r x = [] := by
  rw [cashFlowErrors, failing_eq_nil, h.cashFlow]
  exact moneyEqual_map_money (some _)

theorem shareErrors_eq (h : Computed today p x evidence r)
    (hlast : previousEvidence x.lastNav = .ok evidence) : shareErrors rt r x = [] := by
  unfold shareErrors
  simp only [h.isClosed_eq, Bool.false_eq_true, if_false]
  cases hprev : x.lastNav with
  | none =>
    rw [hprev, previousEvidence] at hlast
    cases hlast
    simp only [List.append_eq_nil_iff, failing_eq_nil, h.shareChange, h.shares, h.totalValue,
      sharesChangeOf, sharesOf]
    exact ⟨moneyEqual_map_money (some _), moneyEqual_map_money (some _)⟩
  | some last =>
    simp only [hprev, previousEvidence] at hlast
    split at hlast
    next nav shares hnav hsh =>
      split at hlast
      · cases hlast
      · cases hlast
        simp only [hnav, hsh]
        split
        · simp only [List.append_eq_nil_iff, failing_eq_nil, h.shareChange, h.shares,
            sharesChangeOf, sharesOf]
          exact ⟨moneyEqual_self _, moneyEqual_self _⟩
        · rfl
    next => cases hlast

theorem pnlErrors_eq (h : Computed today p x evidence r) (requireFinality : Option Bool) :
    pnlErrors rt r x requireFinality = [] := by
  have hpnl : centsValue r.pnl = expectedPnl r x := by
    rw [h.pnl, expectedPnl, h.isClosed_eq, h.date, h.totalValue]
    simp [centsValue, Function.comp_def]
  rw [pnlErrors, failing_eq_nil, hpnl, moneyEqual_self, Bool.or_true]

theorem changeErrors_eq (h : Computed today p x evidence r) : changeErrors rt r x = [] := by
  simp only [changeErrors, List.append_eq_nil_iff, failing_eq_nil]
  rw [h.mtdNavChange, h.ytdNavChange]
  exact ⟨navEqual_map_quantizeNav _, navEqual_map_quantizeNav _⟩

theorem periodErrors_eq (h : Computed today p x evidence r) : periodErrors rt r x = [] := by
  simp only [periodErrors, List.append_eq_nil_iff, failing_eq_nil]
  rw [h.mtdPnl, h.ytdPnl, h.totalValue]
  exact ⟨moneyEqual_self _, moneyEqual_self _⟩

theorem cumulativeErrors_eq_nil (h : Computed today p x evidence r) :
    cumulativeErrors rt r x = [] ↔
      (x.initialValue = some 0 → money (p.totalValue.toDecimal - x.cumulativeCashFlow) = 0) := by
  unfold cumulativeErrors
  rw [h.cumulativeAppreciation, cumulativeAppreciationOf, h.totalValue]
  cases x.initialValue with
  | none => simp
  | some initial =>
    by_cases hzero : initial = 0
    · subst hzero
      simp only [if_true, failing_eq_nil, moneyEqual, money_toDecimal, money_zero, sub_zero,
        decide_eq_true_iff, forall_const]
      exact eq_comm
    · simp [failing_eq_nil, moneyEqual, hzero]

theorem details_isSome (h : Computed today p x evidence r) : ∃ details, r.details = some details := by
  have hcum := h.cumulativeAppreciation
  cases hdetails : r.details with
  | none =>
    rw [hdetails] at hcum
    cases hcum
  | some details => exact ⟨details, rfl⟩

/-- Adding the provenance changes nothing of this. -/
theorem withProvenance (h : Computed today p x evidence r) (finality : FinalityPayload)
    (basis : CashFlowBasis) :
    Computed today p x evidence (withProvenance r finality basis) := by
  obtain ⟨details, hdetails⟩ := h.details_isSome
  have hstatus := h.status
  have hcum := h.cumulativeAppreciation
  rw [statusOf, hdetails] at hstatus
  rw [hdetails] at hcum
  refine ⟨h.date, h.totalValue, h.cashValue, h.stockValue, h.fundValue, h.stockWeight,
    h.cashWeight, h.shares, h.nav, h.cashFlow, h.shareChange, h.mtdNavChange, h.ytdNavChange,
    h.pnl, h.mtdPnl, h.ytdPnl, ?_, ?_⟩
  · rw [statusOf, Nav.withProvenance, hdetails]
    exact hstatus
  · rw [Nav.withProvenance, hdetails]
    exact hcum

theorem provenance_eq (h : Computed today p x evidence r) (finality : FinalityPayload)
    (basis : CashFlowBasis) :
    finalityOf (Nav.withProvenance r finality basis) = some finality ∧
      basisOf (Nav.withProvenance r finality basis) = some basis := by
  obtain ⟨details, hdetails⟩ := h.details_isSome
  rw [finalityOf, basisOf, Nav.withProvenance, hdetails]
  exact ⟨rfl, rfl⟩

end Computed

/-- A base record has a positive NAV, if it is there. -/
def HasNav (base : Option NAVHistory) : Prop := ∀ b ∈ base, ∃ nav, b.nav = some nav ∧ 0 < nav

theorem toDecimal_nonpos {m : Micro} : m.toDecimal ≤ 0 ↔ m ≤ 0 := by
  rw [Micro.toDecimal, div_le_iff₀ (by norm_num), zero_mul]
  exact_mod_cast Iff.rfl

theorem requireReferenceValue_nav {base : Option NAVHistory} {label : String} :
    requireReferenceValue (base.map fun n => microValue n.nav) "nav" label true false = [] ↔
      HasNav base := by
  unfold HasNav requireReferenceValue
  cases base with
  | none => simp
  | some b =>
    cases hnav : b.nav with
    | none => simp [hnav]
    | some nav => simp [hnav, toDecimal_nonpos]

/-- The checks of the base records of a period are those of the return bases. -/
theorem referenceErrors_eq_nil (hlast : previousEvidence x.lastNav = .ok evidence) :
    referenceErrors x = [] ↔ HasNav x.mtdReturnBaseNav ∧ HasNav x.ytdReturnBaseNav := by
  have htotal : ∀ (base : Option NAVHistory) (label : String),
      requireReferenceValue (base.map fun n => some n.totalValue.toDecimal) "total_value" label
        false false = [] := by
    intro base label
    cases base <;> simp [requireReferenceValue]
  have hprevious : HasNav x.lastNav ∧
      requireReferenceValue (x.lastNav.map fun n => centsValue n.shares) "shares" "last_nav"
        false true = [] := by
    cases hprev : x.lastNav with
    | none => exact ⟨fun b hb => absurd hb (by simp), rfl⟩
    | some last =>
      simp only [hprev, previousEvidence] at hlast
      split at hlast
      next nav shares hnav hshares =>
        split at hlast
        · cases hlast
        next hgood =>
          obtain ⟨hpos, hnonneg⟩ := not_or.mp hgood
          have hdecimal : ¬ shares.toDecimal < 0 := by
            rw [not_lt, Cents.toDecimal]
            exact div_nonneg (by exact_mod_cast not_lt.mp hnonneg) (by norm_num)
          refine ⟨fun b hb => ⟨nav, ?_, not_le.mp hpos⟩, ?_⟩
          · cases hb
            exact hnav
          · simp [requireReferenceValue, hshares, hdecimal]
      next => cases hlast
  simp only [referenceErrors, List.append_eq_nil_iff, htotal, requireReferenceValue_nav,
    hprevious, true_and]

/-! ## When the check passes -/

/-- The inputs on which the computed record passes: the fund value is a part of the non-cash value
where both are positive, the NAV survives the rounding of the shares, the base records have a NAV,
and an initial value of zero is the total without the flows. -/
structure SelfConsistent (p : NavValuationProjection) (shares : ℚ) (x : PeriodInputs)
    (firstBase : Option NAVHistory) : Prop where
  fundValue : 0 ≤ p.fundValue → 0 ≤ p.nonCashValue → p.fundValue ≤ p.nonCashValue
  navStable : NavStable p.totalValue.toDecimal shares
  monthBase : HasNav x.mtdReturnBaseNav
  yearBase : HasNav x.ytdReturnBaseNav
  firstBase : ∀ base ∈ firstBase, base.nav ≠ none
  initialValue : x.initialValue = some 0 → money (p.totalValue.toDecimal - x.cumulativeCashFlow) = 0

/-- A computed record with valid provenance passes exactly on consistent inputs. -/
theorem Computed.navErrorTexts_eq_nil {dataset : Option DatasetDetails}
    {requireFinality : Option Bool} {firstBase : Option NAVHistory}
    (h : Computed today p x evidence r) (hp : Projected p)
    (hlast : previousEvidence x.lastNav = .ok evidence)
    (hshares : 0 < sharesOf p.totalValue.toDecimal x.effectiveCashFlow evidence)
    (hfirst : ∀ base ∈ firstBase, base.nav ≠ none)
    (hbasis : basisErrors r x dataset requireFinality = [])
    (hfinality : finalityErrors rt r requireFinality = []) :
    navErrorTexts rt r x dataset requireFinality = [] ↔
      SelfConsistent p (sharesOf p.totalValue.toDecimal x.effectiveCashFlow evidence) x
        firstBase := by
  simp only [navErrorTexts, h.isClosed_eq, Bool.false_eq_true, if_false, List.append_eq_nil_iff,
    referenceErrors_eq_nil hlast, h.totalErrors_eq hp, h.fundErrors_eq_nil, h.weightErrors_eq hp,
    h.navErrors_eq_nil hshares, h.cashFlowErrors_eq, h.shareErrors_eq hlast, h.pnlErrors_eq,
    h.changeErrors_eq, h.periodErrors_eq, h.cumulativeErrors_eq_nil, hbasis, hfinality, and_true]
  constructor
  · rintro ⟨⟨⟨⟨hmonth, hyear⟩, hfund⟩, hnav⟩, hinitial⟩
    exact ⟨hfund, hnav, hmonth, hyear, hfirst, hinitial⟩
  · intro hc
    exact ⟨⟨⟨⟨hc.monthBase, hc.yearBase⟩, hc.fundValue⟩, hc.navStable⟩, hc.initialValue⟩

theorem basisErrors_bare (h : basisOf r = none) : basisErrors r x none none = [] := by
  simp [basisErrors, h, failing]

theorem finalityErrors_bare (h : finalityOf r = none) : finalityErrors rt r none = [] := by
  simp [finalityErrors, h]

/-- The provenance `_record_nav_impl` adds passes its checks. -/
theorem Computed.provenance_passes (h : Computed today p x evidence r)
    (context : NavWriteContext rt) (hdate : context.navDate = today) {gap : ℚ}
    (hgap : x.gapCashFlow = some gap) (dataset : Option DatasetDetails) :
    let r' := Nav.withProvenance r context.toDetails
      (buildCashFlowBasis today x.lastNav x.dailyCashFlow gap dataset)
    basisErrors r' x dataset (some true) = [] ∧ finalityErrors rt r' (some true) = [] := by
  intro r'
  have hr' : Computed today p x evidence r' := h.withProvenance _ _
  have hfinality : finalityOf r' = some context.toDetails := (h.provenance_eq _ _).1
  have hbasis : basisOf r' = some (buildCashFlowBasis today x.lastNav x.dailyCashFlow gap dataset) :=
    (h.provenance_eq _ _).2
  constructor
  · simp only [basisErrors, hbasis, List.append_eq_nil_iff, failing_eq_nil, buildCashFlowBasis,
      decide_eq_true_iff]
    refine ⟨⟨⟨⟨⟨⟨trivial, trivial⟩, moneyEqual_map_money (some _)⟩, ?_⟩, trivial⟩, ?_⟩, ?_⟩
    · rw [PeriodInputs.effectiveCashFlow, hgap]
      exact moneyEqual_map_money (some _)
    · rw [hr'.date]
    · cases dataset with
      | none => rfl
      | some d => simp [datasetErrors, failing_eq_nil]
  · have hvalid := context.toDetails_valid
    rw [hdate] at hvalid
    simp only [finalityErrors, Option.getD_some, if_true, hr'.date, hfinality, hvalid]
    rw [failing_eq_nil, hr'.isClosed_eq]
    rfl

end

/-! ## A deposit of 100 -/

/-- The float texts of `depositDay`. -/
def depositRuntime : Runtime where
  power _ _ := 1
  floatText x := if x = 12 then "12.0" else "12.00004"
  tieUp _ := true
  difference x y := x - y
  isDateTime _ := true

/-- The day of the deposit. -/
def depositDay : CivilDate := ⟨2025, 3, 18, by decide⟩

/-- The inputs of a day with a flow, after a previous record of 1000 shares at a NAV of 12. -/
def depositInputs (flow : ℚ) : PeriodInputs where
  lastNav := some (bareRecord ⟨2025, 3, 17, by decide⟩ 1200000 100000 12000000)
  prevMonthEndNav := none
  prevYearEndNav := none
  mtdReturnBaseNav := none
  ytdReturnBaseNav := none
  dailyCashFlow := flow
  monthlyCashFlow := flow
  yearlyCashFlow := flow
  gapCashFlow := some flow
  cumulativeCashFlow := flow
  initialValue := none

/-- A total that is all cash. -/
def cashValuation (total : ℚ) : PortfolioValuation := ⟨total, total, 0, 0, 0, 0, 0⟩

end PortfolioManagement.Nav
