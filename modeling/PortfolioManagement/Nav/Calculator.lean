import PortfolioManagement.Nav.Record

/-!
# The NAV calculation

`NavCalculator`: the projection of a valuation to the persisted values, the metrics of a NAV date
from its base records and cash flows, and the record that is built from them. The arithmetic is
exact; only the quantizers round.
-/

namespace PortfolioManagement.Nav

/-! ## Valuation -/

/-- The values of a `PortfolioValuation`. -/
structure PortfolioValuation where
  /-- `total_value_cny` -/
  totalValueCny : ℚ
  /-- `cash_value_cny` -/
  cashValueCny : ℚ
  /-- `stock_value_cny`: the equity component -/
  stockValueCny : ℚ
  /-- `fund_value_cny` -/
  fundValueCny : ℚ
  /-- `cn_asset_value` -/
  cnAssetValue : ℚ
  /-- `us_asset_value` -/
  usAssetValue : ℚ
  /-- `hk_asset_value` -/
  hkAssetValue : ℚ
deriving DecidableEq

/-- `NavValuationProjection`. -/
structure NavValuationProjection where
  /-- `cash_value` -/
  cashValue : Cents
  /-- `non_cash_value` -/
  nonCashValue : Cents
  /-- `fund_value` -/
  fundValue : Cents
  /-- `total_value` -/
  totalValue : Cents
  /-- `cn_exposure_value` -/
  cnExposureValue : Cents
  /-- `us_exposure_value` -/
  usExposureValue : Cents
  /-- `hk_exposure_value` -/
  hkExposureValue : Cents
  /-- `stock_weight` -/
  stockWeight : Micro
  /-- `cash_weight` -/
  cashWeight : Micro
deriving DecidableEq

/-- The share of a part in a total. -/
def weightOf (part total : Cents) : ℚ :=
  if 0 < total then part.toDecimal / total.toDecimal else 0

/-- `project_valuation`. -/
def projectValuation (v : PortfolioValuation) : Except Error NavValuationProjection :=
  let persistedCash := money v.cashValueCny
  let persistedNonCash := money (v.stockValueCny + v.fundValueCny)
  let persistedTotal := persistedCash + persistedNonCash
  if money v.totalValueCny ≠ persistedTotal then
    .error (.value ("valuation decomposition mismatch: total_value_cny must equal " ++
      "cash_value_cny + stock_value_cny + fund_value_cny"))
  else
    .ok
      { cashValue := persistedCash
        nonCashValue := persistedNonCash
        fundValue := money v.fundValueCny
        totalValue := persistedTotal
        cnExposureValue := money v.cnAssetValue
        usExposureValue := money v.usAssetValue
        hkExposureValue := money v.hkAssetValue
        stockWeight := quantizeWeight (weightOf persistedNonCash persistedTotal)
        cashWeight := quantizeWeight (weightOf persistedCash persistedTotal) }

/-- `canonical_valuation.model_copy(update=…)`: the valuation with the projected values. -/
def NavValuationProjection.canonicalValuation (p : NavValuationProjection) :
    PortfolioValuation where
  totalValueCny := p.totalValue.toDecimal
  cashValueCny := p.cashValue.toDecimal
  stockValueCny := (p.nonCashValue - p.fundValue : Cents).toDecimal
  fundValueCny := p.fundValue.toDecimal
  cnAssetValue := p.cnExposureValue.toDecimal
  usAssetValue := p.usExposureValue.toDecimal
  hkAssetValue := p.hkExposureValue.toDecimal

/-! ## Period results -/

/-- `calc_period_return`. -/
def calcPeriodReturn (current : Option Micro) (base : Option Micro) : ℚ :=
  match base with
  | none => 0
  | some base =>
    if base ≤ 0 then 0
    else ((current.getD 0).toDecimal - base.toDecimal) / base.toDecimal

/-- A NAV change against a base record: none without a base of positive NAV. -/
def navChange (nav : Micro) (base : Option NAVHistory) : Option ℚ :=
  match base.bind (·.nav) with
  | none => none
  | some baseNav => if baseNav ≤ 0 then none else some (calcPeriodReturn (some nav) (some baseNav))

/-- `calc_mtd_nav_change`. -/
def calcMtdNavChange (nav : Micro) (prevMonthEndNav : Option NAVHistory) : Option ℚ :=
  navChange nav prevMonthEndNav

/-- `calc_ytd_nav_change`. -/
def calcYtdNavChange (nav : Micro) (prevYearEndNav : Option NAVHistory) : Option ℚ :=
  navChange nav prevYearEndNav

/-- A result against a base record: the gain that the flows do not explain. -/
def periodPnl (totalValue : ℚ) (base : Option NAVHistory) (flow : ℚ) : Option ℚ :=
  base.map fun base => totalValue - base.totalValue.toDecimal - flow

/-- `calc_mtd_pnl`. -/
def calcMtdPnl (totalValue : ℚ) (prevMonthEndNav : Option NAVHistory) (monthlyCashFlow : ℚ) :
    Option ℚ :=
  periodPnl totalValue prevMonthEndNav monthlyCashFlow

/-- `calc_ytd_pnl`. -/
def calcYtdPnl (totalValue : ℚ) (prevYearEndNav : Option NAVHistory) (yearlyCashFlow : ℚ) :
    Option ℚ :=
  periodPnl totalValue prevYearEndNav yearlyCashFlow

/-! ## Metrics -/

/-- The base records and flows that the calculation and its check are given. -/
structure PeriodInputs where
  /-- `last_nav` -/
  lastNav : Option NAVHistory
  /-- `prev_month_end_nav` -/
  prevMonthEndNav : Option NAVHistory
  /-- `prev_year_end_nav` -/
  prevYearEndNav : Option NAVHistory
  /-- `mtd_return_base_nav` -/
  mtdReturnBaseNav : Option NAVHistory
  /-- `ytd_return_base_nav` -/
  ytdReturnBaseNav : Option NAVHistory
  /-- `daily_cash_flow` -/
  dailyCashFlow : ℚ
  /-- `monthly_cash_flow` -/
  monthlyCashFlow : ℚ
  /-- `yearly_cash_flow` -/
  yearlyCashFlow : ℚ
  /-- `gap_cash_flow` -/
  gapCashFlow : Option ℚ
  /-- `cumulative_cash_flow` -/
  cumulativeCashFlow : ℚ
  /-- `initial_value` -/
  initialValue : Option ℚ

namespace PeriodInputs

/-- `cf_for_shares`: the gap flow, or the flow of the day. -/
def effectiveCashFlow (x : PeriodInputs) : ℚ := x.gapCashFlow.getD x.dailyCashFlow

/-- `month_base_nav` -/
def monthBaseNav (x : PeriodInputs) : Option NAVHistory := x.mtdReturnBaseNav.or x.prevMonthEndNav

/-- `year_base_nav` -/
def yearBaseNav (x : PeriodInputs) : Option NAVHistory := x.ytdReturnBaseNav.or x.prevYearEndNav

end PeriodInputs

/-- One entry of `yearly_data`. -/
structure YearData where
  /-- `prev_end` -/
  prevEnd : Option NAVHistory
  /-- `end` -/
  yearEnd : Option NAVHistory
  /-- `cash_flow` -/
  cashFlow : ℚ

/-- The NAV and the shares of the previous record. -/
abbrev PreviousEvidence := Option (Micro × Cents)

/-- The checks of `calc_nav_metrics` on the previous record. -/
def previousEvidence (lastNav : Option NAVHistory) : Except Error PreviousEvidence :=
  match lastNav with
  | none => .ok none
  | some last =>
    match last.nav, last.shares with
    | some nav, some shares =>
      if nav ≤ 0 ∨ shares < 0 then
        .error (.value ("historical_evidence_required: previous NAV requires " ++
          "nav > 0 and shares >= 0"))
      else .ok (some (nav, shares))
    | _, _ =>
      .error (.value "historical_evidence_required: previous NAV requires nav and shares")

/-- `shares_change_dec` -/
def sharesChangeOf (flow : ℚ) : PreviousEvidence → ℚ
  | none => flow
  | some (nav, _) => flow / nav.toDecimal

/-- `shares_dec` -/
def sharesOf (totalValue flow : ℚ) : PreviousEvidence → ℚ
  | none => totalValue
  | some (nav, shares) => shares.toDecimal + flow / nav.toDecimal

/-- `nav_dec` -/
def navOf (totalValue shares : ℚ) : Micro :=
  quantizeNav (if 0 < shares then totalValue / shares else 1)

/-- `nav_change` of a year. -/
def YearData.navChange (data : YearData) : Option ℚ :=
  match data.prevEnd, data.yearEnd with
  | some base, some last =>
    match base.nav with
    | some baseNav => if 0 < baseNav then some (calcPeriodReturn last.nav (some baseNav)) else none
    | none => none
  | _, _ => none

/-- `appreciation` of the years in order: against the initial value in the first year, and against
the end of the year before in the others. -/
def appreciations (initialValue : Option ℚ) :
    Option YearData → List (String × YearData) → Items String (Option ℚ)
  | _, [] => []
  | none, (year, data) :: rest =>
    (year, match data.yearEnd, initialValue with
      | some last, some initial => some (last.totalValue.toDecimal - initial - data.cashFlow)
      | _, _ => none) :: appreciations initialValue (some data) rest
  | some previous, (year, data) :: rest =>
    (year, match data.yearEnd, previous.yearEnd with
      | some last, some before =>
        some (last.totalValue.toDecimal - before.totalValue.toDecimal - data.cashFlow)
      | _, _ => none) :: appreciations initialValue (some data) rest

/-- `sorted(yearly_data.keys())`, with the data. -/
def sortedYears (yearlyData : Items String YearData) : List (String × YearData) :=
  yearlyData.insertionSort fun a b => a.1 ≤ b.1

/-- The result of `calc_nav_metrics`, with what it fills into `yearly_data`. -/
structure NavMetrics where
  /-- `shares` -/
  shares : ℚ
  /-- `shares_change` -/
  sharesChange : ℚ
  /-- `nav` -/
  nav : Micro
  /-- `month_nav_change` -/
  monthNavChange : Option ℚ
  /-- `year_nav_change` -/
  yearNavChange : Option ℚ
  /-- `cumulative_nav_change` -/
  cumulativeNavChange : ℚ
  /-- `daily_appreciation` -/
  dailyAppreciation : Option ℚ
  /-- `month_appreciation` -/
  monthAppreciation : Option ℚ
  /-- `year_appreciation` -/
  yearAppreciation : Option ℚ
  /-- `cumulative_appreciation` -/
  cumulativeAppreciation : ℚ
  /-- `cagr` -/
  cagr : ℚ
  /-- `yearly_data[year]["appreciation"]` -/
  appreciation : Items String (Option ℚ)

/-- The record is dated the day before. -/
def dayBefore (today : CivilDate) (nav : NAVHistory) : Bool := today.daysSince nav.date = 1

/-- `cumulative_appreciation`: an initial value of zero counts as none. -/
def cumulativeAppreciationOf (totalValue : ℚ) (x : PeriodInputs) : ℚ :=
  match x.initialValue with
  | none => 0
  | some initial => if initial = 0 then 0 else totalValue - initial - x.cumulativeCashFlow

section
variable (rt : Runtime)

/-- `cagr`. Comparing the missing NAV of a base record with zero raises `TypeError`. -/
def cagrOf (today : CivilDate) (nav : Micro) (firstBase : Option NAVHistory) : Except Error ℚ :=
  match firstBase with
  | none => .ok 0
  | some base =>
    match base.nav with
    | none =>
      .error ⟨.typeError, "'>' not supported between instances of 'NoneType' and 'int'"⟩
    | some baseNav =>
      let years : ℚ := today.daysSince base.date / (1461 / 4)
      .ok (if 0 < baseNav ∧ 0 < nav ∧ 0 < years then
        rt.power (nav.toDecimal / baseNav.toDecimal) (1 / years) - 1 else 0)

/-- `calc_nav_metrics`. -/
def calcNavMetrics (today : CivilDate) (totalValue : ℚ) (yesterdayNav : Option NAVHistory)
    (yearlyData : Items String YearData) (startYear : Nat) (x : PeriodInputs) :
    Except Error NavMetrics := do
  let evidence ← previousEvidence x.lastNav
  let shares := sharesOf totalValue x.effectiveCashFlow evidence
  let nav := navOf totalValue shares
  let firstBase := (yearlyData.lookup (toString startYear)).bind (·.prevEnd)
  let cagr ← cagrOf rt today nav firstBase
  pure
    { shares := shares
      sharesChange := sharesChangeOf x.effectiveCashFlow evidence
      nav := nav
      monthNavChange := calcMtdNavChange nav x.monthBaseNav
      yearNavChange := calcYtdNavChange nav x.yearBaseNav
      cumulativeNavChange := firstBase.elim 0 fun base => calcPeriodReturn (some nav) base.nav
      dailyAppreciation := (yesterdayNav.filter (dayBefore today)).map fun yesterday =>
        totalValue - yesterday.totalValue.toDecimal - x.effectiveCashFlow
      monthAppreciation := calcMtdPnl totalValue x.prevMonthEndNav x.monthlyCashFlow
      yearAppreciation := calcYtdPnl totalValue x.prevYearEndNav x.yearlyCashFlow
      cumulativeAppreciation := cumulativeAppreciationOf totalValue x
      cagr := cagr
      appreciation := appreciations x.initialValue none (sortedYears yearlyData) }

end

/-! ## The record -/

/-- The details of a year. -/
def yearDetails (m : NavMetrics) (year : String) (data : YearData) : YearDetails where
  navChange := data.navChange.map quantizeNav
  appreciation := ((m.appreciation.lookup year).getD none).map money
  cashFlow := money data.cashFlow

/-- `build_nav_record`. -/
def buildNavRecord (today : CivilDate) (account : String) (valuation : PortfolioValuation)
    (stockValue cashValue totalValue stockRatio cashRatio : ℚ) (yearlyData : Items String YearData)
    (x : PeriodInputs) (m : NavMetrics) : NAVHistory where
  recordId := none
  date := today
  account := account
  totalValue := money totalValue
  cashValue := some (money cashValue)
  stockValue := some (money stockValue)
  fundValue := some (money valuation.fundValueCny)
  cnStockValue := some (money valuation.cnAssetValue)
  usStockValue := some (money valuation.usAssetValue)
  hkStockValue := some (money valuation.hkAssetValue)
  stockWeight := some (quantizeWeight stockRatio)
  cashWeight := some (quantizeWeight cashRatio)
  shares := some (money m.shares)
  nav := some (quantizeNav m.nav.toDecimal)
  cashFlow := some (money x.dailyCashFlow)
  shareChange := some (money m.sharesChange)
  mtdNavChange := m.monthNavChange.map quantizeNav
  ytdNavChange := m.yearNavChange.map quantizeNav
  pnl := m.dailyAppreciation.map money
  mtdPnl := m.monthAppreciation.map money
  ytdPnl := m.yearAppreciation.map money
  details := some
    { status := none
      monthlyCashFlow := some (money x.monthlyCashFlow)
      yearCashFlow := some (money x.yearlyCashFlow)
      cumulativeNavChange := some (quantizeNav m.cumulativeNavChange)
      cumulativeAppreciation := some (money m.cumulativeAppreciation)
      initialValue := x.initialValue.map money
      cumulativeCashFlow := some (money x.cumulativeCashFlow)
      cagr := some (quantizeNav m.cagr)
      cagrPct := some (money (m.cagr * 100))
      years := yearlyData.map fun item => (item.1, yearDetails m item.1 item.2)
      finality := none
      cashFlowBasis := none }

/-- `CASH_FLOW_BASIS_VERSION` -/
def cashFlowBasisVersion : Int := 1

/-- The window of the gap flow: from the previous NAV date, or the day itself. -/
def gapWindow (navDate : CivilDate) (lastNav : Option NAVHistory) : GapWindow where
  start := ((lastNav.map (·.date)).getD navDate).isoformat
  stop := navDate.isoformat
  startInclusive := lastNav.isNone
  endInclusive := true

/-- `build_cash_flow_basis`. -/
def buildCashFlowBasis (navDate : CivilDate) (lastNav : Option NAVHistory)
    (dailyCashFlow gapCashFlow : ℚ) (dataset : Option DatasetDetails) : CashFlowBasis where
  version := cashFlowBasisVersion
  cashFlowColumnSemantics := "daily"
  dailyCashFlow := money dailyCashFlow
  gapCashFlow := money gapCashFlow
  previousNavDate := lastNav.map (·.date.isoformat)
  gapWindow := gapWindow navDate lastNav
  dataset := dataset

/-- The record with the finality of a context and the cash-flow basis of its inputs, as
`_record_nav_impl` completes its details. -/
def withProvenance (r : NAVHistory) (finality : FinalityPayload) (basis : CashFlowBasis) :
    NAVHistory :=
  { r with
    details := r.details.map fun details =>
      { details with finality := some finality, cashFlowBasis := some basis } }

end PortfolioManagement.Nav
