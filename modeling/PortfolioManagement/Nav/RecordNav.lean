import PortfolioManagement.Ledger.DatasetLaws
import PortfolioManagement.Nav.HistoryIndex
import PortfolioManagement.Nav.SelfCheck

/-!
# Recording a NAV

`_record_nav_impl` and `_record_closed_nav_impl` up to the write: the dataset is checked, the base
records are read from the history, the metrics are calculated from the flows of the dataset, and
the record with its provenance is checked before it is written.
-/

namespace PortfolioManagement.Nav

/-- Why no record was computed. -/
inductive NavRefusal
  /-- `assert_official_scope` refused the dataset -/
  | dataset (refusal : Ledger.CashFlowDatasetRefusal)
  /-- an exception -/
  | failed (exc : Error)
deriving DecidableEq

/-- The configuration of an account. -/
structure NavConfig where
  /-- `config.get_start_year()` -/
  startYear : Nat
  /-- `config.get_initial_value()`, zero when it is not configured -/
  initialValue : ℚ

/-- `cash_flow_dataset.details()` -/
def datasetDetails (ds : Ledger.CashFlowDatasetSnapshot) : DatasetDetails where
  contractVersion := ds.contractVersion
  financialFingerprint := ds.financialFingerprint
  fullFingerprint := ds.fullFingerprint

/-- `_get_initial_value`: the total of the earliest row if its NAV is one, up to a hundredth, or
the configured value. -/
def getInitialValue (config : NavConfig) (navs : List NAVHistory) : Option ℚ :=
  let configured := if config.initialValue = 0 then none else some config.initialValue
  match (sortNavs navs).head? with
  | none => configured
  | some earliest =>
    match earliest.nav with
    | none => configured
    | some nav =>
      if nav ≠ 0 ∧ |nav.toDecimal - 1| < 1 / 100 then some earliest.totalValue.toDecimal
      else configured

/-- `yearly_data` of a date. -/
def yearlyDataOf (index : NavIndex) (startYear : Nat) (today : CivilDate)
    (summary : Ledger.Summary) : Items String YearData :=
  (List.range' startYear (today.year + 1 - startYear)).map fun year =>
    (toString year,
      { prevEnd := index.findYearEnd (year - 1)
        yearEnd := index.findYearEnd year
        cashFlow := ((summary.yearly.lookup year).getD 0).toDecimal })

/-- The base records and flows of a date. -/
def periodInputs (config : NavConfig) (navs : List NAVHistory) (today : CivilDate)
    (summary : Ledger.Summary) : PeriodInputs where
  lastNav := (NavIndex.build navs).findLatestBefore today
  prevMonthEndNav := (NavIndex.build navs).findPrevMonthEnd today
  prevYearEndNav := (NavIndex.build navs).findYearEnd (today.year - 1)
  mtdReturnBaseNav := (NavIndex.build navs).findMtdReturnBase today
  ytdReturnBaseNav := (NavIndex.build navs).findYtdReturnBase today
  dailyCashFlow := summary.daily.toDecimal
  monthlyCashFlow := summary.monthly.toDecimal
  yearlyCashFlow := ((summary.yearly.lookup today.year).getD 0).toDecimal
  gapCashFlow := some summary.gap.toDecimal
  cumulativeCashFlow := summary.cumulative.toDecimal
  initialValue := getInitialValue config navs

/-- `cash_flow_dataset.summary(last_nav=last_nav)` -/
def summaryFor (ds : Ledger.CashFlowDatasetSnapshot) (navs : List NAVHistory)
    (today : CivilDate) : Ledger.Summary :=
  ds.summary (((NavIndex.build navs).findLatestBefore today).map (·.date))

section
variable (lrt : Ledger.Runtime) {rt : Runtime}

/-- `with_runtime(run_id=…)` of a context. -/
def NavWriteContext.withRunId (context : NavWriteContext rt) (runId : String) :
    Except Error (NavWriteContext rt) :=
  if h : strip (strip runId) = "" then .ok context
  else
    match context.runId with
    | none =>
      .ok { context with
        runId := some (strip runId)
        run := fun id hid => by cases hid; exact h }
    | some id =>
      if id = strip runId then .ok context
      else .error (.value "NAV finality run_id conflicts with runtime run_id")

theorem NavWriteContext.navDate_withRunId {context resolved : NavWriteContext rt} {runId : String}
    (h : context.withRunId runId = .ok resolved) : resolved.navDate = context.navDate := by
  unfold NavWriteContext.withRunId at h
  split at h
  · cases h
    rfl
  · split at h
    · cases h
      rfl
    · split at h <;> cases h
      rfl

/-- The checks of a writer before it computes: the date of the context and the dataset. -/
def officialScope (config : NavConfig) (account runId : String) (today : CivilDate)
    (context : NavWriteContext rt) (ds : Ledger.CashFlowDatasetSnapshot) :
    Except NavRefusal (NavWriteContext rt) :=
  if context.navDate ≠ today then
    .error (.failed (.value ("NAV finality nav_date " ++ context.navDate.isoformat ++
      " does not match record date " ++ today.isoformat)))
  else do
    (Ledger.assertOfficialScope lrt ds ⟨account, today, runId, config.startYear⟩).mapError .dataset
    (context.withRunId runId).mapError .failed

variable (rt) in
/-- The record of a date with its provenance, checked. -/
def checkedRecord (config : NavConfig) (account : String) (v : PortfolioValuation)
    (today : CivilDate) (context : NavWriteContext rt) (navs : List NAVHistory)
    (ds : Ledger.CashFlowDatasetSnapshot) : Except Error NAVHistory := do
  let summary := summaryFor ds navs today
  let x := periodInputs config navs today summary
  let r ← computeNavRecord rt today account v
    (yearlyDataOf (NavIndex.build navs) config.startYear today summary) config.startYear x
  let r' := withProvenance r context.toDetails
    (buildCashFlowBasis today x.lastNav x.dailyCashFlow summary.gap.toDecimal
      (some (datasetDetails ds)))
  assertNavInvariants rt r' x (some (datasetDetails ds)) (some true)
  pure r'

/-- `_record_nav_impl` up to the write. -/
def recordNav (config : NavConfig) (account : String) (v : PortfolioValuation)
    (today : CivilDate) (runId : String) (context : NavWriteContext rt) (navs : List NAVHistory)
    (ds : Ledger.CashFlowDatasetSnapshot) : Except NavRefusal NAVHistory := do
  let context ← officialScope lrt config account runId today context ds
  (checkedRecord rt config account v today context navs ds).mapError .failed

/-! ## CLOSED rows -/

/-- `ClosedNavTarget`, decomposed at money precision. -/
structure ClosedNavTarget where
  /-- `total_value` -/
  totalValue : Cents
  /-- `cash_value` -/
  cashValue : Cents
  /-- `non_cash_value` -/
  nonCashValue : Cents
  /-- the parts make the total -/
  parts : totalValue = cashValue + nonCashValue
  /-- the total is positive -/
  positive : 0 < totalValue

/-- `ClosedNavTarget.build`. -/
def ClosedNavTarget.build (totalValue cashValue nonCashValue : ℚ) :
    Except Error ClosedNavTarget :=
  if totalValue ≠ cashValue + nonCashValue then
    .error (.value ("CLOSED NAV decomposition mismatch: " ++
      "total_value must equal cash_value + non_cash_value"))
  else if h : money totalValue = money cashValue + money nonCashValue then
    if hpos : 0 < money totalValue then
      .ok ⟨money totalValue, money cashValue, money nonCashValue, h, hpos⟩
    else .error (.value "CLOSED NAV total_value must be > 0")
  else
    .error (.value "CLOSED NAV decomposition is not stable at persisted money precision")

/-- The row of a closed account: no shares at a NAV of one, and no period results. -/
def closedRecord (account : String) (target : ClosedNavTarget) (today : CivilDate)
    (context : NavWriteContext rt) (lastNav : Option NAVHistory)
    (summary : Ledger.Summary) (ds : Ledger.CashFlowDatasetSnapshot) : NAVHistory where
  recordId := none
  date := today
  account := account
  totalValue := target.totalValue
  cashValue := some target.cashValue
  stockValue := some target.nonCashValue
  fundValue := some 0
  cnStockValue := some 0
  usStockValue := some 0
  hkStockValue := some 0
  stockWeight := some (quantizeWeight (weightOf target.nonCashValue target.totalValue))
  cashWeight := some (quantizeWeight (weightOf target.cashValue target.totalValue))
  shares := some 0
  nav := some 1000000
  cashFlow := some (money summary.daily.toDecimal)
  shareChange := some 0
  mtdNavChange := none
  ytdNavChange := none
  pnl := none
  mtdPnl := none
  ytdPnl := none
  details := some
    { status := some "CLOSED"
      monthlyCashFlow := none
      yearCashFlow := none
      cumulativeNavChange := none
      cumulativeAppreciation := none
      initialValue := none
      cumulativeCashFlow := none
      cagr := none
      cagrPct := none
      years := []
      finality := some context.toDetails
      cashFlowBasis := some (buildCashFlowBasis today lastNav summary.daily.toDecimal
        summary.gap.toDecimal (some (datasetDetails ds))) }

/-- The inputs of the check of a CLOSED row: no base records but the previous row. -/
def closedInputs (lastNav : Option NAVHistory) (summary : Ledger.Summary) : PeriodInputs where
  lastNav := lastNav
  prevMonthEndNav := none
  prevYearEndNav := none
  mtdReturnBaseNav := none
  ytdReturnBaseNav := none
  dailyCashFlow := summary.daily.toDecimal
  monthlyCashFlow := 0
  yearlyCashFlow := 0
  gapCashFlow := some summary.gap.toDecimal
  cumulativeCashFlow := 0
  initialValue := none

variable (rt) in
/-- The CLOSED row of a date, checked. -/
def checkedClosedRecord (account : String) (totalValue cashValue stockValue : ℚ)
    (today : CivilDate) (context : NavWriteContext rt) (navs : List NAVHistory)
    (ds : Ledger.CashFlowDatasetSnapshot) : Except Error NAVHistory := do
  let target ← ClosedNavTarget.build totalValue cashValue stockValue
  let lastNav := (NavIndex.build navs).findLatestBefore today
  let summary := summaryFor ds navs today
  let r := closedRecord account target today context lastNav summary ds
  assertNavInvariants rt r (closedInputs lastNav summary) (some (datasetDetails ds)) (some true)
  pure r

/-- `_record_closed_nav_impl` up to the write. -/
def recordClosedNav (config : NavConfig) (account : String)
    (totalValue cashValue stockValue : ℚ) (today : CivilDate) (runId : String)
    (context : NavWriteContext rt) (navs : List NAVHistory)
    (ds : Ledger.CashFlowDatasetSnapshot) : Except NavRefusal NAVHistory := do
  let context ← officialScope lrt config account runId today context ds
  (checkedClosedRecord rt account totalValue cashValue stockValue today context navs ds).mapError
    .failed

end

/-! ## What a recorded row shows -/

section
variable {lrt : Ledger.Runtime} {rt : Runtime} {config : NavConfig} {account runId : String}
  {v : PortfolioValuation} {today : CivilDate} {context : NavWriteContext rt}
  {navs : List NAVHistory} {ds : Ledger.CashFlowDatasetSnapshot} {r : NAVHistory}

/-- The checks of a writer passed. -/
theorem officialScope_ok {resolved : NavWriteContext rt}
    (h : officialScope lrt config account runId today context ds = .ok resolved) :
    resolved.navDate = today ∧
      Ledger.assertOfficialScope lrt ds ⟨account, today, runId, config.startYear⟩ = .ok () := by
  unfold officialScope at h
  split at h
  · cases h
  next hdate =>
    simp only [bind, Except.bind, Except.mapError] at h
    cases hscope : Ledger.assertOfficialScope lrt ds ⟨account, today, runId, config.startYear⟩ with
    | error refusal => simp [hscope] at h
    | ok u =>
      cases hcontext : context.withRunId runId with
      | error exc => simp [hscope, hcontext] at h
      | ok c =>
        simp only [hscope, hcontext, Except.ok.injEq] at h
        subst h
        exact ⟨(NavWriteContext.navDate_withRunId hcontext).trans (not_not.mp hdate), rfl⟩

/-- A recorded row is a checked record. -/
theorem recordNav_ok (h : recordNav lrt config account v today runId context navs ds = .ok r) :
    ∃ resolved : NavWriteContext rt,
      officialScope lrt config account runId today context ds = .ok resolved ∧
        checkedRecord rt config account v today resolved navs ds = .ok r := by
  simp only [recordNav, bind, Except.bind, Except.mapError] at h
  cases hscope : officialScope lrt config account runId today context ds with
  | error refusal => simp [hscope] at h
  | ok resolved =>
    cases hrecord : checkedRecord rt config account v today resolved navs ds with
    | error exc => simp [hscope, hrecord] at h
    | ok r' =>
      simp only [hscope, hrecord, Except.ok.injEq] at h
      subst h
      exact ⟨resolved, rfl, hrecord⟩

/-- Computing a record means projecting the valuation and accepting the previous row. -/
theorem computeNavRecord_computed {yearlyData : Items String YearData} {startYear : Nat}
    {x : PeriodInputs}
    (h : computeNavRecord rt today account v yearlyData startYear x = .ok r) :
    ∃ p evidence, projectValuation v = .ok p ∧ previousEvidence x.lastNav = .ok evidence ∧
      Computed today p x evidence r := by
  cases hp : projectValuation v with
  | error exc => simp [computeNavRecord, hp, bind, Except.bind] at h
  | ok p =>
    cases hlast : previousEvidence x.lastNav with
    | error exc => simp [computeNavRecord, hp, calcNavMetrics, hlast, bind, Except.bind] at h
    | ok evidence =>
      exact ⟨p, evidence, rfl, rfl, ((computeNavRecord_spec hp hlast).2 r h).1⟩

/-- What a row shows of the run that recorded it: its numbers, its provenance, and that it passed
its check. -/
structure Recorded (rt : Runtime) (config : NavConfig) (account : String) (today : CivilDate)
    (context : NavWriteContext rt) (navs : List NAVHistory)
    (ds : Ledger.CashFlowDatasetSnapshot) (p : NavValuationProjection)
    (evidence : PreviousEvidence) (r : NAVHistory) : Prop where
  projected : Projected p
  previous : previousEvidence ((NavIndex.build navs).findLatestBefore today) = .ok evidence
  computed : Computed today p (periodInputs config navs today (summaryFor ds navs today)) evidence r
  finality : finalityOf r = some context.toDetails
  basis : basisOf r = some (buildCashFlowBasis today ((NavIndex.build navs).findLatestBefore today)
    (summaryFor ds navs today).daily.toDecimal (summaryFor ds navs today).gap.toDecimal
    (some (datasetDetails ds)))
  checked : navErrorTexts rt r (periodInputs config navs today (summaryFor ds navs today))
    (some (datasetDetails ds)) (some true) = []

theorem checkedRecord_ok (h : checkedRecord rt config account v today context navs ds = .ok r) :
    ∃ p evidence, projectValuation v = .ok p ∧
      Recorded rt config account today context navs ds p evidence r := by
  simp only [checkedRecord, bind, Except.bind] at h
  split at h
  · cases h
  next r₀ hr₀ =>
    obtain ⟨p, evidence, hp, hlast, hcomputed⟩ := computeNavRecord_computed hr₀
    split at h
    · cases h
    next u hcheck =>
      cases h
      obtain ⟨hfinality, hbasis⟩ := hcomputed.provenance_eq context.toDetails
        (buildCashFlowBasis today ((NavIndex.build navs).findLatestBefore today)
          (summaryFor ds navs today).daily.toDecimal (summaryFor ds navs today).gap.toDecimal
          (some (datasetDetails ds)))
      exact ⟨p, evidence, hp, projected hp, hlast, hcomputed.withProvenance _ _, hfinality, hbasis,
        (assertNavInvariants_ok_iff rt).mp hcheck⟩

end

end PortfolioManagement.Nav
