import PortfolioManagement.Lib.Lists
import PortfolioManagement.Ledger.Queries
import PortfolioManagement.Nav.GapFlows

/-!
# The NAV preview

Before the NAV of a day is recorded a report shows one that `NavPreviewService` calculates from the live
totals of a valuation and from the rows before the day. The recorded row is calculated from the totals at
money precision and from the whole history. The two agree in everything but the rounding of the totals.
-/

namespace PortfolioManagement.Nav

open Ledger (LedgerSource queryDataset dailyFlow monthlyFlow yearlyFlow periodFlow monthKey)

/-! ## Flows -/

/-- The day after a day. -/
def dayAfter (d : CivilDate) : Option CivilDate :=
  (CivilDate.make? d.year d.month (d.day + 1)).or
    ((CivilDate.make? d.year (d.month + 1) 1).or (CivilDate.make? (d.year + 1) 1 1))

section
variable (lrt : Ledger.Runtime) (source : LedgerSource) (account : String) (startYear : Nat)
  (today : CivilDate)

/-- `CashFlowSummaryService.summarize`. -/
def summarize (lastNav : Option NAVHistory) : Except Error Ledger.Summary := do
  let ds ← queryDataset lrt source account today startYear "summary"
  pure (ds.summary (lastNav.map (·.date)))

/-- `_get_cumulative_cash_flow_from_year`. -/
def cumulativeFlowFromYear : Except Error Cents :=
  match CivilDate.make? startYear 1 1 with
  | none => .error (.value "year is out of range")
  | some start => periodFlow lrt source account start today

/-- The flow from the day after the last row. -/
def gapFlow (lastNav : NAVHistory) : Except Error Cents :=
  match dayAfter lastNav.date with
  -- the last row is before the day
  | none => .error (.value "date value out of range")
  | some start => periodFlow lrt source account start today

/-- The queries `_summarize_cash_flows` falls back on. -/
def summarizeByQueries (lastNav : NAVHistory) : Except Error Ledger.Summary := do
  let daily ← dailyFlow lrt source account today
  let monthly ← monthlyFlow lrt source account (monthKey today)
  let yearly ← yearlyFlow lrt source account today.year
  let gap ← gapFlow lrt source account today lastNav
  let cumulative ← cumulativeFlowFromYear lrt source account startYear today
  pure
    { daily := daily
      monthly := monthly
      yearly := [(today.year, yearly)]
      cumulative := cumulative
      gap := gap }

/-- `NavPreviewService._summarize_cash_flows`: a summary that fails is asked for part by part. -/
def previewFlows (lastNav : NAVHistory) : Except Error Ledger.Summary :=
  match summarize lrt source account startYear today (some lastNav) with
  | .ok summary => .ok summary
  | .error _ => summarizeByQueries lrt source account startYear today lastNav

end

/-! ## The point of the day -/

/-- The share of a part in a live total. -/
def liveRatio (part total : ℚ) : ℚ := if 0 < total then part / total else 0

section
variable (rt : Runtime) (lrt : Ledger.Runtime) (source : LedgerSource) (config : NavConfig)
  (account : String) (today : CivilDate)

/-- The point that is calculated from the rows before the day and their flows. -/
def previewPoint (history : List NAVHistory) (v : PortfolioValuation) (liveTotal liveCash liveStock : ℚ)
    (summary : Ledger.Summary) : Except Error NAVHistory := do
  let x := periodInputs config history today summary
  let yearlyData := yearlyDataOf (NavIndex.build history) config.startYear today summary
  let m ← calcNavMetrics rt today liveTotal x.lastNav yearlyData config.startYear x
  pure (buildNavRecord today account v liveStock liveCash liveTotal (liveRatio liveStock liveTotal)
    (liveRatio liveCash liveTotal) yearlyData x m)

/-- `NavPreviewService.build`; the mark that the point is synthetic is left out. -/
def buildPreview (historyNavs : List NAVHistory) (v : PortfolioValuation)
    (liveTotal liveCash liveStock : ℚ) : Except Error (Option NAVHistory) :=
  let history := sortNavs (rowsBefore today historyNavs)
  match ((NavIndex.build history).findLatestBefore today).or history.getLast? with
  | none => .ok none
  | some last =>
    match last.shares with
    | none => .ok none
    | some shares =>
      if shares ≤ 0 then .ok none
      else do
        let summary ← previewFlows lrt source account config.startYear today last
        let point ← previewPoint rt config account today history v liveTotal liveCash liveStock summary
        pure (some point)

/-- `_latest_nav_on`. -/
def latestNavOn (navs : List NAVHistory) : Option NAVHistory :=
  (navs.filter fun nav => nav.date = today).getLast?

/-- The rows a report works with: those before the day, and the row of the day or its preview. -/
def workingNavs (allNavs : List NAVHistory) (v : PortfolioValuation) :
    Except Error (List NAVHistory) :=
  let before := rowsBefore today (sortNavs allNavs)
  match latestNavOn today (sortNavs allNavs) with
  | some nav => .ok (before ++ [nav])
  | none =>
    if before ≠ [] ∧ 0 < v.totalValueCny then do
      let point ← buildPreview rt lrt source config account today before v v.totalValueCny
        v.cashValueCny (v.stockValueCny + v.fundValueCny)
      pure (before ++ point.toList)
    else .ok before

end

/-! ## The flows of a recorded day -/

section
variable {lrt : Ledger.Runtime} {rows : List Ledger.RawCashFlowRecord}
  {confirmations : String → Option Ledger.FxConfirmation} {scope : Ledger.DatasetScope}
  {service : Ledger.EffectService} {ds : Ledger.CashFlowDatasetSnapshot} {account : String}

/-- A text with a character that is no space is not stripped to nothing. -/
theorem strip_ne_empty {s : String} (h : ∃ c ∈ s.toList, isSpace c = false) : strip s ≠ "" := by
  obtain ⟨c, hmem, hc⟩ := h
  have hfront : s.toList.dropWhile isSpace ≠ [] := by
    intro hnil
    have hall := List.dropWhile_eq_nil_iff.mp hnil c hmem
    rw [hc] at hall
    cases hall
  intro hstrip
  have hnil : (s.toList.dropWhile isSpace).reverse.dropWhile isSpace = [] := by
    have htext := congrArg String.toList hstrip
    rw [strip, String.toList_ofList] at htext
    exact List.reverse_eq_nil_iff.mp htext
  have hhead := List.head_dropWhile_not isSpace hfront
  have hspace := List.dropWhile_eq_nil_iff.mp hnil _
    (List.mem_reverse.mpr (List.head_mem hfront))
  rw [hhead] at hspace
  cases hspace

theorem nonofficial_run (purpose account navDate : String) :
    strip ("nonofficial:" ++ purpose ++ ":" ++ account ++ ":" ++ navDate) ≠ "" :=
  strip_ne_empty ⟨'n', by simp [String.toList_append], by decide⟩

/-- A query of the rows of an official dataset finds its sums. -/
theorem queryDataset_of_official (h : Ledger.buildDataset lrt rows confirmations scope service = .ok ds)
    (hblockers : ds.blockers = []) (purpose : String) :
    ∃ ds', queryDataset lrt ⟨rows, confirmations, none⟩ scope.account scope.navDate scope.startYear
        purpose = .ok ds' ∧
      ds'.sums = ds.sums ∧ ds'.navDate = ds.navDate ∧ ds'.windowStart = ds.windowStart := by
  obtain ⟨windowStart, hstart, hgate, -, -, -⟩ := Ledger.buildDataset_ok h
  obtain ⟨hle, hdate, hwindow, -, hsums⟩ := Ledger.buildDataset_frame hstart h
  have haccount : strip scope.account ≠ "" := by
    intro hblank
    rw [Ledger.buildDataset, if_pos hblank] at h
    cases h
  obtain ⟨added, hadded, -⟩ := hgate.blockers
  have hpre : (Ledger.preliminaryOf lrt rows confirmations scope windowStart).blockers = [] :=
    (List.append_eq_nil_iff.mp (hadded.symm.trans hblockers)).1
  -- the run of a query is another one, and no gate is asked
  have hbuilt : ∀ runId, strip runId ≠ "" → Ledger.buildDataset lrt rows confirmations
      ⟨scope.account, scope.navDate, runId, scope.startYear⟩ none =
      .ok (Ledger.applyGate none (Ledger.preliminary lrt rows confirmations (strip scope.account)
        (strip runId) scope.navDate windowStart)) := by
    intro runId hrun
    have hnone : (Ledger.preliminary lrt rows confirmations (strip scope.account) (strip runId)
        scope.navDate windowStart).blockers = [] := hpre
    unfold Ledger.buildDataset
    rw [if_neg haccount, if_neg hrun]
    simp only [hstart]
    rw [if_neg (not_lt.mpr hle), if_pos hnone]
  unfold queryDataset
  rw [hbuilt _ (nonofficial_run purpose scope.account scope.navDate.isoformat)]
  generalize strip ("nonofficial:" ++ purpose ++ ":" ++ scope.account ++ ":" ++
    scope.navDate.isoformat) = runId
  exact ⟨_, if_pos hpre, hsums.symm, hdate.symm, hwindow.symm⟩

/-- The flows of a preview are those of the official dataset. -/
theorem previewFlows_of_official (h : Ledger.buildDataset lrt rows confirmations scope service = .ok ds)
    (hblockers : ds.blockers = []) (last : NAVHistory) :
    previewFlows lrt ⟨rows, confirmations, none⟩ scope.account scope.startYear scope.navDate last =
      .ok (ds.summary (some last.date)) := by
  obtain ⟨ds', hquery, hsums, hdate, hwindow⟩ := queryDataset_of_official h hblockers "summary"
  have hsummary : ds'.summary (some last.date) = ds.summary (some last.date) := by
    unfold Ledger.CashFlowDatasetSnapshot.summary
    rw [hsums, hdate, hwindow]
  unfold previewFlows summarize
  simp only [hquery, bind, Except.bind, pure, Except.pure, Option.map_some, hsummary]

/-- Over the same rows the queries one by one do not answer where the summary does not: the cumulative flow
is asked of the same dataset. So the flows of a preview are always those of one summary. -/
theorem preview_flows_are_one_summary {startYear : Nat} {today : CivilDate} {last : NAVHistory} {summary : Ledger.Summary}
    (h : previewFlows lrt ⟨rows, confirmations, none⟩ account startYear today last = .ok summary) :
    summarize lrt ⟨rows, confirmations, none⟩ account startYear today (some last) = .ok summary := by
  unfold previewFlows at h
  cases hsummary : summarize lrt ⟨rows, confirmations, none⟩ account startYear today (some last) with
  | ok summary' =>
    rw [hsummary] at h
    exact h
  | error exc =>
    rw [hsummary] at h
    obtain ⟨daily, -, h⟩ := except_bind_ok h
    obtain ⟨monthly, -, h⟩ := except_bind_ok h
    obtain ⟨yearly, -, h⟩ := except_bind_ok h
    obtain ⟨gap, -, h⟩ := except_bind_ok h
    obtain ⟨cumulative, hcumulative, -⟩ := except_bind_ok h
    unfold cumulativeFlowFromYear at hcumulative
    split at hcumulative
    · cases hcumulative
    next start hstart =>
    obtain ⟨ds, hds, -⟩ := except_bind_ok hcumulative
    obtain ⟨built, hbuilt, hblockers⟩ := except_bind_ok hds
    have hyear := (Ledger.make?_eq hstart).1
    have hnone : built.blockers = [] := by
      by_contra hsome
      rw [if_neg hsome] at hblockers
      cases hblockers
    obtain ⟨ds', hquery, -⟩ := queryDataset_of_official hbuilt hnone "summary"
    rw [hyear] at hquery
    unfold summarize at hsummary
    simp only [hquery, bind, Except.bind] at hsummary
    cases hsummary

end

/-! ## The rows before a day -/

section
variable {navs : List NAVHistory} {today : CivilDate} {config : NavConfig}

@[simp] theorem sortNavs_sortNavs (navs : List NAVHistory) : sortNavs (sortNavs navs) = sortNavs navs :=
  (sortNavs_pairwise navs).insertionSort_eq

@[simp] theorem build_sortNavs (navs : List NAVHistory) :
    NavIndex.build (sortNavs navs) = NavIndex.build navs := by
  unfold NavIndex.build
  rw [sortNavs_sortNavs]

/-- The earliest row is before the day if any row is. -/
theorem getInitialValue_rowsBefore (h : rowsBefore today navs ≠ []) :
    getInitialValue config (sortNavs (rowsBefore today navs)) = getInitialValue config navs := by
  have hhead : (sortNavs (rowsBefore today navs)).head? = (sortNavs navs).head? := by
    have hsorted := sortNavs_pairwise navs
    rw [rowsBefore, ← filter_sortNavs]
    cases hnavs : sortNavs navs with
    | nil => rfl
    | cons first rest =>
      rw [hnavs] at hsorted
      have hfirst : first.date < today := by
        obtain ⟨nav, hnav⟩ := List.exists_mem_of_ne_nil _ h
        obtain ⟨hmem, hbefore⟩ := List.mem_filter.mp hnav
        have hin : nav ∈ first :: rest := hnavs ▸ mem_sortNavs.mpr hmem
        refine lt_of_le_of_lt ?_ (of_decide_eq_true hbefore)
        rcases List.mem_cons.mp hin with rfl | hrest
        · exact le_rfl
        · exact (List.pairwise_cons.mp hsorted).1 nav hrest
      rw [List.filter_cons, if_pos (decide_eq_true hfirst)]
      rfl
  unfold getInitialValue
  rw [sortNavs_sortNavs, hhead]

/-- The base rows of a day and its flows do not depend on later rows. -/
theorem periodInputs_rowsBefore (h : rowsBefore today navs ≠ []) (summary : Ledger.Summary) :
    periodInputs config (sortNavs (rowsBefore today navs)) today summary =
      periodInputs config navs today summary := by
  unfold periodInputs
  rw [getInitialValue_rowsBefore h, build_sortNavs, findLatestBefore_rowsBefore,
    findPrevMonthEnd_rowsBefore, findYearEnd_rowsBefore, findMtdReturnBase_rowsBefore,
    findYtdReturnBase_rowsBefore]

/-- Of the ends of years those before the year of the day are found among the rows before it. -/
theorem findYearEnd_rowsBefore_of_lt {year : Nat} (h : year < today.year) :
    (NavIndex.build (rowsBefore today navs)).findYearEnd year = (NavIndex.build navs).findYearEnd year :=
  lookup_lastBy_rowsBefore fun _ _ hyear => CivilDate.lt_of_year_lt (by rw [← hyear] at h; exact h)

end

/-! ## Metrics of two totals -/

section
variable {rt : Runtime} {today : CivilDate} {yearlyData yearlyData' : Items String YearData}
  {startYear : Nat} {x : PeriodInputs} {total total' : ℚ} {m : NavMetrics}

/-- What the metrics of a total are but for the details of the years. -/
structure MetricsOf (today : CivilDate) (total : ℚ) (x : PeriodInputs) (evidence : PreviousEvidence)
    (m : NavMetrics) : Prop where
  shares : m.shares = sharesOf total x.effectiveCashFlow evidence
  sharesChange : m.sharesChange = sharesChangeOf x.effectiveCashFlow evidence
  nav : m.nav = navOf total m.shares
  monthNavChange : m.monthNavChange = calcMtdNavChange m.nav x.monthBaseNav
  yearNavChange : m.yearNavChange = calcYtdNavChange m.nav x.yearBaseNav
  dailyAppreciation : m.dailyAppreciation = (x.lastNav.filter (dayBefore today)).map fun yesterday =>
    total - yesterday.totalValue.toDecimal - x.effectiveCashFlow
  monthAppreciation : m.monthAppreciation = calcMtdPnl total x.prevMonthEndNav x.monthlyCashFlow
  yearAppreciation : m.yearAppreciation = calcYtdPnl total x.prevYearEndNav x.yearlyCashFlow

theorem calcNavMetrics_ok (h : calcNavMetrics rt today total x.lastNav yearlyData startYear x = .ok m) :
    ∃ evidence, previousEvidence x.lastNav = .ok evidence ∧ MetricsOf today total x evidence m := by
  simp only [calcNavMetrics, bind, Except.bind, pure, Except.pure] at h
  split at h
  · cases h
  next evidence hevidence =>
  split at h
  · cases h
  · cases h
    exact ⟨evidence, hevidence, rfl, rfl, rfl, rfl, rfl, rfl, rfl, rfl⟩

/-- The metrics of another total are calculated as well, from the same base records. -/
theorem calcNavMetrics_total (h : calcNavMetrics rt today total x.lastNav yearlyData startYear x = .ok m)
    (hbase : firstBaseOf yearlyData' startYear = firstBaseOf yearlyData startYear) (total' : ℚ) :
    ∃ m', calcNavMetrics rt today total' x.lastNav yearlyData' startYear x = .ok m' := by
  simp only [calcNavMetrics, bind, Except.bind, pure, Except.pure] at h ⊢
  split at h
  · cases h
  next evidence hevidence =>
  split at h
  · cases h
  next cagr hcagr =>
  obtain ⟨cagr', hcagr'⟩ : ∃ cagr', cagrOf rt today
      (navOf total' (sharesOf total' x.effectiveCashFlow evidence)) _ = .ok cagr' :=
    cagrOf_ok_iff.mpr (cagrOf_ok_iff.mp ⟨cagr, hcagr⟩)
  unfold firstBaseOf at hbase
  simp only [hbase, hcagr']
  exact ⟨_, rfl⟩

end

/-! ## Preview and record -/

/-- The values of a valuation are amounts at money precision. -/
structure AtMoneyPrecision (v : PortfolioValuation) : Prop where
  total : (money v.totalValueCny).toDecimal = v.totalValueCny
  cash : (money v.cashValueCny).toDecimal = v.cashValueCny
  nonCash : (money (v.stockValueCny + v.fundValueCny)).toDecimal = v.stockValueCny + v.fundValueCny
  fund : (money v.fundValueCny).toDecimal = v.fundValueCny
  cn : (money v.cnAssetValue).toDecimal = v.cnAssetValue
  us : (money v.usAssetValue).toDecimal = v.usAssetValue
  hk : (money v.hkAssetValue).toDecimal = v.hkAssetValue

/-- What a preview shows of the row that is recorded: its amounts, shares and flows, and its NAV up to
the rounding of the total. -/
structure Foreshows (s r : NAVHistory) : Prop where
  date : s.date = r.date
  account : s.account = r.account
  totalValue : s.totalValue = r.totalValue
  cashValue : s.cashValue = r.cashValue
  stockValue : s.stockValue = r.stockValue
  fundValue : s.fundValue = r.fundValue
  cnStockValue : s.cnStockValue = r.cnStockValue
  usStockValue : s.usStockValue = r.usStockValue
  hkStockValue : s.hkStockValue = r.hkStockValue
  shareChange : s.shareChange = r.shareChange
  cashFlow : s.cashFlow = r.cashFlow
  flows : s.details.map (fun d => (d.monthlyCashFlow, d.yearCashFlow, d.cumulativeCashFlow, d.initialValue)) =
    r.details.map fun d => (d.monthlyCashFlow, d.yearCashFlow, d.cumulativeCashFlow, d.initialValue)
  nav : ∃ shares : ℚ, s.shares = some (money shares) ∧ r.shares = some (money shares) ∧
    ∃ shown ∈ s.nav, ∃ stored ∈ r.nav, 0 < shares →
      |shown.toDecimal - stored.toDecimal| ≤ 1 / (200 * shares) + 1 / 1000000

section
variable {lrt : Ledger.Runtime} {rt : Runtime} {config : NavConfig} {account : String}
  {rows : List Ledger.RawCashFlowRecord} {navs : List NAVHistory} {run : NavRun rt} {r s : NAVHistory}

/-- What a run records, from the metrics of its projected total. -/
structure RecordedFrom (lrt : Ledger.Runtime) (config : NavConfig) (account : String)
    (rows : List Ledger.RawCashFlowRecord) (navs : List NAVHistory) (run : NavRun rt) (r : NAVHistory)
    (ds : Ledger.CashFlowDatasetSnapshot) (p : NavValuationProjection) (m : NavMetrics) : Prop where
  built : Ledger.buildDataset lrt rows run.confirmations
    ⟨account, run.navDate, run.runId, config.startYear⟩ run.service = .ok ds
  unblocked : ds.blockers = []
  projected : projectValuation run.valuation = .ok p
  metrics : calcNavMetrics rt run.navDate p.totalValue.toDecimal
    ((NavIndex.build navs).findLatestBefore run.navDate)
    (yearlyDataOf (NavIndex.build navs) config.startYear run.navDate (summaryFor ds navs run.navDate))
    config.startYear (periodInputs config navs run.navDate (summaryFor ds navs run.navDate)) = .ok m
  row : ∃ finality basis, r = withProvenance (buildNavRecord run.navDate account p.canonicalValuation
    p.nonCashValue.toDecimal p.cashValue.toDecimal p.totalValue.toDecimal p.stockWeight.toDecimal
    p.cashWeight.toDecimal
    (yearlyDataOf (NavIndex.build navs) config.startYear run.navDate (summaryFor ds navs run.navDate))
    (periodInputs config navs run.navDate (summaryFor ds navs run.navDate)) m) finality basis

theorem recordRun_ok (h : recordRun lrt config account rows navs run = .ok r) :
    ∃ ds p m, RecordedFrom lrt config account rows navs run r ds p m := by
  simp only [recordRun, bind, Except.bind, Except.mapError] at h
  split at h
  · cases h
  next ds hds =>
  have hbuilt : Ledger.buildDataset lrt rows run.confirmations
      ⟨account, run.navDate, run.runId, config.startYear⟩ run.service = .ok ds := by
    split at hds
    · cases hds
    · cases hds
      assumption
  obtain ⟨resolved, hscope, hrecord⟩ := recordNav_ok h
  obtain ⟨-, hofficial⟩ := officialScope_ok hscope
  have hblockers := (Ledger.assertOfficialScope_ok_iff.mp hofficial).2.1
  simp only [checkedRecord, computeNavRecord, bind, Except.bind, pure, Except.pure] at hrecord
  split at hrecord
  · cases hrecord
  next r₀ hr₀ =>
  split at hrecord
  · cases hrecord
  cases hrecord
  split at hr₀
  · cases hr₀
  next p hp =>
  split at hr₀
  · cases hr₀
  next m hm =>
  cases hr₀
  exact ⟨ds, p, m, hbuilt, hblockers, hp, hm, _, _, rfl⟩

/-- The base record of the first year. -/
theorem firstBaseOf_yearlyDataOf {index : NavIndex} {startYear : Nat} {today : CivilDate}
    {summary : Ledger.Summary} :
    firstBaseOf (yearlyDataOf index startYear today summary) startYear =
      if startYear ≤ today.year then index.findYearEnd (startYear - 1) else none := by
  unfold firstBaseOf yearlyDataOf
  by_cases h : startYear ≤ today.year
  · have hrange : today.year + 1 - startYear = (today.year - startYear) + 1 := by omega
    rw [if_pos h, hrange, List.range'_succ, List.map_cons, List.lookup_cons_self]
    rfl
  · have hrange : today.year + 1 - startYear = 0 := by omega
    rw [if_neg h, hrange]
    rfl

/-- The projected values of a valuation. -/
theorem projectValuation_ok {v : PortfolioValuation} {p : NavValuationProjection}
    (h : projectValuation v = .ok p) :
    p.totalValue = money v.totalValueCny ∧ p.cashValue = money v.cashValueCny ∧
      p.nonCashValue = money (v.stockValueCny + v.fundValueCny) ∧ p.fundValue = money v.fundValueCny ∧
      p.cnExposureValue = money v.cnAssetValue ∧ p.usExposureValue = money v.usAssetValue ∧
      p.hkExposureValue = money v.hkAssetValue := by
  unfold projectValuation at h
  simp only at h
  split at h
  · cases h
  next htotal =>
    cases h
    exact ⟨(not_not.mp htotal).symm, rfl, rfl, rfl, rfl, rfl, rfl⟩

/-- The NAVs of a total and of the total at money precision. -/
theorem navOf_money_near {total shares : ℚ} (h : 0 < shares) :
    |(navOf total shares).toDecimal - (navOf (money total).toDecimal shares).toDecimal| ≤
      1 / (200 * shares) + 1 / 1000000 := by
  have hround : |total - (money total).toDecimal| ≤ 1 / 200 := by
    have hnear := abs_le.mp (abs_roundHalfUp_sub_le (total * 100))
    rw [Cents.toDecimal, money_eq_roundHalfUp, abs_le]
    constructor <;> linarith [hnear.1, hnear.2]
  have hquantized : ∀ x : ℚ, |(quantizeNav x).toDecimal - x| ≤ 1 / 2000000 := by
    intro x
    have hnear := abs_le.mp (abs_roundHalfUp_sub_le (x * 1000000))
    rw [Micro.toDecimal, quantizeNav, abs_le]
    constructor <;> linarith [hnear.1, hnear.2]
  have hshare : |total / shares - (money total).toDecimal / shares| ≤ 1 / (200 * shares) := by
    rw [← sub_div, abs_div, abs_of_pos h, div_le_div_iff₀ h (by positivity)]
    calc |total - (money total).toDecimal| * (200 * shares) ≤ 1 / 200 * (200 * shares) := by gcongr
      _ = 1 * shares := by ring
  unfold navOf
  rw [if_pos h, if_pos h]
  have hleft := abs_le.mp (hquantized (total / shares))
  have hright := abs_le.mp (hquantized ((money total).toDecimal / shares))
  have hmiddle := abs_le.mp hshare
  rw [abs_le]
  constructor <;> linarith [hleft.1, hleft.2, hright.1, hright.2, hmiddle.1, hmiddle.2]

/-- The live point of a valuation. -/
def livePreview (rt : Runtime) (lrt : Ledger.Runtime) (source : LedgerSource) (config : NavConfig)
    (account : String) (today : CivilDate) (navs : List NAVHistory) (v : PortfolioValuation) :
    Except Error (Option NAVHistory) :=
  buildPreview rt lrt source config account today navs v v.totalValueCny v.cashValueCny
    (v.stockValueCny + v.fundValueCny)

namespace RecordedFrom

variable {ds : Ledger.CashFlowDatasetSnapshot} {p : NavValuationProjection} {m : NavMetrics}

/-- The preview of a day without an earlier row, or whose last row has no shares, is empty. -/
theorem preview_none (hdate : ∀ last ∈ (NavIndex.build navs).findLatestBefore run.navDate,
      ∀ shares ∈ last.shares, shares ≤ 0) :
    livePreview rt lrt ⟨rows, run.confirmations, none⟩ config account run.navDate navs run.valuation =
      .ok none := by
  unfold livePreview buildPreview
  simp only [build_sortNavs, findLatestBefore_rowsBefore]
  cases hlast : (NavIndex.build navs).findLatestBefore run.navDate with
  | none =>
    have hnil : rowsBefore run.navDate navs = [] := by
      rw [rowsBefore, List.filter_eq_nil_iff]
      intro nav hnav
      rw [decide_eq_true_iff]
      exact findLatestBefore_eq_none.mp hlast nav hnav
    rw [hnil]
    rfl
  | some last =>
    simp only [Option.some_or]
    cases hshares : last.shares with
    | none => rfl
    | some shares => exact if_pos (hdate last hlast shares hshares)

/-- The preview of a day after a row with shares is the point of its rows and flows. -/
theorem preview_some (h : RecordedFrom lrt config account rows navs run r ds p m) {last : NAVHistory}
    {shares : Cents} (hlast : (NavIndex.build navs).findLatestBefore run.navDate = some last)
    (hshares : last.shares = some shares) (hpos : 0 < shares) :
    ∃ m', calcNavMetrics rt run.navDate run.valuation.totalValueCny
        ((NavIndex.build navs).findLatestBefore run.navDate)
        (yearlyDataOf (NavIndex.build (rowsBefore run.navDate navs)) config.startYear run.navDate
          (summaryFor ds navs run.navDate)) config.startYear
        (periodInputs config navs run.navDate (summaryFor ds navs run.navDate)) = .ok m' ∧
      livePreview rt lrt ⟨rows, run.confirmations, none⟩ config account run.navDate navs run.valuation =
        .ok (some (buildNavRecord run.navDate account run.valuation
          (run.valuation.stockValueCny + run.valuation.fundValueCny) run.valuation.cashValueCny
          run.valuation.totalValueCny
          (liveRatio (run.valuation.stockValueCny + run.valuation.fundValueCny) run.valuation.totalValueCny)
          (liveRatio run.valuation.cashValueCny run.valuation.totalValueCny)
          (yearlyDataOf (NavIndex.build (rowsBefore run.navDate navs)) config.startYear run.navDate
            (summaryFor ds navs run.navDate))
          (periodInputs config navs run.navDate (summaryFor ds navs run.navDate)) m')) := by
  have hbefore : rowsBefore run.navDate navs ≠ [] := by
    obtain ⟨hmem, hlt, -⟩ := findLatestBefore_spec hlast
    exact List.ne_nil_of_mem (List.mem_filter.mpr ⟨hmem, decide_eq_true hlt⟩)
  have hsummary : summaryFor ds navs run.navDate = ds.summary (some last.date) := by
    rw [summaryFor, hlast, Option.map_some]
  have hbase : firstBaseOf (yearlyDataOf (NavIndex.build (rowsBefore run.navDate navs)) config.startYear
        run.navDate (summaryFor ds navs run.navDate)) config.startYear =
      firstBaseOf (yearlyDataOf (NavIndex.build navs) config.startYear run.navDate
        (summaryFor ds navs run.navDate)) config.startYear := by
    have hyear := run.navDate.valid.1
    rw [firstBaseOf_yearlyDataOf, firstBaseOf_yearlyDataOf]
    split
    next hle => exact findYearEnd_rowsBefore_of_lt (by omega)
    · rfl
  have hinputs : periodInputs config (sortNavs (rowsBefore run.navDate navs)) run.navDate _ = _ :=
    periodInputs_rowsBefore hbefore (summaryFor ds navs run.navDate)
  have hlastNav : (periodInputs config navs run.navDate (summaryFor ds navs run.navDate)).lastNav =
      (NavIndex.build navs).findLatestBefore run.navDate := rfl
  obtain ⟨m', hm'⟩ := calcNavMetrics_total (hlastNav ▸ h.metrics) hbase run.valuation.totalValueCny
  refine ⟨m', hm', ?_⟩
  unfold livePreview buildPreview
  simp only [build_sortNavs, findLatestBefore_rowsBefore, hlast, Option.some_or, hshares,
    if_neg (not_le.mpr hpos)]
  rw [previewFlows_of_official h.built h.unblocked]
  simp only [bind, Except.bind, previewPoint, ← hsummary, hinputs, build_sortNavs]
  rw [hm']
  rfl

/-- The point of the rows before the day foreshows the recorded row. -/
theorem foreshows (h : RecordedFrom lrt config account rows navs run r ds p m) {m' : NavMetrics}
    {yearlyData : Items String YearData} {stockRatio cashRatio : ℚ} {last : NAVHistory}
    (hlast : (NavIndex.build navs).findLatestBefore run.navDate = some last)
    (hm' : calcNavMetrics rt run.navDate run.valuation.totalValueCny
      ((NavIndex.build navs).findLatestBefore run.navDate) yearlyData config.startYear
      (periodInputs config navs run.navDate (summaryFor ds navs run.navDate)) = .ok m') :
    Foreshows (buildNavRecord run.navDate account run.valuation
      (run.valuation.stockValueCny + run.valuation.fundValueCny) run.valuation.cashValueCny
      run.valuation.totalValueCny stockRatio cashRatio yearlyData
      (periodInputs config navs run.navDate (summaryFor ds navs run.navDate)) m') r := by
  obtain ⟨htotal, hcash, hnonCash, hfund, hcn, hus, hhk⟩ := projectValuation_ok h.projected
  obtain ⟨finality, basis, hrow⟩ := h.row
  set x := periodInputs config navs run.navDate (summaryFor ds navs run.navDate) with hx
  have hlastNav : x.lastNav = some last := hlast
  obtain ⟨evidence, hevidence, hm⟩ := calcNavMetrics_ok (x := x) h.metrics
  obtain ⟨evidence', hevidence', hmetrics'⟩ := calcNavMetrics_ok (x := x) hm'
  cases hevidence.symm.trans hevidence'
  -- the shares are those of the last row and of the flows since
  have hshares : m'.shares = m.shares := by
    rw [hmetrics'.shares, hm.shares]
    cases evidence with
    | none =>
      rw [hlastNav] at hevidence
      unfold previousEvidence at hevidence
      simp only at hevidence
      split at hevidence
      · split at hevidence <;> cases hevidence
      · cases hevidence
    | some previous => rfl
  subst hrow
  refine ⟨rfl, rfl, ?_, ?_, ?_, ?_, ?_, ?_, ?_, ?_, rfl, rfl, m.shares, ?_, rfl, _, rfl, _, rfl,
    fun hpos => ?_⟩
  · show money run.valuation.totalValueCny = money p.totalValue.toDecimal
    rw [money_toDecimal, htotal]
  · show some (money run.valuation.cashValueCny) = some (money p.cashValue.toDecimal)
    rw [money_toDecimal, hcash]
  · show some (money (run.valuation.stockValueCny + run.valuation.fundValueCny)) =
      some (money p.nonCashValue.toDecimal)
    rw [money_toDecimal, hnonCash]
  · show some (money run.valuation.fundValueCny) = some (money p.fundValue.toDecimal)
    rw [money_toDecimal, hfund]
  · show some (money run.valuation.cnAssetValue) = some (money p.cnExposureValue.toDecimal)
    rw [money_toDecimal, hcn]
  · show some (money run.valuation.usAssetValue) = some (money p.usExposureValue.toDecimal)
    rw [money_toDecimal, hus]
  · show some (money run.valuation.hkAssetValue) = some (money p.hkExposureValue.toDecimal)
    rw [money_toDecimal, hhk]
  · show some (money m'.sharesChange) = some (money m.sharesChange)
    rw [hmetrics'.sharesChange, hm.sharesChange]
  · show some (money m'.shares) = some (money m.shares)
    rw [hshares]
  · rw [quantizeNav_toDecimal, quantizeNav_toDecimal, hmetrics'.nav, hm.nav, hshares, htotal]
    exact navOf_money_near hpos

/-- At money precision the point differs from the recorded row in the details only. -/
theorem precise (h : RecordedFrom lrt config account rows navs run r ds p m)
    (hv : AtMoneyPrecision run.valuation) {m' : NavMetrics} {yearlyData : Items String YearData}
    (hm' : calcNavMetrics rt run.navDate run.valuation.totalValueCny
      ((NavIndex.build navs).findLatestBefore run.navDate) yearlyData config.startYear
      (periodInputs config navs run.navDate (summaryFor ds navs run.navDate)) = .ok m') :
    { buildNavRecord run.navDate account run.valuation
        (run.valuation.stockValueCny + run.valuation.fundValueCny) run.valuation.cashValueCny
        run.valuation.totalValueCny
        (liveRatio (run.valuation.stockValueCny + run.valuation.fundValueCny) run.valuation.totalValueCny)
        (liveRatio run.valuation.cashValueCny run.valuation.totalValueCny) yearlyData
        (periodInputs config navs run.navDate (summaryFor ds navs run.navDate)) m' with
      details := r.details } = r := by
  obtain ⟨htotal, hcash, hnonCash, hfund, hcn, hus, hhk⟩ := projectValuation_ok h.projected
  obtain ⟨finality, basis, hrow⟩ := h.row
  have hprojected := Nav.projected h.projected
  set x := periodInputs config navs run.navDate (summaryFor ds navs run.navDate) with hx
  have htotal' : p.totalValue.toDecimal = run.valuation.totalValueCny := htotal ▸ hv.total
  have hmetrics : calcNavMetrics rt run.navDate run.valuation.totalValueCny x.lastNav
      (yearlyDataOf (NavIndex.build navs) config.startYear run.navDate (summaryFor ds navs run.navDate))
      config.startYear x = .ok m := htotal' ▸ h.metrics
  obtain ⟨evidence, hevidence, hm⟩ := calcNavMetrics_ok (x := x) hmetrics
  obtain ⟨evidence', hevidence', hmetrics'⟩ := calcNavMetrics_ok (x := x) hm'
  cases hevidence.symm.trans hevidence'
  have hshares : m'.shares = m.shares := hmetrics'.shares.trans hm.shares.symm
  have hnav : m'.nav = m.nav := by rw [hmetrics'.nav, hm.nav, hshares]
  have hratio : ∀ {part : Cents} {live : ℚ}, part.toDecimal = live →
      liveRatio live run.valuation.totalValueCny = weightOf part p.totalValue := by
    rintro part live rfl
    have hpos : 0 < run.valuation.totalValueCny ↔ 0 < p.totalValue := by
      rw [← htotal', Cents.toDecimal, div_pos_iff_of_pos_right (by norm_num)]
      exact Int.cast_pos
    unfold liveRatio weightOf
    rw [← htotal']
    simp only [htotal', hpos]
  subst hrow
  simp only [withProvenance, buildNavRecord, NavValuationProjection.canonicalValuation,
    money_toDecimal, quantizeWeight_toDecimal, hratio (hnonCash ▸ hv.nonCash), hratio (hcash ▸ hv.cash),
    hprojected.stockWeight, hprojected.cashWeight, htotal, hcash, hnonCash, hfund, hcn, hus, hhk,
    hmetrics'.sharesChange, hm.sharesChange, hshares, hnav, hmetrics'.monthNavChange, hm.monthNavChange,
    hmetrics'.yearNavChange, hm.yearNavChange, hmetrics'.dailyAppreciation, hm.dailyAppreciation,
    hmetrics'.monthAppreciation, hm.monthAppreciation, hmetrics'.yearAppreciation, hm.yearAppreciation]

/-- Where no row is dated on the day or after it, the details are the recorded ones before the provenance
is added. -/
theorem same (h : RecordedFrom lrt config account rows navs run r ds p m)
    (hv : AtMoneyPrecision run.valuation) (hbefore : ∀ nav ∈ navs, nav.date < run.navDate)
    {m' : NavMetrics} (hm' : calcNavMetrics rt run.navDate run.valuation.totalValueCny
      ((NavIndex.build navs).findLatestBefore run.navDate)
      (yearlyDataOf (NavIndex.build (rowsBefore run.navDate navs)) config.startYear run.navDate
        (summaryFor ds navs run.navDate)) config.startYear
      (periodInputs config navs run.navDate (summaryFor ds navs run.navDate)) = .ok m') :
    ∃ finality basis, r = withProvenance (buildNavRecord run.navDate account run.valuation
      (run.valuation.stockValueCny + run.valuation.fundValueCny) run.valuation.cashValueCny
      run.valuation.totalValueCny
      (liveRatio (run.valuation.stockValueCny + run.valuation.fundValueCny) run.valuation.totalValueCny)
      (liveRatio run.valuation.cashValueCny run.valuation.totalValueCny)
      (yearlyDataOf (NavIndex.build (rowsBefore run.navDate navs)) config.startYear run.navDate
        (summaryFor ds navs run.navDate))
      (periodInputs config navs run.navDate (summaryFor ds navs run.navDate)) m') finality basis := by
  have hall : rowsBefore run.navDate navs = navs :=
    List.filter_eq_self.mpr fun nav hnav => decide_eq_true (hbefore nav hnav)
  rw [hall] at hm' ⊢
  have hdetails := h.precise hv hm'
  obtain ⟨finality, basis, hrow⟩ := h.row
  have htotal : p.totalValue.toDecimal = run.valuation.totalValueCny :=
    (projectValuation_ok h.projected).1 ▸ hv.total
  have hsame : m' = m := Except.ok.inj (hm'.symm.trans (htotal ▸ h.metrics))
  refine ⟨finality, basis, ?_⟩
  rw [← hdetails, hrow, hsame]
  rfl

end RecordedFrom

end

/-- The flows of 14 March are those of its summary. -/
theorem march_flows_are_one_summary :
    ∃ summary, summarize Ledger.ledgerRuntime ⟨[Ledger.cnyRow], fun _ => none, none⟩ "a" 2025 Ledger.ledgerDate
      (some (bareRecord ⟨2025, 3, 13, by decide⟩ 10000 10000 1000000)) = .ok summary := by
  have hflows : (previewFlows Ledger.ledgerRuntime ⟨[Ledger.cnyRow], fun _ => none, none⟩ "a" 2025
      Ledger.ledgerDate (bareRecord ⟨2025, 3, 13, by decide⟩ 10000 10000 1000000)).toOption.isSome = true := by
    decide +kernel
  cases h : previewFlows Ledger.ledgerRuntime ⟨[Ledger.cnyRow], fun _ => none, none⟩ "a" 2025
      Ledger.ledgerDate (bareRecord ⟨2025, 3, 13, by decide⟩ 10000 10000 1000000) with
  | error exc =>
    rw [h] at hflows
    cases hflows
  | ok summary => exact ⟨summary, preview_flows_are_one_summary h⟩

end PortfolioManagement.Nav
