import PortfolioManagement.Ledger.DatasetLaws

/-!
# Queries of the cash-flow ledger

`CashFlowSummaryService` answers questions about a day, a month, a year or a period from a dataset
of its own. On rows whose sums fit the context every answer is the plain sum of the completed flows
asked for.
-/

namespace PortfolioManagement.Ledger

/-! ## Queries -/

/-- What the service reads for an account. -/
structure LedgerSource where
  /-- the raw rows -/
  rows : List RawCashFlowRecord
  /-- the manual FX confirmations -/
  confirmations : String → Option FxConfirmation
  /-- the effect gate -/
  service : EffectService

section
variable (rt : Runtime) (source : LedgerSource) (account : String)

/-- `_build_nonofficial_dataset` and `_assert_queryable`; the text of the blockers is left out. -/
def queryDataset (navDate : CivilDate) (startYear : Nat) (purpose : String) :
    Except Error CashFlowDatasetSnapshot := do
  let ds ← buildDataset rt source.rows source.confirmations
    ⟨account, navDate, "nonofficial:" ++ purpose ++ ":" ++ account ++ ":" ++ navDate.isoformat,
      startYear⟩ source.service
  if ds.blockers = [] then .ok ds
  else .error (.value "cash-flow summary dataset is blocked: ")

/-- `daily`. -/
def dailyFlow (flowDate : CivilDate) : Except Error Cents := do
  let ds ← queryDataset rt source account flowDate flowDate.year "daily"
  pure ((ds.sums.daily.lookup flowDate).getD 0)

/-- `yearly`. -/
def yearlyFlow (year : Nat) : Except Error Cents :=
  match CivilDate.make? year 12 31 with
  | none => .error (.value "year is out of range")
  | some yearEnd => do
    let ds ← queryDataset rt source account yearEnd year "yearly"
    pure ((ds.sums.yearly.lookup year).getD 0)

/-- The end of a month: the day before the first of the next one, which has to exist. -/
def monthEnd (month : YearMonth) : Option CivilDate :=
  if month.year = 9999 ∧ month.month = 12 then none
  else CivilDate.make? month.year month.month (daysInMonth month.year month.month)

/-- `monthly`. -/
def monthlyFlow (month : YearMonth) : Except Error Cents :=
  match monthEnd month with
  | none => .error (.value "year is out of range")
  | some last => do
    let ds ← queryDataset rt source account last month.year "monthly"
    pure ((ds.sums.monthly.lookup month).getD 0)

/-- `period`. -/
def periodFlow (start stop : CivilDate) : Except Error Cents := do
  let ds ← queryDataset rt source account stop start.year "period"
  pure ((ds.sums.daily.filter fun item => start ≤ item.1 ∧ item.1 ≤ stop).foldl
    (fun sum item => addMoney sum item.2) 0)

end

/-! ## Answers -/

section
variable {rt : Runtime} {account : String} {rows : List RawCashFlowRecord}
  {completed : List CompletedCashFlowFacts}

/-- Fewer rows need no more digits. -/
theorem Representable.sublist {some' : List CompletedCashFlowFacts} (h : Representable completed)
    (hsub : some'.Sublist completed) : Representable some' :=
  lt_of_le_of_lt ((hsub.map _).sum_le_sum fun _ _ => Nat.zero_le _) h

theorem Representable.window (h : Representable completed) (start stop : CivilDate) :
    Representable (windowRows completed start stop) :=
  h.sublist List.filter_sublist

/-- A smaller window needs no more digits. -/
theorem representable_of_le {completed : List CompletedCashFlowFacts}
    {start stop stop' : CivilDate} (hle : stop ≤ stop')
    (h : Representable (windowRows completed start stop')) :
    Representable (windowRows completed start stop) := by
  refine lt_of_le_of_lt ?_ h
  have hsub : (windowRows completed start stop).Sublist (windowRows completed start stop') := by
    refine List.monotone_filter_right _ fun facts hin => ?_
    simp only [inWindow, decide_eq_true_iff] at hin ⊢
    exact ⟨hin.1, hin.2.trans hle⟩
  exact (hsub.map _).sum_le_sum fun _ _ => Nat.zero_le _

/-- What a built dataset is about. -/
theorem buildDataset_frame {confirmations : String → Option FxConfirmation}
    {scope : DatasetScope} {service : EffectService} {ds : CashFlowDatasetSnapshot}
    {windowStart : CivilDate} (hstart : CivilDate.make? scope.startYear 1 1 = some windowStart)
    (h : buildDataset rt rows confirmations scope service = .ok ds) :
    windowStart ≤ scope.navDate ∧ ds.navDate = scope.navDate ∧ ds.windowStart = windowStart ∧
      ds.completedRows = (deriveRows rt rows (strip scope.account)).completedRows ∧
      ds.sums = aggregateCompletedCashFlows
        (deriveRows rt rows (strip scope.account)).completedRows windowStart scope.navDate := by
  obtain ⟨start, hstart', hgate, -⟩ := buildDataset_ok h
  cases hstart.symm.trans hstart'
  have hle : windowStart ≤ scope.navDate := by
    by_contra hlt
    unfold buildDataset at h
    simp only [hstart] at h
    split at h
    · cases h
    · split at h
      · cases h
      · rw [if_pos (not_le.mp hlt)] at h
        cases h
  rw [hgate.same]
  exact ⟨hle, rfl, rfl, rfl, rfl⟩

/-- The parts of a date that was made. -/
theorem make?_eq {year month day : Nat} {d : CivilDate} (h : CivilDate.make? year month day = some d) :
    d.year = year ∧ d.month = month ∧ d.day = day := by
  unfold CivilDate.make? at h
  split at h
  · cases h
    exact ⟨rfl, rfl, rfl⟩
  · cases h

/-- The rows of a window that satisfy something are all rows that do, if these are in the window. -/
theorem filter_windowRows_eq {start stop : CivilDate} {p : CompletedCashFlowFacts → Bool}
    (h : ∀ facts ∈ completed, p facts = true → start ≤ facts.flowDate ∧ facts.flowDate ≤ stop) :
    (windowRows completed start stop).filter p = completed.filter p := by
  rw [windowRows, List.filter_filter]
  refine List.filter_congr fun facts hmem => ?_
  cases hp : p facts with
  | false => rfl
  | true => simpa [inWindow] using h facts hmem hp

/-- The dataset of a query, from 1 January of its year to its date. -/
theorem queryDataset_ok {source : LedgerSource} {navDate : CivilDate} {startYear : Nat}
    {purpose : String} {ds : CashFlowDatasetSnapshot}
    (h : queryDataset rt source account navDate startYear purpose = .ok ds) :
    ∃ start : CivilDate, start.year = startYear ∧ start.month = 1 ∧ start.day = 1 ∧
      ds.sums = aggregateCompletedCashFlows
        (deriveRows rt source.rows (strip account)).completedRows start navDate := by
  simp only [queryDataset, bind, Except.bind] at h
  split at h
  · cases h
  next built hbuilt =>
    split at h
    · cases h
      obtain ⟨start, hstart, -⟩ := buildDataset_ok hbuilt
      obtain ⟨hyear, hmonth, hday⟩ := make?_eq hstart
      exact ⟨start, hyear, hmonth, hday, (buildDataset_frame hstart hbuilt).2.2.2.2⟩
    · cases h

section
variable {source : LedgerSource} {x : Cents}
  (hfits : Representable (deriveRows rt source.rows (strip account)).completedRows)
include hfits

theorem dailyFlow_eq {d : CivilDate} (h : dailyFlow rt source account d = .ok x) :
    x = total ((deriveRows rt source.rows (strip account)).completedRows.filter
      fun facts => facts.flowDate = d) := by
  simp only [dailyFlow, bind, Except.bind, pure, Except.pure] at h
  split at h
  · cases h
  next ds hds =>
    cases h
    obtain ⟨start, hyear, hmonth, hday, hsums⟩ := queryDataset_ok hds
    rw [hsums, (exactSums_aggregate (hfits.window start d)).daily]
    congr 1
    refine filter_windowRows_eq fun facts _ hp => ?_
    rw [of_decide_eq_true hp]
    exact ⟨(CivilDate.firstOfYear_le hmonth hday).mpr hyear.le, le_rfl⟩

theorem yearlyFlow_eq {year : Nat} (h : yearlyFlow rt source account year = .ok x) :
    x = total ((deriveRows rt source.rows (strip account)).completedRows.filter
      fun facts => facts.flowDate.year = year) := by
  unfold yearlyFlow at h
  split at h
  · cases h
  next last hlast =>
    obtain ⟨hlastYear, hlastMonth, hlastDay⟩ := make?_eq hlast
    simp only [bind, Except.bind, pure, Except.pure] at h
    split at h
    · cases h
    next ds hds =>
      cases h
      obtain ⟨start, hyear, hmonth, hday, hsums⟩ := queryDataset_ok hds
      rw [hsums, (exactSums_aggregate (hfits.window start last)).yearly]
      congr 1
      refine filter_windowRows_eq fun facts _ hp => ?_
      have hfacts : facts.flowDate.year = year := of_decide_eq_true hp
      refine ⟨(CivilDate.firstOfYear_le hmonth hday).mpr (hyear.trans hfacts.symm).le, ?_⟩
      have hm := facts.flowDate.month_le
      have hd := facts.flowDate.day_le
      rw [CivilDate.le_iff_stamp, CivilDate.stamp, CivilDate.stamp]
      omega

theorem monthlyFlow_eq {month : YearMonth} (h : monthlyFlow rt source account month = .ok x) :
    x = total ((deriveRows rt source.rows (strip account)).completedRows.filter
      fun facts => monthKey facts.flowDate = month) := by
  unfold monthlyFlow at h
  split at h
  · cases h
  next last hlast =>
    have hmade : CivilDate.make? month.year month.month (daysInMonth month.year month.month) =
        some last := by
      unfold monthEnd at hlast
      split at hlast
      · cases hlast
      · exact hlast
    obtain ⟨hlastYear, hlastMonth, hlastDay⟩ := make?_eq hmade
    simp only [bind, Except.bind, pure, Except.pure] at h
    split at h
    · cases h
    next ds hds =>
      cases h
      obtain ⟨start, hyear, hmonth, hday, hsums⟩ := queryDataset_ok hds
      rw [hsums, (exactSums_aggregate (hfits.window start last)).monthly]
      congr 1
      refine filter_windowRows_eq fun facts _ hp => ?_
      have hkey : monthKey facts.flowDate = month := of_decide_eq_true hp
      have hfactsYear : facts.flowDate.year = month.year := congrArg YearMonth.year hkey
      have hfactsMonth : facts.flowDate.month = month.month := congrArg YearMonth.month hkey
      refine ⟨(CivilDate.firstOfYear_le hmonth hday).mpr (hyear.trans hfactsYear.symm).le, ?_⟩
      have hd := facts.flowDate.valid.2.2.2.2.2
      rw [hfactsYear, hfactsMonth] at hd
      rw [CivilDate.le_iff_stamp, CivilDate.stamp, CivilDate.stamp]
      omega

theorem periodFlow_eq {start stop : CivilDate}
    (h : periodFlow rt source account start stop = .ok x) :
    x = total ((deriveRows rt source.rows (strip account)).completedRows.filter
      fun facts => start ≤ facts.flowDate ∧ facts.flowDate ≤ stop) := by
  simp only [periodFlow, bind, Except.bind, pure, Except.pure] at h
  split at h
  · cases h
  next ds hds =>
    cases h
    obtain ⟨first, hyear, hmonth, hday, hsums⟩ := queryDataset_ok hds
    have hdaily : ds.sums.daily = sumsBy (·.flowDate) (windowRows
        (deriveRows rt source.rows (strip account)).completedRows first stop) := by
      rw [hsums, aggregate_eq]
    have hwindow := hfits.window first stop
    have hbound : ((ds.sums.daily.filter fun item => start ≤ item.1 ∧ item.1 ≤ stop).map
        fun item => item.2.natAbs).sum < 10 ^ Decimal.precision := by
      refine lt_of_le_of_lt ?_ hwindow
      rw [hdaily]
      exact ((List.filter_sublist.map _).sum_le_sum fun _ _ => Nat.zero_le _).trans
        (natAbs_sumsBy_le _ hwindow)
    rw [foldl_addMoney _ hbound, hdaily,
      sum_filter_sumsBy _ hwindow fun day => start ≤ day ∧ day ≤ stop]
    congr 1
    refine filter_windowRows_eq fun facts _ hp => ?_
    obtain ⟨hlow, hhigh⟩ := of_decide_eq_true hp
    exact ⟨(CivilDate.firstOfYear_le hmonth hday).mpr
      (hyear ▸ CivilDate.year_le_of_le hlow), hhigh⟩

end

end

end PortfolioManagement.Ledger
