import PortfolioManagement.Ledger.Queries
import PortfolioManagement.Nav.RecordNav

/-!
# Auditing a NAV history

`AuditService` recomputes the derived fields of every row from the history and the ledger as they
are now, classifies the row and proposes repairs; `CapitalFactsService` computes the result of a
month or a year up to its last row. Both read the flows of a period from the ledger themselves.
-/

namespace PortfolioManagement.Nav

open Ledger (LedgerSource dailyFlow monthlyFlow yearlyFlow periodFlow YearMonth monthKey)

/-! ## Recomputation -/

/-- The result of `_recompute_period_metrics`. -/
structure Recomputed where
  /-- `pm` -/
  prevMonthEnd : Option NAVHistory
  /-- `py` -/
  prevYearEnd : Option NAVHistory
  /-- `mtd_return_base` -/
  mtdReturnBase : Option NAVHistory
  /-- `ytd_return_base` -/
  ytdReturnBase : Option NAVHistory
  /-- `mtd_nav_change` -/
  mtdNavChange : Option Micro
  /-- `ytd_nav_change` -/
  ytdNavChange : Option Micro
  /-- `mtd_pnl` -/
  mtdPnl : Option Cents
  /-- `ytd_pnl` -/
  ytdPnl : Option Cents
deriving DecidableEq

section
variable (rt : Runtime)

/-- `round(x, 6)` -/
def roundNav (x : ℚ) : Micro := roundNearest (rt.tieUp x) (x * 1000000)

/-- `round(x, 2)` -/
def roundMoney (x : ℚ) : Cents := roundNearest (rt.tieUp x) (x * 100)

/-- A period result of a row, when there are a base record and a flow. -/
def recomputedPnl (n : NAVHistory) (base : Option NAVHistory) (flow : Option Cents) :
    Option Cents :=
  (flow.bind fun flow => periodPnl n.totalValue.toDecimal base flow.toDecimal).map (roundMoney rt)

/-- The value of a query that is only made for a base record. -/
def flowFor (base : Option NAVHistory) (query : Except Error Cents) : Except Error (Option Cents) :=
  if base.isSome then query.map some else .ok none

variable (lrt : Ledger.Runtime) (source : LedgerSource) (account : String)

/-- `_recompute_period_metrics`. -/
def recomputePeriodMetrics (navs : List NAVHistory) (n : NAVHistory) :
    Except Error Recomputed := do
  let index := NavIndex.build navs
  let pm := index.findPrevMonthEnd n.date
  let py := index.findYearEnd (n.date.year - 1)
  let mtdReturnBase := index.findMtdReturnBase n.date
  let ytdReturnBase := index.findYtdReturnBase n.date
  let monthly ← flowFor pm (monthlyFlow lrt source account (monthKey n.date))
  let yearly ← flowFor py (yearlyFlow lrt source account n.date.year)
  pure
    { prevMonthEnd := pm
      prevYearEnd := py
      mtdReturnBase := mtdReturnBase
      ytdReturnBase := ytdReturnBase
      mtdNavChange := (n.nav.bind fun nav => calcMtdNavChange nav mtdReturnBase).map (roundNav rt)
      ytdNavChange := (n.nav.bind fun nav => calcYtdNavChange nav ytdReturnBase).map (roundNav rt)
      mtdPnl := recomputedPnl rt n pm monthly
      ytdPnl := recomputedPnl rt n py yearly }

end

/-! ## Reconciliation -/

/-- The statuses of `audit_nav_history_reconcile`. -/
inductive RowStatus
  | ok
  | exempt
  | anomaly
deriving DecidableEq

/-- A row of `audit_nav_history_reconcile`. -/
structure ReconcileRow where
  /-- `record_id` -/
  recordId : Option String
  /-- `date` -/
  date : CivilDate
  /-- `anomalies` -/
  anomalies : List String
  /-- `exemptions` -/
  exemptions : List String
  /-- `recomputed` -/
  recomputed : Recomputed
  /-- `expected_daily_pnl` -/
  expectedDailyPnl : Option Cents
deriving DecidableEq

/-- `status` -/
def ReconcileRow.status (row : ReconcileRow) : RowStatus :=
  if row.anomalies ≠ [] then .anomaly else if row.exemptions ≠ [] then .exempt else .ok

/-- `approx_equal` of two amounts, where none is equal to none only. -/
def approxEqualMoney (a b : Option Cents) : Bool :=
  match a, b with
  | some a, some b => approxEqual a.toDecimal b.toDecimal (1 / 100)
  | none, none => true
  | _, _ => false

section
variable (rt : Runtime)

/-- The check of the total. -/
def auditTotal (n : NAVHistory) : List String :=
  let expected := (money ((n.stockValue.getD 0).toDecimal + (n.cashValue.getD 0).toDecimal)).toDecimal
  failing (moneyEqual (some n.totalValue.toDecimal) (some expected))
    ("total_value != stock_value + cash_value (" ++ rt.floatText n.totalValue.toDecimal ++ " != " ++
      rt.floatText expected ++ ")")

/-- The check of the weights. -/
def auditWeights (n : NAVHistory) : List String :=
  match n.stockWeight, n.cashWeight with
  | some stockWeight, some cashWeight =>
    failing (n.totalValue ≤ 0 ||
        approxEqual (stockWeight.toDecimal + cashWeight.toDecimal) 1 (1 / 10000))
      ("stock_weight + cash_weight != 1 (" ++
        rt.floatText (stockWeight.toDecimal + cashWeight.toDecimal) ++ ")")
  | _, _ => []

/-- `legacy_expected_nav_4dp` -/
def legacyNav (expected : ℚ) : ℚ :=
  (roundNearest (rt.tieUp expected) (expected * 10000) : ℚ) / 10000

/-- Whether a NAV is the expected one, as it is or as the older four places. -/
inductive NavMatch
  | exact
  | legacy
  | mismatch
deriving DecidableEq

/-- The comparison of a NAV with the total over the shares. -/
def matchNav (nav : Micro) (expected : ℚ) : NavMatch :=
  if navEqual (some nav.toDecimal) (some expected) then .exact
  else if approxEqual nav.toDecimal (legacyNav rt expected) (1 / 1000000) then .legacy
  else .mismatch

/-- The NAV of a row with shares against the expected one. -/
def rowNavMatch (n : NAVHistory) : NavMatch :=
  match n.shares, n.nav with
  | some shares, some nav => if 0 < shares then matchNav rt nav (expectedNav n shares) else .exact
  | _, _ => .exact

/-- The check of the NAV. -/
def auditNav (n : NAVHistory) : List String :=
  failing (rowNavMatch rt n ≠ .mismatch)
    ("nav != total_value / shares (" ++ pyText rt (microValue n.nav) ++ " != " ++
      pyText rt (n.shares.map (expectedNav n)) ++ ")")

/-- The check of a stored NAV change against a recomputed one. -/
def auditChange (label : String) (stored recomputed : Option Micro) : List String :=
  failing (navEqual (microValue stored) (microValue recomputed) || recomputed.isNone)
    (label ++ " mismatch (" ++ pyText rt (microValue stored) ++ " != " ++
      pyText rt (microValue recomputed) ++ ")")

/-- The check of a stored period result against a recomputed one, if the base is not missing. -/
def auditPnl (label : String) (base : Option NAVHistory) (stored recomputed : Option Cents) :
    List String :=
  failing (moneyEqual (centsValue stored) (centsValue recomputed) || base.isNone)
    (label ++ " mismatch (" ++ pyText rt (centsValue stored) ++ " != " ++
      pyText rt (centsValue recomputed) ++ ")")

/-- The previous row, if it is of the day before. -/
def yesterdayOf (n : NAVHistory) (prev : Option NAVHistory) : Option NAVHistory :=
  prev.filter (dayBefore n.date)

/-- The result of a day. -/
def expectedDaily (n last : NAVHistory) (daily : Cents) : Cents :=
  n.totalValue - last.totalValue - daily

/-- The result of a day as it is reported: the difference is taken in floats. -/
def floatDaily (n last : NAVHistory) (daily : Cents) : Cents :=
  roundMoney rt (rt.difference (rt.difference n.totalValue.toDecimal last.totalValue.toDecimal)
    daily.toDecimal)

/-- The check of the result of a day. -/
def auditDaily (n : NAVHistory) (prev : Option NAVHistory) (daily : Cents) : List String :=
  match yesterdayOf n prev, n.pnl with
  | some last, some pnl =>
    failing (moneyEqual (some pnl.toDecimal) (some (expectedDaily n last daily).toDecimal))
      ("pnl mismatch (" ++ rt.floatText pnl.toDecimal ++ " != " ++
        rt.floatText (expectedDaily n last daily).toDecimal ++ ")")
  | _, _ => []

/-- The previous row, if it has shares and the day has no flow of more than a cent. -/
def quietPrevious (prev : Option NAVHistory) (daily : Cents) : Option NAVHistory :=
  prev.filter fun last => last.shares.isSome && approxEqual daily.toDecimal 0 (1 / 100)

/-- The check of the shares of a day without a flow. -/
def auditShares (n : NAVHistory) (prev : Option NAVHistory) (daily : Cents) : List String :=
  match (quietPrevious prev daily).filter (dayBefore n.date) with
  | some last =>
    failing (approxEqualMoney n.shares last.shares)
      ("shares changed without daily cash flow (" ++ pyText rt (centsValue n.shares) ++ " != " ++
        pyText rt (centsValue last.shares) ++ ")")
  | none => []

/-- The exemptions of a row, in the order they are found. -/
def exemptionsOf (n : NAVHistory) (prev : Option NAVHistory) (daily : Cents) (m : Recomputed) :
    List String :=
  failing (rowNavMatch rt n ≠ .legacy) "legacy_nav_precision_4dp" ++
    (if m.mtdReturnBase.isNone then ["missing_month_base"]
      else failing m.prevMonthEnd.isSome "fallback_month_base") ++
    (if m.ytdReturnBase.isNone then ["missing_year_base"]
      else failing m.prevYearEnd.isSome "fallback_year_base") ++
    failing (¬ (n.date.month = 1 ∧ m.mtdNavChange.isSome ∧ m.mtdNavChange = m.ytdNavChange))
      "january_mtd_equals_ytd" ++
    failing (n.pnl.isNone || (yesterdayOf n prev).isSome) "non_consecutive_daily_pnl" ++
    match quietPrevious prev daily with
    | some last =>
      failing (dayBefore n.date last || approxEqualMoney n.shares last.shares)
        "non_consecutive_share_change"
    | none => []

/-- The anomalies of a row, in the order they are found. -/
def anomaliesOf (n : NAVHistory) (prev : Option NAVHistory) (daily : Cents) (m : Recomputed) :
    List String :=
  auditTotal rt n ++ auditWeights rt n ++ auditNav rt n ++
    auditChange rt "mtd_nav_change" n.mtdNavChange m.mtdNavChange ++
    auditChange rt "ytd_nav_change" n.ytdNavChange m.ytdNavChange ++
    auditPnl rt "mtd_pnl" m.mtdReturnBase n.mtdPnl m.mtdPnl ++
    auditPnl rt "ytd_pnl" m.ytdReturnBase n.ytdPnl m.ytdPnl ++
    auditDaily rt n prev daily ++ auditShares rt n prev daily

variable (lrt : Ledger.Runtime) (source : LedgerSource) (account : String)

/-- One row of `audit_nav_history_reconcile`. -/
def reconcileRow (navs : List NAVHistory) (n : NAVHistory) : Except Error ReconcileRow := do
  let prev := (NavIndex.build navs).findLatestBefore n.date
  let daily ← dailyFlow lrt source account n.date
  let m ← recomputePeriodMetrics rt lrt source account navs n
  pure
    { recordId := n.recordId
      date := n.date
      anomalies := anomaliesOf rt n prev daily m
      exemptions := exemptionsOf rt n prev daily m
      recomputed := m
      expectedDailyPnl := (yesterdayOf n prev).map fun last => floatDaily rt n last daily }

/-- `target_navs`: the rows from a cutoff on. -/
def targetNavs (navs : List NAVHistory) (cutoff : Option CivilDate) : List NAVHistory :=
  (sortNavs navs).filter fun n => cutoff.all (· ≤ n.date)

/-- The rows of `audit_nav_history_reconcile`. -/
def auditNavHistoryReconcile (navs : List NAVHistory) (cutoff : Option CivilDate) :
    Except Error (List ReconcileRow) :=
  (targetNavs navs cutoff).mapM (reconcileRow rt lrt source account navs)

/-! ## Accuracy and repair -/

/-- The rows of `audit_nav_history_metrics`: a row and what is recomputed for it. -/
def auditNavHistoryMetrics (navs : List NAVHistory) (cutoff : Option CivilDate) :
    Except Error (List (NAVHistory × Recomputed)) :=
  (targetNavs navs cutoff).mapM fun n => do
    let m ← recomputePeriodMetrics rt lrt source account navs n
    pure (n, m)

/-- The reconciled row of a date: the last one. -/
def reconcileByDate (rows : List ReconcileRow) (date : CivilDate) : Option ReconcileRow :=
  (rows.filter fun row => row.date = date).getLast?

/-- An item of `audit_nav_history_accuracy`: a row, what is recomputed, and its reconciliation. -/
structure AccuracyItem where
  /-- the row -/
  nav : NAVHistory
  /-- what the metrics audit recomputed -/
  metrics : Recomputed
  /-- the reconciled row of its date -/
  reconciled : Option ReconcileRow

/-- The items of `audit_nav_history_accuracy`. -/
def auditNavHistoryAccuracy (navs : List NAVHistory) (cutoff : Option CivilDate) :
    Except Error (List AccuracyItem) := do
  let metrics ← auditNavHistoryMetrics rt lrt source account navs cutoff
  let reconcile ← auditNavHistoryReconcile rt lrt source account navs cutoff
  pure (metrics.map fun item => ⟨item.1, item.2, reconcileByDate reconcile item.1.date⟩)

end

/-- `repair_candidates` -/
def repairCandidates (items : List AccuracyItem) : List AccuracyItem :=
  items.filter fun item => item.reconciled.map (·.status) = some .anomaly

/-- The fields of a repair; `pnl` is left alone in a row that does not follow its predecessor. -/
structure RepairFields where
  /-- `pnl` -/
  pnl : Option (Option Cents)
  /-- `mtd_nav_change` -/
  mtdNavChange : Option Micro
  /-- `mtd_pnl` -/
  mtdPnl : Option Cents
  /-- `ytd_nav_change` -/
  ytdNavChange : Option Micro
  /-- `ytd_pnl` -/
  ytdPnl : Option Cents
deriving DecidableEq

/-- The fields a repair candidate is repaired with, from the metrics row of its date. -/
def repairFields (item row : AccuracyItem) : RepairFields where
  pnl :=
    if "non_consecutive_daily_pnl" ∈ (item.reconciled.map (·.exemptions)).getD [] then none
    else some (item.reconciled.bind (·.expectedDailyPnl))
  mtdNavChange := if row.metrics.mtdReturnBase.isNone then none else row.metrics.mtdNavChange
  mtdPnl :=
    if row.metrics.mtdReturnBase.isNone ∨ row.metrics.prevMonthEnd.isNone then none
    else row.metrics.mtdPnl
  ytdNavChange := if row.metrics.ytdReturnBase.isNone then none else row.metrics.ytdNavChange
  ytdPnl :=
    if row.metrics.ytdReturnBase.isNone ∨ row.metrics.prevYearEnd.isNone then none
    else row.metrics.ytdPnl

/-- A row with the fields of a repair. No column of the table may be cleared, so a field without a
value is not sent. -/
def RepairFields.patch (fields : RepairFields) (n : NAVHistory) : NAVHistory :=
  { n with
    pnl := fields.pnl.join.or n.pnl
    mtdNavChange := fields.mtdNavChange.or n.mtdNavChange
    mtdPnl := fields.mtdPnl.or n.mtdPnl
    ytdNavChange := fields.ytdNavChange.or n.ytdNavChange
    ytdPnl := fields.ytdPnl.or n.ytdPnl }

/-- An item of `updates`. -/
structure RepairUpdate where
  /-- `record_id` -/
  recordId : Option String
  /-- `date` -/
  date : CivilDate
  /-- `fields` -/
  fields : RepairFields
deriving DecidableEq

/-- The metrics row of a date: the last one. -/
def metricsByDate (items : List AccuracyItem) (date : CivilDate) : Option AccuracyItem :=
  (items.filter fun item => item.nav.date = date).getLast?

/-- `updates` of `repair_nav_history_metrics`. -/
def repairUpdates (items : List AccuracyItem) : List RepairUpdate :=
  (repairCandidates items).filterMap fun item => (metricsByDate items item.nav.date).map fun row =>
    ⟨row.nav.recordId, row.nav.date, repairFields item row⟩

/-- A row after an update of a record. -/
def RepairUpdate.patch (update : RepairUpdate) (n : NAVHistory) : NAVHistory :=
  if n.recordId = update.recordId then update.fields.patch n else n

/-- The table after `repair_nav_history_metrics` without `dry_run`: every update is written under its
record id. -/
def repairNavHistoryMetrics (navs : List NAVHistory) (items : List AccuracyItem) :
    List NAVHistory :=
  (repairUpdates items).foldl (fun navs update => navs.map update.patch) navs

/-! ## Capital facts -/

/-- `period` -/
inductive CapitalPeriod
  | mtd
  | ytd
deriving DecidableEq

/-- The amounts of an answer of `CapitalFactsService.get`. -/
structure CapitalFacts where
  /-- `calendar_start` -/
  calendarStart : CivilDate
  /-- `anchor_date` -/
  anchorDate : CivilDate
  /-- `end_date` -/
  endDate : CivilDate
  /-- `opening_assets` -/
  openingAssets : Cents
  /-- `external_cash_flow` -/
  externalCashFlow : Cents
  /-- `period_pnl` -/
  periodPnl : Cents
  /-- `ending_assets` -/
  endingAssets : Cents
  /-- `stored_period_pnl` -/
  storedPnl : Option Cents
deriving DecidableEq

/-- `reconciliation["status"]` -/
inductive Reconciliation
  | notObserved
  | ok
  | mismatch
deriving DecidableEq

/-- `_RECONCILIATION_TOLERANCE`, in cents. -/
def reconciliationTolerance : Cents := 5

/-- `_pnl_reconciliation`. -/
def CapitalFacts.reconciliation (facts : CapitalFacts) : Reconciliation :=
  match facts.storedPnl with
  | none => .notObserved
  | some stored =>
    if |stored - facts.periodPnl| ≤ reconciliationTolerance then .ok else .mismatch

/-- The answer of `CapitalFactsService.get`. -/
inductive CapitalAnswer
  | unavailable (reason : String)
  | facts (facts : CapitalFacts)
deriving DecidableEq

/-- `_last_nav_between`. -/
def lastNavBetween (navs : List NAVHistory) (start stop : CivilDate) : Option NAVHistory :=
  ((sortNavs navs).filter fun nav => start ≤ nav.date ∧ nav.date ≤ stop).getLast?

/-- The first and the last day of a month. -/
def monthRange (month : YearMonth) : Option (CivilDate × CivilDate) := do
  let first ← CivilDate.make? month.year month.month 1
  let last ← CivilDate.make? month.year month.month (daysInMonth month.year month.month)
  pure (first, last)

/-- The first and the last day of a year. -/
def yearRange (year : Nat) : Option (CivilDate × CivilDate) := do
  let first ← CivilDate.make? year 1 1
  let last ← CivilDate.make? year 12 31
  pure (first, last)

/-- The range of the anchor and the start of the period, for the month that begins at a date. -/
def CapitalPeriod.ranges (period : CapitalPeriod) (targetStart : CivilDate) :
    Option ((CivilDate × CivilDate) × CivilDate) :=
  match period with
  | .mtd => (monthRange (NavIndex.prevMonth targetStart)).map fun anchor => (anchor, targetStart)
  | .ytd => do
    let anchor ← yearRange (targetStart.year - 1)
    let calendar ← yearRange targetStart.year
    pure (anchor, calendar.1)

/-- `anchor_reason` -/
def CapitalPeriod.anchorReason : CapitalPeriod → String
  | .mtd => "previous_month_anchor_missing"
  | .ytd => "previous_year_anchor_missing"

/-- The result a row stores for a period. -/
def CapitalPeriod.stored : CapitalPeriod → NAVHistory → Option Cents
  | .mtd, nav => nav.mtdPnl
  | .ytd, nav => nav.ytdPnl

section
variable (lrt : Ledger.Runtime) (source : LedgerSource) (account : String)

/-- `CapitalFactsService.get`, for a month that was read from `as_of_month`. -/
def capitalFacts (navs : List NAVHistory) (today : CivilDate) (period : CapitalPeriod)
    (month : YearMonth) : Except Error CapitalAnswer :=
  match monthRange month with
  | none => .error (.value "as_of_month must use YYYY-MM format")
  | some (targetStart, targetEnd) =>
    if today.year < month.year ∨ today.year = month.year ∧ today.month < month.month then
      .ok (.unavailable "requested_month_in_future")
    else
      match lastNavBetween navs targetStart (min targetEnd today) with
      | none => .ok (.unavailable "target_month_nav_missing")
      | some endingNav =>
        match period.ranges targetStart with
        | none => .error (.value "year is out of range")
        | some ((anchorStart, anchorEnd), calendarStart) =>
          match lastNavBetween navs anchorStart anchorEnd with
          | none => .ok (.unavailable period.anchorReason)
          | some anchorNav => do
            let external ← periodFlow lrt source account calendarStart endingNav.date
            pure (.facts
              { calendarStart := calendarStart
                anchorDate := anchorNav.date
                endDate := endingNav.date
                openingAssets := anchorNav.totalValue
                externalCashFlow := external
                periodPnl := endingNav.totalValue - anchorNav.totalValue - external
                endingAssets := endingNav.totalValue
                storedPnl := period.stored endingNav })

end

end PortfolioManagement.Nav
