import PortfolioManagement.Ledger.Queries
import PortfolioManagement.Nav.RecordNav

/-!
# The flows between two NAV dates

Every run reads the ledger again, and its gap flow is the sum of the completed flows after the
previous NAV date, up to its own. The dataset of a run starts on 1 January of the start year, so
the gap of the first run in the window leaves out the flows before that day.
-/

namespace PortfolioManagement.Nav

open Ledger (CashFlowDatasetSnapshot Representable inWindow windowRows inGap total deriveRows
  buildDataset)

/-! ## Runs -/

/-- One run of the NAV job for an account. -/
structure NavRun (rt : Runtime) where
  /-- the NAV date -/
  navDate : CivilDate
  /-- the run id -/
  runId : String
  /-- the valuation of the day -/
  valuation : PortfolioValuation
  /-- the write context -/
  context : NavWriteContext rt
  /-- the manual FX confirmations -/
  confirmations : String → Option Ledger.FxConfirmation
  /-- the effect gate -/
  service : Ledger.EffectService

section
variable (lrt : Ledger.Runtime) {rt : Runtime} (config : NavConfig) (account : String)
  (rows : List Ledger.RawCashFlowRecord)

/-- A run builds its dataset from the ledger and records its NAV. -/
def recordRun (navs : List NAVHistory) (run : NavRun rt) : Except NavRefusal NAVHistory := do
  let ds ← (buildDataset lrt rows run.confirmations
    ⟨account, run.navDate, run.runId, config.startYear⟩ run.service).mapError .failed
  recordNav lrt config account run.valuation run.navDate run.runId run.context navs ds

/-- The rows that runs record one after the other, each after the rows before it. -/
def recordRuns : List NAVHistory → List (NavRun rt) → Except NavRefusal (List NAVHistory)
  | _, [] => .ok []
  | navs, run :: rest => do
    let row ← recordRun lrt config account rows navs run
    let more ← recordRuns (navs ++ [row]) rest
    pure (row :: more)

end

/-- The gap flow a row was recorded with. -/
def recordedGap (r : NAVHistory) : Option Cents := (basisOf r).map (·.gapCashFlow)

/-! ## The gap of a dataset -/

/-- The flows a run counts, after the previous NAV date. -/
def countedIn (windowStart previous navDate : CivilDate) (facts : Ledger.CompletedCashFlowFacts) : Bool :=
  inWindow windowStart navDate facts && inGap (some previous) navDate facts.flowDate

section
variable {lrt : Ledger.Runtime} {rt : Runtime} {config : NavConfig} {account : String}
  {rows : List Ledger.RawCashFlowRecord}

theorem filter_windowRows (completed : List Ledger.CompletedCashFlowFacts)
    (windowStart previous navDate : CivilDate) :
    (windowRows completed windowStart navDate).filter
        (fun facts => inGap (some previous) navDate facts.flowDate) =
      completed.filter (countedIn windowStart previous navDate) := by
  rw [windowRows, List.filter_filter]
  congr 1
  funext facts
  rw [countedIn, Bool.and_comm]

/-- The gap of a summary is the plain sum of the flows it counts. -/
theorem gap_eq_total {ds : CashFlowDatasetSnapshot} {completed : List Ledger.CompletedCashFlowFacts}
    {windowStart previous : CivilDate}
    (hsums : ds.sums = Ledger.aggregateCompletedCashFlows completed windowStart ds.navDate)
    (hfits : Representable (windowRows completed windowStart ds.navDate)) :
    (ds.summary (some previous)).gap =
      total (completed.filter (countedIn windowStart previous ds.navDate)) := by
  have hdaily : ds.sums.daily =
      Ledger.sumsBy (·.flowDate) (windowRows completed windowStart ds.navDate) := by
    rw [hsums, Ledger.aggregate_eq]
  have hbound : (((ds.sums.daily.filter fun item => inGap (some previous) ds.navDate item.1).map
      fun item => item.2.natAbs).sum) < 10 ^ Decimal.precision := by
    refine lt_of_le_of_lt ?_ hfits
    rw [hdaily]
    exact ((List.filter_sublist.map _).sum_le_sum fun _ _ => Nat.zero_le _).trans
      (Ledger.natAbs_sumsBy_le _ hfits)
  rw [CashFlowDatasetSnapshot.summary, Ledger.foldl_addMoney _ hbound, hdaily,
    Ledger.sum_filter_sumsBy _ hfits (inGap (some previous) ds.navDate), filter_windowRows]

/-- What one run records after a previous row: its date, in the window, and the flows it counts. -/
theorem recordRun_spec {navs : List NAVHistory} {run : NavRun rt} {row previous : NAVHistory}
    {windowStart : CivilDate} (hstart : CivilDate.make? config.startYear 1 1 = some windowStart)
    (hprev : (NavIndex.build navs).findLatestBefore run.navDate = some previous)
    (h : recordRun lrt config account rows navs run = .ok row) :
    row.date = run.navDate ∧ windowStart ≤ run.navDate ∧
      ∃ gap, recordedGap row = some gap ∧
        (Representable (windowRows (deriveRows lrt rows (strip account)).completedRows windowStart
            run.navDate) →
          gap = total ((deriveRows lrt rows (strip account)).completedRows.filter
            (countedIn windowStart previous.date run.navDate))) := by
  simp only [recordRun, bind, Except.bind, Except.mapError] at h
  cases hds : buildDataset lrt rows run.confirmations
      ⟨account, run.navDate, run.runId, config.startYear⟩ run.service with
  | error exc => simp [hds] at h
  | ok ds =>
    simp only [hds] at h
    obtain ⟨hle, hdate, -, -, hsums⟩ := Ledger.buildDataset_frame hstart hds
    obtain ⟨resolved, -, hrecord⟩ := recordNav_ok h
    obtain ⟨p, evidence, -, hrecorded⟩ := checkedRecord_ok hrecord
    refine ⟨hrecorded.computed.date, hle, (summaryFor ds navs run.navDate).gap, ?_, fun hfits => ?_⟩
    · simp [recordedGap, hrecorded.basis, buildCashFlowBasis]
    · have hgap : (ds.summary (some previous.date)).gap = _ :=
        gap_eq_total (hdate ▸ hsums) (hdate ▸ hfits)
      rw [summaryFor, hprev]
      rw [hdate] at hgap
      exact hgap

end

/-! ## The gaps of a sequence of dates -/

/-- The gaps between dates: each with the date before it. -/
def gapWindows : CivilDate → List CivilDate → List (CivilDate × CivilDate)
  | _, [] => []
  | previous, d :: rest => (previous, d) :: gapWindows d rest

/-- The last of a date and later ones. -/
def lastDate (first : CivilDate) (dates : List CivilDate) : CivilDate := dates.getLastD first

section
variable {windowStart first : CivilDate} {dates : List CivilDate}

theorem lastDate_cons (d : CivilDate) : lastDate first (d :: dates) = lastDate d dates := by
  cases dates <;> rfl

theorem le_lastDate (h : (first :: dates).Pairwise (· < ·)) : first ≤ lastDate first dates := by
  induction dates generalizing first with
  | nil => exact le_rfl
  | cons d rest ih =>
    obtain ⟨hfirst, hrest⟩ := List.pairwise_cons.mp h
    rw [lastDate_cons]
    exact (hfirst d List.mem_cons_self).le.trans (ih hrest)

theorem countedIn_iff {previous navDate : CivilDate} {facts : Ledger.CompletedCashFlowFacts} :
    countedIn windowStart previous navDate facts = true ↔
      windowStart ≤ facts.flowDate ∧ previous < facts.flowDate ∧ facts.flowDate ≤ navDate := by
  simp only [countedIn, inWindow, inGap, Bool.and_eq_true, decide_eq_true_iff]
  exact ⟨fun h => ⟨h.1.1, h.2.1, h.2.2⟩, fun h => ⟨⟨h.1, h.2.2⟩, h.2.1, h.2.2⟩⟩

/-- How often the runs of some dates count a flow. -/
def timesCounted (windowStart first : CivilDate) (dates : List CivilDate)
    (facts : Ledger.CompletedCashFlowFacts) : Nat :=
  (gapWindows first dates).countP fun w => countedIn windowStart w.1 w.2 facts

/-- A flow after the first date, up to the last one and not before the window is counted once,
every other flow never. -/
theorem timesCounted_eq (h : (first :: dates).Pairwise (· < ·))
    (facts : Ledger.CompletedCashFlowFacts) :
    timesCounted windowStart first dates facts =
      if countedIn windowStart first (lastDate first dates) facts then 1 else 0 := by
  induction dates generalizing first with
  | nil =>
    have hnot : ¬ countedIn windowStart first (lastDate first []) facts = true := by
      rw [countedIn_iff]
      exact fun hin => absurd hin.2.2 (not_le.mpr hin.2.1)
    rw [if_neg hnot]
    rfl
  | cons d rest ih =>
    obtain ⟨hfirst, hrest⟩ := List.pairwise_cons.mp h
    have hlt := hfirst d List.mem_cons_self
    have hle := le_lastDate hrest
    rw [timesCounted, gapWindows, List.countP_cons, ← timesCounted, ih hrest, lastDate_cons]
    simp only [countedIn_iff]
    by_cases hwindow : windowStart ≤ facts.flowDate
    · by_cases hafter : first < facts.flowDate
      · rcases le_or_gt facts.flowDate d with hd | hd
        · simp [hwindow, hafter, hd, not_lt.mpr hd, hd.trans hle]
        · simp [hwindow, hafter, hd, not_le.mpr hd]
      · have hnot : ¬ d < facts.flowDate := fun hd => hafter (hlt.trans hd)
        simp [hafter, hnot]
    · simp [hwindow]

/-- The flows of two neighbouring gaps are those of the two together. -/
theorem total_filter_countedIn {completed : List Ledger.CompletedCashFlowFacts} {d last : CivilDate}
    (hlt : first < d) (hle : d ≤ last) :
    total (completed.filter (countedIn windowStart first last)) =
      total (completed.filter (countedIn windowStart first d)) +
        total (completed.filter (countedIn windowStart d last)) := by
  induction completed with
  | nil => rfl
  | cons facts completed ih =>
    have hcons : ∀ p : Ledger.CompletedCashFlowFacts → Bool,
        total ((facts :: completed).filter p) =
          (if p facts then facts.cnyAmount else 0) + total (completed.filter p) := by
      intro p
      rw [List.filter_cons]
      split <;> simp [total]
    have hsplit : (if countedIn windowStart first last facts then facts.cnyAmount else 0) =
        (if countedIn windowStart first d facts then facts.cnyAmount else 0) +
          if countedIn windowStart d last facts then facts.cnyAmount else 0 := by
      simp only [countedIn_iff]
      by_cases hwindow : windowStart ≤ facts.flowDate
      · by_cases hafter : first < facts.flowDate
        · rcases le_or_gt facts.flowDate d with hd | hd
          · simp [hwindow, hafter, hd, not_lt.mpr hd, hd.trans hle]
          · simp [hwindow, hafter, hd, not_le.mpr hd]
        · have hnot : ¬ d < facts.flowDate := fun hd => hafter (hlt.trans hd)
          simp [hafter, hnot]
      · simp [hwindow]
    rw [hcons, hcons, hcons, ih, hsplit]
    ring

/-- The flows of all gaps are those between the first and the last date. -/
theorem sum_gapWindows (h : (first :: dates).Pairwise (· < ·))
    (completed : List Ledger.CompletedCashFlowFacts) :
    ((gapWindows first dates).map fun w =>
      total (completed.filter (countedIn windowStart w.1 w.2))).sum =
      total (completed.filter (countedIn windowStart first (lastDate first dates))) := by
  induction dates generalizing first with
  | nil =>
    have hnil : completed.filter (countedIn windowStart first (lastDate first [])) = [] := by
      rw [List.filter_eq_nil_iff]
      intro facts _
      rw [countedIn_iff]
      exact fun hin => absurd hin.2.2 (not_le.mpr hin.2.1)
    rw [hnil]
    rfl
  | cons d rest ih =>
    obtain ⟨hfirst, hrest⟩ := List.pairwise_cons.mp h
    rw [gapWindows, List.map_cons, List.sum_cons, ih hrest, lastDate_cons,
      total_filter_countedIn (hfirst d List.mem_cons_self) (le_lastDate hrest)]

end

/-! ## The gaps of a sequence of runs -/

section
variable {lrt : Ledger.Runtime} {rt : Runtime} {config : NavConfig} {account : String}
  {rows : List Ledger.RawCashFlowRecord} {navs recorded : List NAVHistory}
  {runs : List (NavRun rt)} {windowStart first : CivilDate}

/-- The last row before a later date, where the latest row is known. -/
theorem findLatestBefore_latest {d : CivilDate} (hlatest : ∃ nav ∈ navs, nav.date = first)
    (hle : ∀ nav ∈ navs, nav.date ≤ first) (hlt : first < d) :
    ∃ previous, (NavIndex.build navs).findLatestBefore d = some previous ∧
      previous.date = first := by
  obtain ⟨latest, hmem, hdate⟩ := hlatest
  cases hfind : (NavIndex.build navs).findLatestBefore d with
  | none => exact absurd (hdate ▸ hlt) (findLatestBefore_eq_none.mp hfind latest hmem)
  | some previous =>
    obtain ⟨hprevious, -, hmax⟩ := findLatestBefore_spec hfind
    exact ⟨previous, rfl, le_antisymm (hle previous hprevious)
      (hdate ▸ hmax latest hmem (hdate ▸ hlt))⟩

/-- Every run of a sequence counts the flows of its gap. -/
theorem recordRuns_spec (hstart : CivilDate.make? config.startYear 1 1 = some windowStart)
    (hlatest : ∃ nav ∈ navs, nav.date = first) (hle : ∀ nav ∈ navs, nav.date ≤ first)
    (hdates : (first :: runs.map (·.navDate)).Pairwise (· < ·))
    (h : recordRuns lrt config account rows navs runs = .ok recorded) :
    List.Forall₂ (fun row w => windowStart ≤ w.2 ∧
        ∃ gap, recordedGap row = some gap ∧
          (Representable (windowRows (deriveRows lrt rows (strip account)).completedRows windowStart
              w.2) →
            gap = total ((deriveRows lrt rows (strip account)).completedRows.filter
              (countedIn windowStart w.1 w.2))))
      recorded (gapWindows first (runs.map (·.navDate))) := by
  induction runs generalizing navs first recorded with
  | nil =>
    cases h
    exact .nil
  | cons run rest ih =>
    obtain ⟨hfirst, hrest⟩ := List.pairwise_cons.mp hdates
    have hlt : first < run.navDate := hfirst _ List.mem_cons_self
    obtain ⟨previous, hprev, hdate⟩ := findLatestBefore_latest hlatest hle hlt
    simp only [recordRuns, bind, Except.bind] at h
    cases hrow : recordRun lrt config account rows navs run with
    | error refusal => simp [hrow] at h
    | ok row =>
      cases hmore : recordRuns lrt config account rows (navs ++ [row]) rest with
      | error refusal => simp [hrow, hmore] at h
      | ok more =>
        simp only [hrow, hmore, pure, Except.pure, Except.ok.injEq] at h
        subst h
        obtain ⟨hrowDate, hwindow, hgap⟩ := recordRun_spec hstart hprev hrow
        rw [hdate] at hgap
        refine .cons ⟨hwindow, hgap⟩ (ih ⟨row, by simp, hrowDate⟩ (fun nav hnav => ?_) hrest hmore)
        rcases List.mem_append.mp hnav with hold | hnew
        · exact (hle nav hold).trans hlt.le
        · rw [List.mem_singleton.mp hnew, hrowDate]

/-- Every completed flow after the first date, up to the last one, is counted by exactly one run. -/
def EachFlowOnce (windowStart first : CivilDate) (dates : List CivilDate)
    (completed : List Ledger.CompletedCashFlowFacts) : Prop :=
  ∀ facts ∈ completed, first < facts.flowDate → facts.flowDate ≤ lastDate first dates →
    timesCounted windowStart first dates facts = 1

/-- No completed flow lies between the first date and the start of the window. -/
def NoFlowBeforeWindow (windowStart first : CivilDate) (dates : List CivilDate)
    (completed : List Ledger.CompletedCashFlowFacts) : Prop :=
  ∀ facts ∈ completed, first < facts.flowDate → facts.flowDate ≤ lastDate first dates →
    windowStart ≤ facts.flowDate

/-- The flows after a date, up to another one. -/
def flowsBetween (first last : CivilDate) (completed : List Ledger.CompletedCashFlowFacts) :
    List Ledger.CompletedCashFlowFacts :=
  completed.filter fun facts => first < facts.flowDate ∧ facts.flowDate ≤ last

theorem eachFlowOnce_iff {dates : List CivilDate}
    {completed : List Ledger.CompletedCashFlowFacts}
    (hdates : (first :: dates).Pairwise (· < ·)) :
    EachFlowOnce windowStart first dates completed ↔
      NoFlowBeforeWindow windowStart first dates completed := by
  refine forall₄_congr fun facts _ hafter hbefore => ?_
  rw [timesCounted_eq hdates]
  by_cases hwindow : windowStart ≤ facts.flowDate
  · simp [countedIn_iff.mpr ⟨hwindow, hafter, hbefore⟩, hwindow]
  · have hnot : ¬ countedIn windowStart first (lastDate first dates) facts = true :=
      fun hin => hwindow (countedIn_iff.mp hin).1
    simp [hnot, hwindow]

theorem le_lastDate_of_mem {dates : List CivilDate} (h : (first :: dates).Pairwise (· < ·)) :
    ∀ w ∈ gapWindows first dates, w.2 ≤ lastDate first dates := by
  induction dates generalizing first with
  | nil => exact fun w hw => absurd hw List.not_mem_nil
  | cons d rest ih =>
    obtain ⟨-, hrest⟩ := List.pairwise_cons.mp h
    intro w hw
    rw [lastDate_cons]
    rcases List.mem_cons.mp hw with rfl | hw
    · exact le_lastDate hrest
    · exact ih hrest w hw

/-- The recorded gaps of a sequence of runs whose flows fit the context. -/
theorem recordedGaps_eq (hstart : CivilDate.make? config.startYear 1 1 = some windowStart)
    (hlatest : ∃ nav ∈ navs, nav.date = first) (hle : ∀ nav ∈ navs, nav.date ≤ first)
    (hdates : (first :: runs.map (·.navDate)).Pairwise (· < ·))
    (h : recordRuns lrt config account rows navs runs = .ok recorded)
    (hfits : Representable (windowRows (deriveRows lrt rows (strip account)).completedRows
      windowStart (lastDate first (runs.map (·.navDate))))) :
    recorded.map recordedGap = (gapWindows first (runs.map (·.navDate))).map fun w =>
      some (total ((deriveRows lrt rows (strip account)).completedRows.filter
        (countedIn windowStart w.1 w.2))) := by
  have hbound := le_lastDate_of_mem hdates
  have hspec := recordRuns_spec hstart hlatest hle hdates h
  generalize gapWindows first (runs.map (·.navDate)) = windows at hbound hspec ⊢
  clear h
  induction hspec with
  | nil => rfl
  | @cons row w more windows hrow _ ih =>
    obtain ⟨-, gap, hgap, htotal⟩ := hrow
    rw [List.map_cons, List.map_cons, ih fun w' hw' => hbound w' (List.mem_cons_of_mem _ hw'), hgap,
      htotal (Ledger.representable_of_le (hbound w List.mem_cons_self) hfits)]

/-- The flows that are counted are all of them, when none lies before the window. -/
theorem filter_countedIn_eq {dates : List CivilDate}
    {completed : List Ledger.CompletedCashFlowFacts}
    (h : NoFlowBeforeWindow windowStart first dates completed) :
    completed.filter (countedIn windowStart first (lastDate first dates)) =
      flowsBetween first (lastDate first dates) completed := by
  refine List.filter_congr fun facts hmem => ?_
  rw [Bool.eq_iff_iff, countedIn_iff, decide_eq_true_iff]
  exact ⟨fun hin => hin.2, fun hin => ⟨h facts hmem hin.1 hin.2, hin⟩⟩

end

/-! ## A deposit on the last day of the year -/

/-- A manual write of a date. -/
def manualContext (rt : Runtime) (navDate : CivilDate) : NavWriteContext rt where
  status := .manual
  writer := .navRecord
  writeReason := "direct_nav_record"
  navDate := navDate
  valuationAsOf := none
  runId := none
  allowed := List.mem_cons_self
  reason := by decide +kernel
  asOf := rfl
  run := fun _ h => absurd h (by simp)

/-- A run of a day on which the account holds 150 in cash. -/
def cashRun (navDate : CivilDate) : NavRun depositRuntime where
  navDate := navDate
  runId := "run-1"
  valuation := cashValuation 150
  context := manualContext depositRuntime navDate
  confirmations _ := none
  service := none

/-- The window starts in 2025. -/
def config2025 : NavConfig := ⟨2025, 0⟩

/-- The digest and the text of the deposit of `yearEndRow`. -/
def yearEndRuntime : Ledger.Runtime where
  dedupHash text :=
    if text = "a|某券商|2024-12-31|DEPOSIT|50.0|CNY" then "da63bda86978412e" else ""
  floatText _ := "50.0"
  isoDate _ := none
  dateError _ := ""

/-- A deposit of 50 on 31 December 2024. -/
def yearEndRow : Ledger.RawCashFlowRecord :=
  .make "cf_1"
    [("flow_date", .date ⟨2024, 12, 31, by decide⟩), ("account", .text "a"),
      ("broker", .text "某券商"), ("amount", .decimal (.ofInt 50)), ("currency", .text "CNY"),
      ("flow_type", .text "DEPOSIT"), ("cny_amount", .decimal (.ofInt 50)),
      ("exchange_rate", .decimal (.ofInt 1)), ("dedup_key", .text "da63bda86978412e"),
      ("source", .text "test")]

end PortfolioManagement.Nav
