import PortfolioManagement.NavRepair.Bases
import PortfolioManagement.NavRepair.Common

/-!
# A calculation on other rows

A calculation whose inputs differ only in the initial value and in the ends of the years gives the same
numbers; in its details the initial value, the appreciation since then and the years differ. So a row
that passed its check is recomputed to the same numbers as long as the rows it depends on stay.
-/

namespace PortfolioManagement.NavRepair

open Nav

/-! ## The record -/

/-- The details that depend on the initial value and on the ends of the years. -/
structure Rebasing where
  /-- `initial_value` -/
  initialValue : Option Cents
  /-- `cumulative_appreciation` -/
  cumulativeAppreciation : Cents
  /-- the years -/
  years : Items String YearDetails

/-- The details of the years. -/
def yearsOf (initialValue : Option ℚ) (yearlyData : Items String YearData) :
    Items String YearDetails :=
  yearlyData.map fun item => (item.1,
    { navChange := item.2.navChange.map quantizeNav
      appreciation :=
        (((appreciations initialValue none (sortedYears yearlyData)).lookup item.1).getD none).map money
      cashFlow := money item.2.cashFlow })

/-- What the details of a calculation hold of its initial value and of its years. -/
def rebasingOf (totalValue : ℚ) (x : PeriodInputs) (yearlyData : Items String YearData) : Rebasing where
  initialValue := x.initialValue.map money
  cumulativeAppreciation := money (cumulativeAppreciationOf totalValue x)
  years := yearsOf x.initialValue yearlyData

/-- The record with these details replaced. -/
def rebased (r : NAVHistory) (b : Rebasing) : NAVHistory :=
  { r with
    details := r.details.map fun details =>
      { details with
        initialValue := b.initialValue
        cumulativeAppreciation := some b.cumulativeAppreciation
        years := b.years } }

section
variable (rt : Runtime) {today : CivilDate} {account : String} {v : PortfolioValuation}
  {p : NavValuationProjection} {yearlyData yearlyData' : Items String YearData} {startYear : Nat}
  {x : PeriodInputs} {r : NAVHistory}

/-- The end of the year before the first one. -/
def firstBaseOf (yearlyData : Items String YearData) (startYear : Nat) : Option NAVHistory :=
  (yearlyData.lookup (toString startYear)).bind (·.prevEnd)

theorem computeNavRecord_rebased (hp : projectValuation v = .ok p) (initialValue : Option ℚ)
    (hbase : firstBaseOf yearlyData' startYear = firstBaseOf yearlyData startYear)
    (h : computeNavRecord rt today account v yearlyData startYear x = .ok r) :
    computeNavRecord rt today account v yearlyData' startYear { x with initialValue := initialValue } =
      .ok (rebased r (rebasingOf p.totalValue.toDecimal { x with initialValue := initialValue }
        yearlyData')) := by
  unfold firstBaseOf at hbase
  unfold computeNavRecord calcNavMetrics at h ⊢
  rw [hp] at h ⊢
  simp only [bind, Except.bind, pure, Except.pure] at h ⊢
  cases hevidence : previousEvidence x.lastNav with
  | error e =>
    simp only [hevidence] at h
    cases h
  | ok evidence =>
    simp only [hevidence] at h ⊢
    rw [hbase]
    cases hcagr : cagrOf rt today (navOf p.totalValue.toDecimal
        (sharesOf p.totalValue.toDecimal x.effectiveCashFlow evidence))
        ((yearlyData.lookup (toString startYear)).bind (·.prevEnd)) with
    | error e =>
      simp only [hcagr] at h
      cases h
    | ok cagr =>
      simp only [hcagr] at h
      have heffective : ({ x with initialValue := initialValue } : PeriodInputs).effectiveCashFlow =
          x.effectiveCashFlow := rfl
      rw [heffective, hcagr]
      cases h
      rfl

end

/-! ## The check -/

section
variable (rt : Runtime) {r : NAVHistory} {x : PeriodInputs} {dataset : Option DatasetDetails}
  {requireFinality : Option Bool}

/-- The appreciation of a calculation is the one that the check expects, unless the initial value is
zero. -/
theorem cumulativeErrors_eq_nil {totalValue : Cents} (htotal : r.totalValue = totalValue)
    (hdetails : r.details.bind (·.cumulativeAppreciation) =
      some (money (cumulativeAppreciationOf totalValue.toDecimal x)))
    (hinitial : x.initialValue ≠ some 0) : cumulativeErrors rt r x = [] := by
  unfold cumulativeErrors
  rw [hdetails]
  cases hx : x.initialValue with
  | none => rfl
  | some initial =>
    have hne : initial ≠ 0 := fun h => hinitial (h ▸ hx)
    simp only [cumulativeAppreciationOf, hx, if_neg hne, htotal, failing_eq_nil]
    unfold moneyEqual
    simp

/-- A record with other details passes its check when they have the same status and provenance. -/
theorem navErrorTexts_withDetails {recordId : Option String} {details : Option NavDetails}
    (hstatus : details.bind (·.status) = statusOf r)
    (hfinality : details.bind (·.finality) = finalityOf r)
    (hbasis : details.bind (·.cashFlowBasis) = basisOf r) (initialValue : Option ℚ)
    (hcumulative : cumulativeErrors rt { r with recordId := recordId, details := details }
      { x with initialValue := initialValue } = [])
    (h : navErrorTexts rt r x dataset requireFinality = []) :
    navErrorTexts rt { r with recordId := recordId, details := details }
      { x with initialValue := initialValue } dataset requireFinality = [] := by
  have hclosed : isClosed { r with recordId := recordId, details := details } = isClosed r :=
    congrArg (fun status => decide (upper (textOr status) = "CLOSED")) hstatus
  have hfin : finalityOf { r with recordId := recordId, details := details } = finalityOf r := hfinality
  have hbas : basisOf { r with recordId := recordId, details := details } = basisOf r := hbasis
  have hnav : navErrors rt { r with recordId := recordId, details := details } = navErrors rt r := by
    unfold navErrors
    rw [hclosed]
    rfl
  have hshare : shareErrors rt { r with recordId := recordId, details := details }
      { x with initialValue := initialValue } = shareErrors rt r x := by
    unfold shareErrors
    rw [hclosed]
    rfl
  have hexpected : expectedPnl { r with recordId := recordId, details := details }
      { x with initialValue := initialValue } = expectedPnl r x := by
    unfold expectedPnl
    rw [hclosed]
    rfl
  have hpnl : pnlErrors rt { r with recordId := recordId, details := details }
      { x with initialValue := initialValue } requireFinality = pnlErrors rt r x requireFinality := by
    unfold pnlErrors
    rw [hfin, hexpected]
  have hbasisErrors : basisErrors { r with recordId := recordId, details := details }
      { x with initialValue := initialValue } dataset requireFinality =
        basisErrors r x dataset requireFinality := by
    unfold basisErrors
    rw [hbas]
    rfl
  have hfinErrors : finalityErrors rt { r with recordId := recordId, details := details }
      requireFinality = finalityErrors rt r requireFinality := by
    unfold finalityErrors
    rw [hfin, hclosed]
  unfold navErrorTexts at h ⊢
  rw [hclosed, hnav, hshare, hpnl, hbasisErrors, hcumulative, hfinErrors]
  simp only [List.append_eq_nil_iff] at h ⊢
  obtain ⟨⟨⟨⟨⟨⟨⟨⟨⟨⟨⟨⟨href, htot⟩, hfund⟩, hweight⟩, hn⟩, hflow⟩, hs⟩, hp⟩, hb⟩, hchange⟩, hperiod⟩, -⟩, hf⟩ := h
  exact ⟨⟨⟨⟨⟨⟨⟨⟨⟨⟨⟨⟨href, htot⟩, hfund⟩, hweight⟩, hn⟩, hflow⟩, hs⟩, hp⟩, hb⟩, hchange⟩, hperiod⟩, trivial⟩, hf⟩

end

/-! ## The checked record -/

theorem withProvenance_rebased (r : NAVHistory) (b : Rebasing) (finality : FinalityPayload)
    (basis : CashFlowBasis) :
    withProvenance (rebased r b) finality basis = rebased (withProvenance r finality basis) b := by
  unfold withProvenance rebased
  cases r.details <;> rfl

section
variable {rt : Runtime} {config : NavConfig} {account : String} {v : PortfolioValuation}
  {p : NavValuationProjection} {today : CivilDate} {context : NavWriteContext rt}
  {navs navs' : List NAVHistory} {ds : Ledger.CashFlowDatasetSnapshot} {r : NAVHistory}

/-- The inputs of a calculation on some rows. -/
def inputsOn (config : NavConfig) (today : CivilDate) (ds : Ledger.CashFlowDatasetSnapshot)
    (navs : List NAVHistory) : PeriodInputs :=
  periodInputs config navs today (summaryFor ds navs today)

/-- The years of a calculation on some rows. -/
def yearlyOn (config : NavConfig) (today : CivilDate) (ds : Ledger.CashFlowDatasetSnapshot)
    (navs : List NAVHistory) : Items String YearData :=
  yearlyDataOf (NavIndex.build navs) config.startYear today (summaryFor ds navs today)

/-- What the details of a calculation on some rows hold of the initial value and of the years. -/
def rebasingOn (config : NavConfig) (totalValue : Cents) (today : CivilDate)
    (ds : Ledger.CashFlowDatasetSnapshot) (navs : List NAVHistory) : Rebasing :=
  rebasingOf totalValue.toDecimal (inputsOn config today ds navs) (yearlyOn config today ds navs)

/-- Two series give a day the same base rows, up to the initial value. -/
structure SameBases (config : NavConfig) (today : CivilDate) (ds : Ledger.CashFlowDatasetSnapshot)
    (navs navs' : List NAVHistory) : Prop where
  /-- the rows the numbers depend on -/
  inputs : inputsOn config today ds navs' =
    { inputsOn config today ds navs with initialValue := getInitialValue config navs' }
  /-- the base of the growth rate -/
  firstBase : firstBaseOf (yearlyOn config today ds navs') config.startYear =
    firstBaseOf (yearlyOn config today ds navs) config.startYear
  /-- the initial value is the same, or it is not zero -/
  initial : getInitialValue config navs' = getInitialValue config navs ∨
    getInitialValue config navs' ≠ some 0

theorem SameBases.summary (h : SameBases config today ds navs navs') :
    summaryFor ds navs' today = summaryFor ds navs today := by
  have hlast : (NavIndex.build navs').findLatestBefore today =
      (NavIndex.build navs).findLatestBefore today := congrArg PeriodInputs.lastNav h.inputs
  unfold summaryFor
  rw [hlast]

/-- The check of a record on the other rows finds the appreciation it expects. -/
theorem cumulativeErrors_of_sameBases {r' : NAVHistory} {totalValue : Cents}
    (hbases : SameBases config today ds navs navs') (htotal : r.totalValue = totalValue)
    (hdetails : r.details.bind (·.cumulativeAppreciation) = some (money
      (cumulativeAppreciationOf totalValue.toDecimal (inputsOn config today ds navs))))
    (htotal' : r'.totalValue = totalValue)
    (hdetails' : r'.details.bind (·.cumulativeAppreciation) = some (money
      (cumulativeAppreciationOf totalValue.toDecimal (inputsOn config today ds navs'))))
    (h : cumulativeErrors rt r (inputsOn config today ds navs) = []) :
    cumulativeErrors rt r' (inputsOn config today ds navs') = [] := by
  rcases hbases.initial with hsame | hzero
  · -- the inputs are the same
    have hinputs : inputsOn config today ds navs' = inputsOn config today ds navs := by
      rw [hbases.inputs, hsame]
      rfl
    rw [hinputs] at hdetails' ⊢
    unfold cumulativeErrors at h ⊢
    rw [hdetails, htotal] at h
    rw [hdetails', htotal']
    exact h
  · exact cumulativeErrors_eq_nil rt htotal' hdetails' hzero

theorem statusOf_rebased (r : NAVHistory) (b : Rebasing) :
    (rebased r b).details.bind (·.status) = statusOf r := by
  unfold rebased statusOf
  cases r.details <;> rfl

theorem finalityOf_rebased (r : NAVHistory) (b : Rebasing) :
    (rebased r b).details.bind (·.finality) = finalityOf r := by
  unfold rebased finalityOf
  cases r.details <;> rfl

theorem basisOf_rebased (r : NAVHistory) (b : Rebasing) :
    (rebased r b).details.bind (·.cashFlowBasis) = basisOf r := by
  unfold rebased basisOf
  cases r.details <;> rfl

/-- The rebased record passes the check on the other rows. -/
theorem navErrorTexts_rebased (hbases : SameBases config today ds navs navs')
    {dataset : Option DatasetDetails} {requireFinality : Option Bool}
    (htotal : r.totalValue = p.totalValue)
    (hdetails : r.details.bind (·.cumulativeAppreciation) = some (money
      (cumulativeAppreciationOf p.totalValue.toDecimal (inputsOn config today ds navs))))
    (h : navErrorTexts rt r (inputsOn config today ds navs) dataset requireFinality = []) :
    navErrorTexts rt (rebased r (rebasingOn config p.totalValue today ds navs'))
      (inputsOn config today ds navs') dataset requireFinality = [] := by
  have hold : cumulativeErrors rt r (inputsOn config today ds navs) = [] := by
    unfold navErrorTexts at h
    exact (List.append_eq_nil_iff.mp (List.append_eq_nil_iff.mp h).1).2
  have hsome : ∃ details, r.details = some details := by
    cases hr : r.details with
    | none =>
      rw [hr] at hdetails
      cases hdetails
    | some details => exact ⟨details, rfl⟩
  obtain ⟨details, hr⟩ := hsome
  have hrebased : (rebased r (rebasingOn config p.totalValue today ds navs')).details.bind
      (·.cumulativeAppreciation) = some (money
        (cumulativeAppreciationOf p.totalValue.toDecimal (inputsOn config today ds navs'))) := by
    unfold rebased
    rw [hr]
    rfl
  have htotal' : (rebased r (rebasingOn config p.totalValue today ds navs')).totalValue =
      p.totalValue := htotal
  have hnew := cumulativeErrors_of_sameBases hbases htotal hdetails htotal' hrebased hold
  rw [hbases.inputs] at hnew ⊢
  exact navErrorTexts_withDetails rt (statusOf_rebased r _) (finalityOf_rebased r _)
    (basisOf_rebased r _) (getInitialValue config navs') hnew h

/-- A record that passed its check on some rows is the same on others with the same bases, but for the
rebased details. -/
theorem checkedRecord_rebased (hp : projectValuation v = .ok p)
    (hbases : SameBases config today ds navs navs')
    (h : checkedRecord rt config account v today context navs ds = .ok r) :
    checkedRecord rt config account v today context navs' ds =
      .ok (rebased r (rebasingOn config p.totalValue today ds navs')) := by
  unfold checkedRecord at h
  obtain ⟨r₀, hr₀, h⟩ := except_bind_ok h
  obtain ⟨u, hcheck, h⟩ := except_bind_ok h
  cases h
  obtain ⟨p', evidence, hp', -, hcomputed⟩ := computeNavRecord_computed hr₀
  obtain rfl : p' = p := Except.ok.inj (hp'.symm.trans hp)
  have hcomputed' := hcomputed.withProvenance context.toDetails (buildCashFlowBasis today
    (inputsOn config today ds navs).lastNav (inputsOn config today ds navs).dailyCashFlow
    (summaryFor ds navs today).gap.toDecimal (some (datasetDetails ds)))
  -- the calculation on the other rows
  have hr' : computeNavRecord rt today account v (yearlyOn config today ds navs') config.startYear
      (inputsOn config today ds navs') =
        .ok (rebased r₀ (rebasingOn config p'.totalValue today ds navs')) := by
    have hrebased := computeNavRecord_rebased rt hp (getInitialValue config navs') hbases.firstBase hr₀
    unfold rebasingOn
    rw [hbases.inputs]
    exact hrebased
  have hbasis : buildCashFlowBasis today (inputsOn config today ds navs').lastNav
      (inputsOn config today ds navs').dailyCashFlow (summaryFor ds navs' today).gap.toDecimal
      (some (datasetDetails ds)) =
        buildCashFlowBasis today (inputsOn config today ds navs).lastNav
          (inputsOn config today ds navs).dailyCashFlow (summaryFor ds navs today).gap.toDecimal
          (some (datasetDetails ds)) := by
    rw [hbases.inputs, hbases.summary]
  -- its check
  have hpassed := navErrorTexts_rebased hbases hcomputed'.totalValue hcomputed'.cumulativeAppreciation
    ((assertNavInvariants_ok_iff rt).mp hcheck)
  have hbegin : checkedRecord rt config account v today context navs' ds =
      (do
        let r ← computeNavRecord rt today account v (yearlyOn config today ds navs') config.startYear
          (inputsOn config today ds navs')
        let r' := withProvenance r context.toDetails (buildCashFlowBasis today
          (inputsOn config today ds navs').lastNav (inputsOn config today ds navs').dailyCashFlow
          (summaryFor ds navs' today).gap.toDecimal (some (datasetDetails ds)))
        assertNavInvariants rt r' (inputsOn config today ds navs') (some (datasetDetails ds)) (some true)
        pure r') := rfl
  rw [hbegin, hr', hbasis]
  simp only [bind, Except.bind, pure, Except.pure, withProvenance_rebased]
  rw [(assertNavInvariants_ok_iff rt).mpr hpassed]
  rfl

end

/-! ## The recomputed row -/

/-- What the loop over the rows keeps: the latest row so far. -/
theorem foldl_latest {rows : List NAVHistory} {best : Option NAVHistory} {last : NAVHistory}
    (h : rows.foldl (fun best nav =>
      some (best.elim nav fun b => if b.date < nav.date then nav else b)) best = some last) :
    (last ∈ rows ∨ best = some last) ∧ (∀ other ∈ rows, other.date ≤ last.date) ∧
      ∀ b, best = some b → b.date ≤ last.date := by
  induction rows generalizing best with
  | nil =>
    refine ⟨.inr h, by simp, fun b hb => ?_⟩
    obtain rfl := Option.some.inj (hb.symm.trans h)
    exact le_rfl
  | cons a rest ih =>
    obtain ⟨hmem, hle, hbest⟩ := ih h
    have ha := hbest _ rfl
    have hall : ∀ {b : NAVHistory}, a.date ≤ b.date → b.date ≤ last.date →
        ∀ other ∈ a :: rest, other.date ≤ last.date := fun hab hb other hother =>
      (List.mem_cons.mp hother).elim (fun h => h ▸ hab.trans hb) (hle other)
    have hnew : last ∈ rest ∨ some a = some last → last ∈ a :: rest := fun hor =>
      hor.elim (List.mem_cons_of_mem _) fun h => Option.some.inj h ▸ List.mem_cons_self
    cases best with
    | none => exact ⟨.inl (hnew hmem), hall le_rfl ha, by simp⟩
    | some b =>
      simp only [Option.elim_some] at hmem ha
      by_cases hlt : b.date < a.date
      · rw [if_pos hlt] at hmem ha
        refine ⟨.inl (hnew hmem), hall le_rfl ha, fun b' hb' => ?_⟩
        exact Option.some.inj hb' ▸ hlt.le.trans ha
      · rw [if_neg hlt] at hmem ha
        refine ⟨hmem.imp_left (List.mem_cons_of_mem _), hall (not_lt.mp hlt) ha, fun b' hb' => ?_⟩
        exact Option.some.inj hb' ▸ ha

/-- Of rows with distinct dates the loop finds the row that the index finds. -/
theorem lastNavBefore_eq {navs : List NAVHistory} (hdates : (navs.map (·.date)).Nodup)
    (d : CivilDate) : lastNavBefore navs d = (NavIndex.build navs).findLatestBefore d := by
  cases hlast : lastNavBefore navs d with
  | none =>
    refine (findLatestBefore_eq_none.mpr fun nav hnav hlt => ?_).symm
    have hmem : nav ∈ navs.filter fun nav => nav.date < d :=
      List.mem_filter.mpr ⟨hnav, decide_eq_true hlt⟩
    unfold lastNavBefore at hlast
    obtain ⟨front, back, hsplit⟩ := List.append_of_mem hmem
    have hsome : ∀ (l : List NAVHistory) (b : NAVHistory), l.foldl (fun best nav =>
        some (best.elim nav fun b => if b.date < nav.date then nav else b)) (some b) ≠ none := by
      intro l
      induction l with
      | nil => exact fun b => by simp
      | cons a rest ih => exact fun b => ih _
    rw [hsplit, List.foldl_append, List.foldl_cons] at hlast
    exact hsome _ _ hlast
  | some nav =>
    obtain ⟨hmem, hle, -⟩ := foldl_latest hlast
    obtain ⟨hin, hlt⟩ := List.mem_filter.mp (hmem.resolve_right (by simp))
    have hbefore := of_decide_eq_true hlt
    cases hfind : (NavIndex.build navs).findLatestBefore d with
    | none => exact absurd hbefore (findLatestBefore_eq_none.mp hfind nav hin)
    | some found =>
      obtain ⟨hfound, hfoundlt, hmax⟩ := findLatestBefore_spec hfind
      have hfoundle := hle found (List.mem_filter.mpr ⟨hfound, decide_eq_true hfoundlt⟩)
      exact congrArg some (eq_of_key_eq hdates hin hfound
        (le_antisymm (hmax nav hin hbefore) hfoundle))

section
variable {lrt : Ledger.Runtime} {rt : Runtime} {context : RepairContext} {gate : Ledger.EffectService}
  {observed observed' candidate : FreshNavRow} {navs navs' : List NAVHistory} {runId : String}
  {ds : Ledger.CashFlowDatasetSnapshot} {valuation : PortfolioValuation} {calculated : NAVHistory}
  {p : NavValuationProjection} {d : CivilDate}

/-- The inputs of the check are those of the calculation. -/
theorem repairInputs_eq (hdates : (navs.map (·.date)).Nodup) :
    repairInputs context navs d ds = inputsOn context.config d ds navs := by
  unfold repairInputs inputsOn summaryFor
  rw [lastNavBefore_eq hdates]
  rfl

/-- A recorded row of a repair. -/
theorem recordRepairedNav_ok
    (h : recordRepairedNav lrt rt context valuation d runId navs ds = .ok calculated) :
    ∃ resolved : NavWriteContext rt,
      (maintenanceContext rt d runId).mapError NavRefusal.failed >>= (fun writeContext =>
        officialScope lrt context.config context.account runId d writeContext ds) = .ok resolved ∧
      (∀ nav ∈ navs, nav.account = context.account) ∧ (navs.map (·.date)).Nodup ∧
      checkedRecord rt context.config context.account valuation d resolved navs ds = .ok calculated := by
  unfold recordRepairedNav at h
  obtain ⟨writeContext, hwrite, h⟩ := except_bind_ok h
  obtain ⟨resolved, hscope, h⟩ := except_bind_ok h
  by_cases haccounts : ∀ nav ∈ navs, nav.account = context.account
  · rw [if_neg (not_not.mpr haccounts)] at h
    by_cases hdates : (navs.map (·.date)).Nodup
    · rw [if_neg (not_not.mpr hdates)] at h
      refine ⟨resolved, ?_, haccounts, hdates, mapError_ok h⟩
      rw [hwrite]
      exact hscope
    · rw [if_pos hdates] at h
      cases h
  · rw [if_pos haccounts] at h
    cases h

/-- A calculation of a repair on other rows with the same bases. -/
theorem recordRepairedNav_rebased (hp : projectValuation valuation = .ok p)
    (hbases : SameBases context.config d ds navs navs')
    (haccounts : ∀ nav ∈ navs', nav.account = context.account)
    (hdates : (navs'.map (·.date)).Nodup)
    (h : recordRepairedNav lrt rt context valuation d runId navs ds = .ok calculated) :
    recordRepairedNav lrt rt context valuation d runId navs' ds =
      .ok (rebased calculated (rebasingOn context.config p.totalValue d ds navs')) := by
  obtain ⟨resolved, hscope, -, -, hrecord⟩ := recordRepairedNav_ok h
  obtain ⟨writeContext, hwrite, hscope⟩ := except_bind_ok hscope
  unfold recordRepairedNav
  rw [hwrite]
  simp only [bind, Except.bind]
  rw [hscope]
  simp only [not_not.mpr haccounts, not_not.mpr hdates, if_false,
    checkedRecord_rebased hp hbases hrecord]
  rfl

/-- The details of a calculation. -/
def calculatedDetails (calculated : NAVHistory) : NavDetails :=
  calculated.details.getD RowDetails.empty.known

/-- Another state of a row, with the same base facts, from which a calculation makes the same numbers:
the row as it was read, or the row as the calculation made it. -/
structure SameFacts (observed observed' : FreshNavRow) (calculated : NAVHistory) : Prop where
  recordId : observed'.recordId = observed.recordId
  account : observed'.account = observed.account
  date : observed'.date = observed.date
  /-- the fields that are not maintained -/
  others : ∀ field ∉ maintenanceFields, observed'.states field = observed.states field
  /-- a field that the calculation leaves without a value -/
  absent : ∀ field ∈ maintenanceFields, field ≠ .details → recordNumber calculated field = none →
    (observed'.states field = .missing ↔ observed.states field = .missing)
  status : (observed'.details.getD .empty).known.status = (observed.details.getD .empty).known.status
  finality : (observed'.details.getD .empty).known.finality.or (calculatedDetails calculated).finality =
    (observed.details.getD .empty).known.finality.or (calculatedDetails calculated).finality

theorem SameFacts.refl (observed : FreshNavRow) (calculated : NAVHistory) :
    SameFacts observed observed calculated :=
  ⟨rfl, rfl, rfl, fun _ _ => rfl, fun _ _ _ _ => Iff.rfl, rfl, rfl⟩

theorem candidateRow_states_of_mem {field : NavColumn} (h : field ∈ maintenanceFields) :
    (candidateRow observed calculated ds).states field =
      targetStates observed calculated (maintenanceDetails observed.details
        (calculatedDetails calculated) ds) field := if_pos h

theorem candidateRow_details :
    (candidateRow observed calculated ds).details =
      some (maintenanceDetails observed.details (calculatedDetails calculated) ds) := by
  have hstates : (candidateRow observed calculated ds).states .details = .value (.details
      (maintenanceDetails observed.details (calculatedDetails calculated) ds)) :=
    (candidateRow_states_of_mem (by decide)).trans rfl
  unfold FreshNavRow.details
  rw [hstates]
  rfl

theorem targetStates_of_ne {details : RowDetails} {field : NavColumn} (h : field ≠ .details) :
    targetStates observed calculated details field =
      stateFromValue ((recordNumber calculated field).map .number) (observed.states field) := if_neg h

/-- The row as a calculation made it has the facts of the row as it was read. -/
theorem sameFacts_candidateRow (observed : FreshNavRow) (calculated : NAVHistory)
    (ds : Ledger.CashFlowDatasetSnapshot) :
    SameFacts observed (candidateRow observed calculated ds) calculated where
  recordId := rfl
  account := rfl
  date := rfl
  others _ h := if_neg h
  absent field hmem hne hnone := by
    rw [candidateRow_states_of_mem hmem, targetStates_of_ne hne, hnone]
    unfold stateFromValue
    by_cases hmissing : observed.states field = .missing
    · simp [hmissing]
    · simp [hmissing]
  status := by
    rw [candidateRow_details]
    rfl
  finality := by
    rw [candidateRow_details]
    show ((observed.details.getD .empty).known.finality.or _).or _ = _
    rw [Option.or_assoc, Option.or_self]

/-- A calculation makes the same numbers of both states of a row. -/
theorem SameFacts.candidateRow_states (h : SameFacts observed observed' calculated)
    {calculated' : NAVHistory} {ds' : Ledger.CashFlowDatasetSnapshot}
    (hnumbers : ∀ field, recordNumber calculated' field = recordNumber calculated field)
    {field : NavColumn} (hne : field ≠ .details) :
    (candidateRow observed' calculated' ds').states field =
      (candidateRow observed calculated ds).states field := by
  by_cases hmem : field ∈ maintenanceFields
  · rw [candidateRow_states_of_mem hmem, candidateRow_states_of_mem hmem, targetStates_of_ne hne,
      targetStates_of_ne hne, hnumbers]
    cases hnumber : recordNumber calculated field with
    | some x => rfl
    | none =>
      have hiff := h.absent field hmem hne hnumber
      unfold stateFromValue
      by_cases hmissing : observed.states field = .missing
      · simp [hmissing, hiff.mpr hmissing]
      · have hmissing' : observed'.states field ≠ .missing := fun hm => hmissing (hiff.mp hm)
        simp [hmissing, hmissing']
  · exact (if_neg hmem).trans ((h.others field hmem).trans (if_neg hmem).symm)

/-- Rows with the same numbers are the same records but for their details. -/
theorem nav_withDetails {row row' : FreshNavRow} (hid : row'.recordId = row.recordId)
    (haccount : row'.account = row.account) (hdate : row'.date = row.date)
    (hstates : ∀ field ≠ .details, row'.states field = row.states field) :
    row'.nav = { row.nav with recordId := row.nav.recordId, details := row'.nav.details } := by
  have hnumber : ∀ field ≠ .details, row'.number field = row.number field := fun field hne =>
    congrArg (fun state : FieldState => state.value?.bind FieldValue.number?) (hstates field hne)
  unfold FreshNavRow.nav
  rw [hid, haccount, hdate, hnumber .totalValue (by decide), hnumber .cashValue (by decide),
    hnumber .stockValue (by decide), hnumber .fundValue (by decide), hnumber .cnStockValue (by decide),
    hnumber .usStockValue (by decide), hnumber .hkStockValue (by decide),
    hnumber .stockWeight (by decide), hnumber .cashWeight (by decide), hnumber .shares (by decide),
    hnumber .nav (by decide), hnumber .cashFlow (by decide), hnumber .shareChange (by decide),
    hnumber .mtdNavChange (by decide), hnumber .ytdNavChange (by decide), hnumber .pnl (by decide),
    hnumber .mtdPnl (by decide), hnumber .ytdPnl (by decide)]

theorem recordNumber_rebased (b : Rebasing) (field : NavColumn) :
    recordNumber (rebased calculated b) field = recordNumber calculated field := by
  cases field <;> rfl

theorem finiteStateValue_congr {row row' : FreshNavRow} {field : NavColumn}
    (hdate : row'.date = row.date) (hstate : row'.states field = row.states field) :
    finiteStateValue row' field = finiteStateValue row field := by
  unfold finiteStateValue
  rw [hstate, hdate]

theorem SameFacts.valuation_eq (h : SameFacts observed observed' calculated) :
    valuationFromObserved observed' = valuationFromObserved observed := by
  have hstate : ∀ field ∉ maintenanceFields, finiteStateValue observed' field =
      finiteStateValue observed field := fun field hmem =>
    finiteStateValue_congr h.date (h.others field hmem)
  unfold valuationFromObserved
  rw [hstate .totalValue (by decide), hstate .cashValue (by decide), hstate .stockValue (by decide),
    hstate .fundValue (by decide), hstate .cnStockValue (by decide), hstate .usStockValue (by decide),
    hstate .hkStockValue (by decide)]

/-- The total of a valuation is the one of the row. -/
theorem valuationFromObserved_total (h : valuationFromObserved observed = .ok valuation) :
    observed.states .totalValue = .value (.number valuation.totalValueCny) := by
  unfold valuationFromObserved at h
  obtain ⟨total, htotal, h⟩ := except_bind_ok h
  obtain ⟨cash, -, h⟩ := except_bind_ok h
  obtain ⟨nonCash, -, h⟩ := except_bind_ok h
  obtain ⟨fund, -, h⟩ := except_bind_ok h
  obtain ⟨cn, -, h⟩ := except_bind_ok h
  obtain ⟨us, -, h⟩ := except_bind_ok h
  obtain ⟨hk, -, h⟩ := except_bind_ok h
  split at h
  · cases h
  · cases h
    exact finiteStateValue_ok htotal

theorem projectValuation_total (h : projectValuation valuation = .ok p) :
    p.totalValue = money valuation.totalValueCny := by
  unfold projectValuation at h
  simp only at h
  split at h
  · cases h
  next htotal =>
    cases h
    exact (not_not.mp htotal).symm

theorem calculatedDetails_rebased (h : calculated.details.isSome) (b : Rebasing) :
    calculatedDetails (rebased calculated b) =
      { calculatedDetails calculated with
        initialValue := b.initialValue
        cumulativeAppreciation := some b.cumulativeAppreciation
        years := b.years } := by
  unfold calculatedDetails rebased
  cases hd : calculated.details with
  | none =>
    rw [hd] at h
    cases h
  | some details => rfl

theorem candidateRow_nav_details :
    (candidateRow observed calculated ds).nav.details =
      some (maintenanceDetails observed.details (calculatedDetails calculated) ds).known := by
  unfold FreshNavRow.nav
  rw [candidateRow_details]
  rfl

/-- The total of a recomputed row. -/
theorem candidateRow_nav_totalValue (hvaluation : valuationFromObserved observed = .ok valuation)
    (hp : projectValuation valuation = .ok p) :
    (candidateRow observed calculated ds).nav.totalValue = p.totalValue := by
  have hstates : (candidateRow observed calculated ds).states .totalValue =
      .value (.number valuation.totalValueCny) :=
    (candidateRow_states_of_notMem (by decide)).trans (valuationFromObserved_total hvaluation)
  have hnumber : (candidateRow observed calculated ds).number .totalValue =
      some valuation.totalValueCny := by
    unfold FreshNavRow.number
    rw [hstates]
    rfl
  rw [projectValuation_total hp]
  unfold FreshNavRow.nav
  rw [hnumber]
  rfl

theorem candidateRow_nav_cumulative :
    (candidateRow observed calculated ds).nav.details.bind (·.cumulativeAppreciation) =
      (calculatedDetails calculated).cumulativeAppreciation := by
  rw [candidateRow_nav_details]
  rfl

/-- A calculation has details, with its appreciation since the initial value. -/
theorem calculatedDetails_cumulative (hp : projectValuation valuation = .ok p)
    (h : recordRepairedNav lrt rt context valuation d runId navs ds = .ok calculated) :
    calculated.details.isSome ∧ (calculatedDetails calculated).cumulativeAppreciation =
      some (money (cumulativeAppreciationOf p.totalValue.toDecimal
        (inputsOn context.config d ds navs))) := by
  obtain ⟨resolved, -, -, -, hrecord⟩ := recordRepairedNav_ok h
  obtain ⟨p', evidence, hp', hrecorded⟩ := checkedRecord_ok hrecord
  obtain rfl : p' = p := Except.ok.inj (hp'.symm.trans hp)
  have hcumulative := hrecorded.computed.cumulativeAppreciation
  unfold calculatedDetails
  cases hd : calculated.details with
  | none =>
    rw [hd] at hcumulative
    cases hcumulative
  | some details =>
    rw [hd] at hcumulative
    exact ⟨rfl, hcumulative⟩

/-- The check of a recomputed row on other rows with the same bases. -/
theorem navErrorTexts_candidateRow
    (h : RecomputedRow lrt rt context gate observed navs runId candidate ds valuation calculated)
    (hrow : SameFacts observed observed' calculated)
    (hbases : SameBases context.config observed.date ds navs navs')
    (hp : projectValuation valuation = .ok p) :
    navErrorTexts rt (candidateRow observed' (rebased calculated
        (rebasingOn context.config p.totalValue observed.date ds navs')) ds).nav
      (inputsOn context.config observed.date ds navs') (some (datasetDetails ds)) (some true) = [] := by
  obtain ⟨hsome, hcumulative⟩ := calculatedDetails_cumulative hp h.recorded
  obtain ⟨resolved, -, -, hdates, -⟩ := recordRepairedNav_ok h.recorded
  obtain rfl := h.row
  have hrebased := calculatedDetails_rebased hsome
    (rebasingOn context.config p.totalValue observed.date ds navs')
  generalize hr : rebased calculated (rebasingOn context.config p.totalValue observed.date ds navs') = r
    at hrebased ⊢
  have hnumbers : ∀ field, recordNumber r field = recordNumber calculated field := fun field =>
    hr ▸ recordNumber_rebased _ field
  -- the check of the row on the first rows
  have hcheck : navErrorTexts rt (candidateRow observed calculated ds).nav
      (inputsOn context.config observed.date ds navs) (some (datasetDetails ds)) (some true) = [] := by
    rw [← repairInputs_eq hdates]
    exact (assertNavInvariants_ok_iff rt).mp h.invariants
  have hold : cumulativeErrors rt (candidateRow observed calculated ds).nav
      (inputsOn context.config observed.date ds navs) = [] := by
    unfold navErrorTexts at hcheck
    exact (List.append_eq_nil_iff.mp (List.append_eq_nil_iff.mp hcheck).1).2
  have hnew : cumulativeErrors rt (candidateRow observed' r ds).nav
      (inputsOn context.config observed.date ds navs') = [] := by
    refine cumulativeErrors_of_sameBases hbases (candidateRow_nav_totalValue h.projected hp) ?_
      (candidateRow_nav_totalValue (hrow.valuation_eq.trans h.projected) hp) ?_ hold
    · rw [candidateRow_nav_cumulative, hcumulative]
    · rw [candidateRow_nav_cumulative, hrebased]
      rfl
  have hnav : (candidateRow observed' r ds).nav = { (candidateRow observed calculated ds).nav with
      recordId := (candidateRow observed calculated ds).nav.recordId
      details := (candidateRow observed' r ds).nav.details } :=
    nav_withDetails hrow.recordId hrow.account hrow.date fun field hne =>
      hrow.candidateRow_states hnumbers hne
  rw [hnav, hbases.inputs] at hnew ⊢
  refine navErrorTexts_withDetails rt ?_ ?_ ?_ _ hnew hcheck
  · unfold statusOf
    rw [candidateRow_nav_details, candidateRow_nav_details]
    exact hrow.status
  · unfold finalityOf
    rw [candidateRow_nav_details, candidateRow_nav_details]
    show (observed'.details.getD .empty).known.finality.or (calculatedDetails r).finality = _
    rw [hrebased]
    exact hrow.finality
  · unfold basisOf
    rw [candidateRow_nav_details, candidateRow_nav_details]
    show (calculatedDetails r).cashFlowBasis = _
    rw [hrebased]
    rfl

/-- A row that was recomputed is recomputed to the same numbers from both of its states and on other
rows with the same bases. -/
theorem recomputeDerivedRow_rebased
    (h : RecomputedRow lrt rt context gate observed navs runId candidate ds valuation calculated)
    (hrow : SameFacts observed observed' calculated)
    (hbases : SameBases context.config observed.date ds navs navs')
    (haccounts : ∀ nav ∈ navs', nav.account = context.account)
    (hdates : (navs'.map (·.date)).Nodup) (hp : projectValuation valuation = .ok p) :
    recomputeDerivedRow lrt rt context gate observed' navs' runId =
      .ok (candidateRow observed' (rebased calculated
        (rebasingOn context.config p.totalValue observed.date ds navs')) ds, ds) := by
  have hrecorded := recordRepairedNav_rebased hp hbases haccounts hdates h.recorded
  have hcheck := navErrorTexts_candidateRow h hrow hbases hp
  rw [← repairInputs_eq hdates] at hcheck
  have hbase : (baseFields.find? fun field => ¬ reproducesBase observed' (rebased calculated
      (rebasingOn context.config p.totalValue observed.date ds navs')) field) = none := by
    refine List.find?_eq_none.mpr fun field hfield => ?_
    have hnumber : observed'.number field = observed.number field :=
      congrArg (fun state : FieldState => state.value?.bind FieldValue.number?)
        (hrow.others field (notMem_maintenanceFields hfield))
    have hold := h.base field hfield
    unfold reproducesBase at hold ⊢
    rw [hrow.others field (notMem_maintenanceFields hfield), recordNumber_rebased, hnumber, hold]
    decide
  unfold recomputeDerivedRow
  rw [hrow.date, h.dataset, hrow.valuation_eq, h.projected]
  simp only [bind, Except.bind, Except.mapError]
  rw [hrecorded]
  simp only
  rw [hbase]
  simp only [pure, Except.pure]
  rw [(assertNavInvariants_ok_iff rt).mpr hcheck]

end

/-! ## The effect gate and the run id -/

section
variable {lrt : Ledger.Runtime} {rt : Runtime} {context : RepairContext}
  {gate gate' : Ledger.EffectService} {navs : List NAVHistory} {runId runId' : String}
  {ds ds' : Ledger.CashFlowDatasetSnapshot} {valuation : PortfolioValuation}
  {calculated calculated' : NAVHistory} {d : CivilDate}

/-- Two datasets with the same flows. -/
structure SameFlows (ds ds' : Ledger.CashFlowDatasetSnapshot) : Prop where
  summary : ∀ previous, ds'.summary previous = ds.summary previous
  details : datasetDetails ds' = datasetDetails ds

/-- Datasets of one day have the same flows, whatever the effect gate answers. -/
theorem sameFlows_of_buildDataset
    (h : Ledger.buildDataset lrt context.ledger context.confirmations
      ⟨context.account, d, runId, context.config.startYear⟩ gate = .ok ds)
    (h' : Ledger.buildDataset lrt context.ledger context.confirmations
      ⟨context.account, d, runId', context.config.startYear⟩ gate' = .ok ds') : SameFlows ds ds' := by
  obtain ⟨windowStart, hstart, hgate, -⟩ := Ledger.buildDataset_ok h
  obtain ⟨windowStart', hstart', hgate', -⟩ := Ledger.buildDataset_ok h'
  obtain rfl := Option.some.inj (hstart.symm.trans hstart')
  refine ⟨fun previous => ?_, ?_⟩
  · rw [hgate.same, hgate'.same]
    rfl
  · rw [hgate.same, hgate'.same]
    rfl

/-- A calculation depends on a dataset through its flows. -/
theorem checkedRecord_congr {account : String} {writeContext : NavWriteContext rt}
    (h : SameFlows ds ds') :
    checkedRecord rt context.config account valuation d writeContext navs ds' =
      checkedRecord rt context.config account valuation d writeContext navs ds := by
  have hsummary : summaryFor ds' navs d = summaryFor ds navs d := h.summary _
  unfold checkedRecord
  rw [hsummary, h.details]

/-- Two write contexts give records with the same numbers. -/
theorem checkedRecord_numbers {account : String} {writeContext writeContext' : NavWriteContext rt}
    (h : checkedRecord rt context.config account valuation d writeContext navs ds = .ok calculated)
    (h' : checkedRecord rt context.config account valuation d writeContext' navs ds = .ok calculated')
    (field : NavColumn) : recordNumber calculated' field = recordNumber calculated field := by
  unfold checkedRecord at h h'
  obtain ⟨r, hr, h⟩ := except_bind_ok h
  obtain ⟨r', hr', h'⟩ := except_bind_ok h'
  obtain rfl := Except.ok.inj (hr.symm.trans hr')
  obtain ⟨_, -, h⟩ := except_bind_ok h
  obtain ⟨_, -, h'⟩ := except_bind_ok h'
  cases h
  cases h'
  cases field <;> rfl

/-- The numbers of a recomputed row depend on neither the effect gate nor the run id. -/
theorem recomputed_states_unique {row candidate candidate' : FreshNavRow}
    (h : recomputeDerivedRow lrt rt context gate row navs runId = .ok (candidate, ds))
    (h' : recomputeDerivedRow lrt rt context gate' row navs runId' = .ok (candidate', ds'))
    {field : NavColumn} (hne : field ≠ .details) : candidate'.states field = candidate.states field := by
  obtain ⟨valuation, calculated, hrow⟩ := recomputeDerivedRow_ok h
  obtain ⟨valuation', calculated', hrow'⟩ := recomputeDerivedRow_ok h'
  obtain rfl := Except.ok.inj (hrow.projected.symm.trans hrow'.projected)
  have hflows := sameFlows_of_buildDataset hrow.dataset hrow'.dataset
  obtain ⟨_, -, -, -, hrecord⟩ := recordRepairedNav_ok hrow.recorded
  obtain ⟨_, -, -, -, hrecord'⟩ := recordRepairedNav_ok hrow'.recorded
  rw [checkedRecord_congr hflows] at hrecord'
  rw [hrow.row, hrow'.row]
  exact (SameFacts.refl row calculated).candidateRow_states (checkedRecord_numbers hrecord hrecord') hne

end

end PortfolioManagement.NavRepair
