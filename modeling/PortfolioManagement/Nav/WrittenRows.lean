import PortfolioManagement.Nav.PeriodFlows

/-!
# Written rows

A row that was written on its own date, after later flows and later rows were added: what it holds
in terms of the rows and the flows that are there now.
-/

namespace PortfolioManagement.Nav

open Ledger (LedgerSource Representable deriveRows buildDataset)

/-! ## Written rows -/

section
variable (lrt : Ledger.Runtime) (rt : Runtime) (config : NavConfig) (account : String)
  (source : LedgerSource) (navs : List NAVHistory) (r : NAVHistory)

/-- The ledger and the rows a row was written from: the flows up to its date and the rows before it
are the present ones. -/
structure Unchanged (rows : List Ledger.RawCashFlowRecord) (navs₀ : List NAVHistory) : Prop where
  flows : (flowsUpTo (deriveRows lrt rows (strip account)).completedRows r.date).Perm
    (flowsUpTo (deriveRows lrt source.rows (strip account)).completedRows r.date)
  earlier : (rowsBefore r.date navs₀).Perm (rowsBefore r.date navs)

/-- A row was written on its own date, by a run or as the row of a closed account; the table has
given it its record id. -/
inductive Written : Prop
  | recorded (rows : List Ledger.RawCashFlowRecord) (navs₀ : List NAVHistory) (run : NavRun rt)
      (row : NAVHistory) (id : Option String) (unchanged : Unchanged lrt account source navs r rows navs₀)
      (run_ok : recordRun lrt config account rows navs₀ run = .ok row)
      (stored : r = { row with recordId := id })
  | closed (rows : List Ledger.RawCashFlowRecord) (navs₀ : List NAVHistory) (run : NavRun rt)
      (totalValue cashValue stockValue : ℚ) (ds : Ledger.CashFlowDatasetSnapshot)
      (row : NAVHistory) (id : Option String)
      (unchanged : Unchanged lrt account source navs r rows navs₀)
      (build_ok : buildDataset lrt rows run.confirmations
        ⟨account, run.navDate, run.runId, config.startYear⟩ run.service = .ok ds)
      (record_ok : recordClosedNav lrt config account totalValue cashValue stockValue run.navDate
        run.runId run.context navs₀ ds = .ok row)
      (stored : r = { row with recordId := id })

end

section
variable {navs navs₀ : List NAVHistory} {d : CivilDate}

/-- The rows before a date are in one order, if their dates are distinct. -/
theorem sortNavs_rowsBefore (hdates : (navs.map (·.date)).Nodup)
    (h : (rowsBefore d navs₀).Perm (rowsBefore d navs)) :
    sortNavs (rowsBefore d navs₀) = sortNavs (rowsBefore d navs) := by
  have hperm : (sortNavs (rowsBefore d navs₀)).Perm (sortNavs (rowsBefore d navs)) :=
    ((List.perm_insertionSort _ _).trans h).trans (List.perm_insertionSort _ _).symm
  refine hperm.eq_of_pairwise (fun a b ha hb hab hba => ?_) (sortNavs_pairwise _)
    (sortNavs_pairwise _)
  exact eq_of_date_eq hdates (List.mem_of_mem_filter (mem_sortNavs.mp (hperm.mem_iff.mp ha)))
    (List.mem_of_mem_filter (mem_sortNavs.mp hb)) (le_antisymm hab hba)

/-- The base rows of a date are those of the rows before it. -/
theorem periodInputs_eq (hdates : (navs.map (·.date)).Nodup)
    (h : (rowsBefore d navs₀).Perm (rowsBefore d navs)) :
    (NavIndex.build navs₀).findLatestBefore d = (NavIndex.build navs).findLatestBefore d ∧
    (NavIndex.build navs₀).findPrevMonthEnd d = (NavIndex.build navs).findPrevMonthEnd d ∧
    (NavIndex.build navs₀).findYearEnd (d.year - 1) = (NavIndex.build navs).findYearEnd (d.year - 1) ∧
    (NavIndex.build navs₀).findMtdReturnBase d = (NavIndex.build navs).findMtdReturnBase d ∧
    (NavIndex.build navs₀).findYtdReturnBase d = (NavIndex.build navs).findYtdReturnBase d := by
  have hbuild : NavIndex.build (rowsBefore d navs₀) = NavIndex.build (rowsBefore d navs) := by
    rw [NavIndex.build, NavIndex.build, sortNavs_rowsBefore hdates h]
  refine ⟨?_, ?_, ?_, ?_, ?_⟩
  · rw [← findLatestBefore_rowsBefore navs₀, hbuild, findLatestBefore_rowsBefore]
  · rw [← findPrevMonthEnd_rowsBefore navs₀, hbuild, findPrevMonthEnd_rowsBefore]
  · rw [← findYearEnd_rowsBefore navs₀, hbuild, findYearEnd_rowsBefore]
  · rw [← findMtdReturnBase_rowsBefore navs₀, hbuild, findMtdReturnBase_rowsBefore]
  · rw [← findYtdReturnBase_rowsBefore navs₀, hbuild, findYtdReturnBase_rowsBefore]

end

/-! ## What a written row holds -/

/-- The shares before they are rounded: those of the previous row and the flow of the gap at its
NAV, or the total in the first row. -/
def exactShares (totalValue gap : ℚ) (previous : Option NAVHistory) : ℚ :=
  match previous with
  | none => totalValue
  | some last =>
    (last.shares.getD 0).toDecimal + gap / ((last.nav.getD 0 : Micro)).toDecimal

/-- The flow of the gap after a previous row. -/
def gapAfter (completed : List Ledger.CompletedCashFlowFacts) (windowStart d : CivilDate)
    (previous : Option NAVHistory) : Cents :=
  previous.elim 0 fun last => gapToDate completed d windowStart last.date

theorem sharesOf_eq {completed : List Ledger.CompletedCashFlowFacts} {windowStart d : CivilDate}
    {totalValue : ℚ} {previous : Option NAVHistory} {evidence : PreviousEvidence} {gap : Cents}
    (h : previousEvidence previous = .ok evidence)
    (hgap : ∀ last ∈ previous, gap = gapToDate completed d windowStart last.date) :
    sharesOf totalValue gap.toDecimal evidence =
      exactShares totalValue (gapAfter completed windowStart d previous).toDecimal previous := by
  cases previous with
  | none =>
    cases h
    rfl
  | some last =>
    unfold previousEvidence at h
    simp only at h
    split at h
    next nav shares hnav hshares =>
      split at h
      · cases h
      · cases h
        rw [sharesOf, exactShares, gapAfter, Option.elim_some, ← hgap last rfl, hnav, hshares]
        rfl
    next => cases h

section
variable (windowStart : CivilDate) (navs : List NAVHistory)
  (completed : List Ledger.CompletedCashFlowFacts) (r : NAVHistory)

/-- The shares of a row before they are rounded. -/
def sharesBefore : ℚ :=
  exactShares r.totalValue.toDecimal
    (gapAfter completed windowStart r.date ((NavIndex.build navs).findLatestBefore r.date)).toDecimal
    ((NavIndex.build navs).findLatestBefore r.date)

/-- The total of a row is the sum of its parts, and its weights sum to one. -/
structure Decomposed : Prop where
  parts : ∃ cash stock, r.cashValue = some cash ∧ r.stockValue = some stock ∧
    r.totalValue = cash + stock
  weights : 0 < r.totalValue → ∃ stockWeight cashWeight, r.stockWeight = some stockWeight ∧
    r.cashWeight = some cashWeight ∧
    approxEqual (stockWeight.toDecimal + cashWeight.toDecimal) 1 (1 / 10000) = true

/-- What a run wrote, in terms of the present rows and flows. -/
structure RecordedRow : Prop extends Decomposed r where
  started : windowStart ≤ r.date
  not_closed : isClosed r = false
  shares : r.shares = some (money (sharesBefore windowStart navs completed r))
  positive : 0 < money (sharesBefore windowStart navs completed r)
  nav : r.nav =
    some (quantizeNav (r.totalValue.toDecimal / sharesBefore windowStart navs completed r))
  mtdNavChange : r.mtdNavChange = (r.nav.bind fun nav =>
    calcMtdNavChange nav ((NavIndex.build navs).findMtdReturnBase r.date)).map quantizeNav
  ytdNavChange : r.ytdNavChange = (r.nav.bind fun nav =>
    calcYtdNavChange nav ((NavIndex.build navs).findYtdReturnBase r.date)).map quantizeNav
  pnl : r.pnl = (yesterdayOf r ((NavIndex.build navs).findLatestBefore r.date)).map fun last =>
    r.totalValue - last.totalValue - gapToDate completed r.date windowStart last.date
  mtdPnl : r.mtdPnl = ((NavIndex.build navs).findPrevMonthEnd r.date).map fun base =>
    r.totalValue - base.totalValue - monthToDate completed r.date
  ytdPnl : r.ytdPnl = ((NavIndex.build navs).findYearEnd (r.date.year - 1)).map fun base =>
    r.totalValue - base.totalValue - yearToDate completed r.date

/-- What is written for a closed account. -/
structure ClosedRow : Prop extends Decomposed r where
  closed : isClosed r = true
  shares : r.shares = some 0
  nav : r.nav = some 1000000
  mtdNavChange : r.mtdNavChange = none
  ytdNavChange : r.ytdNavChange = none
  pnl : r.pnl = none
  mtdPnl : r.mtdPnl = none
  ytdPnl : r.ytdPnl = none

end

section
variable {lrt : Ledger.Runtime} {rt : Runtime} {config : NavConfig} {account : String}
  {source : LedgerSource} {navs navs₀ : List NAVHistory} {rows : List Ledger.RawCashFlowRecord}
  {run : NavRun rt} {row r : NAVHistory} {windowStart : CivilDate}

theorem toDecimal_sub (a b c : Cents) : a.toDecimal - b.toDecimal - c.toDecimal =
    (a - b - c : Cents).toDecimal := by
  rw [Cents.toDecimal, Cents.toDecimal, Cents.toDecimal, Cents.toDecimal]
  push_cast
  ring

/-- The result against a base row is an amount of whole cents. -/
theorem periodPnl_eq (totalValue : Cents) (base : Option NAVHistory) (flow : Cents) :
    periodPnl totalValue.toDecimal base flow.toDecimal =
      base.map fun base => (totalValue - base.totalValue - flow : Cents).toDecimal := by
  cases base with
  | none => rfl
  | some base => exact congrArg some (toDecimal_sub _ _ _)

theorem positive_of_money {x : ℚ} (h : 0 < money x) : 0 < x := by
  by_contra hx
  rcases (not_lt.mp hx).eq_or_lt with rfl | hneg
  · rw [money_zero] at h
    exact lt_irrefl 0 h
  · rw [money_eq_roundHalfUp, ← neg_neg (x * 100), roundHalfUp_neg] at h
    exact absurd h (not_lt.mpr (neg_nonpos.mpr (roundHalfUp_nonneg (by linarith))))

theorem or_or_self {α : Type} (a b : Option α) : (a.or b).or a = a.or b := by
  cases a <;> cases b <;> rfl

/-- A checked record has shares at two places. -/
theorem Recorded.positive {today : CivilDate} {context : NavWriteContext rt}
    {ds : Ledger.CashFlowDatasetSnapshot} {p : NavValuationProjection}
    {evidence : PreviousEvidence}
    (h : Recorded rt config account today context navs ds p evidence r) :
    ∀ shares ∈ r.shares, 0 < shares := by
  have hchecked := h.checked
  simp only [navErrorTexts, List.append_eq_nil_iff] at hchecked
  obtain ⟨⟨⟨⟨⟨⟨⟨⟨⟨-, hnav⟩, -⟩, -⟩, -⟩, -⟩, -⟩, -⟩, -⟩, -⟩ := hchecked
  unfold navErrors at hnav
  rw [h.computed.isClosed_eq] at hnav
  intro shares hshares
  rw [Option.mem_def] at hshares
  rw [hshares, h.computed.nav] at hnav
  by_contra hnot
  simp [hnot] at hnav

/-- The parts and the weights of a computed record. -/
theorem Computed.decomposed {today : CivilDate} {p : NavValuationProjection} {x : PeriodInputs}
    {evidence : PreviousEvidence} (h : Computed today p x evidence r) (hp : Projected p) :
    Decomposed r := by
  refine ⟨⟨_, _, h.cashValue, h.stockValue, h.totalValue.trans hp.totalValue⟩, fun hpos => ?_⟩
  have hweights : weightErrors depositRuntime r = [] := h.weightErrors_eq hp
  unfold weightErrors at hweights
  rw [if_neg (not_le.mpr hpos)] at hweights
  simp only [h.stockWeight, h.cashWeight, h.stockValue, h.cashValue, List.append_eq_nil_iff,
    failing_eq_nil] at hweights
  exact ⟨_, _, h.stockWeight, h.cashWeight, hweights.2⟩

/-- A run writes a recorded row. -/
theorem recordedRow
    (hstart : CivilDate.make? config.startYear 1 1 = some windowStart)
    (hfits : Representable (deriveRows lrt source.rows (strip account)).completedRows)
    (hdates : (navs.map (·.date)).Nodup)
    (unchanged : Unchanged lrt account source navs row rows navs₀)
    (run_ok : recordRun lrt config account rows navs₀ run = .ok row) :
    RecordedRow windowStart navs (deriveRows lrt source.rows (strip account)).completedRows
      row := by
  simp only [recordRun, bind, Except.bind, Except.mapError] at run_ok
  cases hds : buildDataset lrt rows run.confirmations
      ⟨account, run.navDate, run.runId, config.startYear⟩ run.service with
  | error exc => simp [hds] at run_ok
  | ok ds =>
    simp only [hds] at run_ok
    obtain ⟨resolved, -, hrecord⟩ := recordNav_ok run_ok
    obtain ⟨p, evidence, -, hrecorded⟩ := checkedRecord_ok hrecord
    have hc := hrecorded.computed
    have hdate : run.navDate = row.date := hc.date.symm
    obtain ⟨hflows, hearlier⟩ := unchanged
    rw [hdate] at hds hrecorded hc
    have hsummary : Summarized (deriveRows lrt source.rows (strip account)).completedRows
        windowStart row.date (((NavIndex.build navs₀).findLatestBefore row.date).map (·.date))
        (summaryFor ds navs₀ row.date) := summarized hstart hds hflows hfits _
    obtain ⟨hlast, hmonth, hyear, hmtd, hytd⟩ := periodInputs_eq hdates hearlier
    have hshares : sharesOf p.totalValue.toDecimal (summaryFor ds navs₀ row.date).gap.toDecimal
        evidence = sharesBefore windowStart navs
          (deriveRows lrt source.rows (strip account)).completedRows row := by
      rw [sharesOf_eq hrecorded.previous fun last hmem =>
        hsummary.gap last.date (by rw [Option.mem_def.mp hmem]; rfl), hlast, sharesBefore,
        hc.totalValue]
    have hrowShares : row.shares = some (money (sharesBefore windowStart navs
        (deriveRows lrt source.rows (strip account)).completedRows row)) := by
      rw [← hshares]
      exact hc.shares
    have hpositive := hrecorded.positive _ hrowShares
    exact
      { hc.decomposed hrecorded.projected with
        started := (Ledger.buildDataset_frame hstart hds).1
        not_closed := hc.isClosed_eq
        shares := hrowShares
        positive := hpositive
        nav := by
          rw [← hshares, hc.totalValue]
          refine hc.nav.trans ?_
          rw [navOf, if_pos (positive_of_money (hshares ▸ hpositive))]
          rfl
        mtdNavChange := by
          refine hc.mtdNavChange.trans ?_
          rw [PeriodInputs.monthBaseNav, periodInputs, NavIndex.findMtdReturnBase, or_or_self,
            ← NavIndex.findMtdReturnBase, hmtd]
        ytdNavChange := by
          refine hc.ytdNavChange.trans ?_
          rw [PeriodInputs.yearBaseNav, periodInputs, NavIndex.findYtdReturnBase, or_or_self,
            ← NavIndex.findYtdReturnBase, hytd]
        pnl := by
          refine hc.pnl.trans ?_
          simp only [periodInputs, hlast, yesterdayOf, PeriodInputs.effectiveCashFlow,
            Option.getD_some, Option.map_map, ← hc.totalValue]
          refine Option.map_congr fun last hmem => ?_
          have hprevious : (NavIndex.build navs).findLatestBefore row.date = some last :=
            (Option.filter_eq_some_iff.mp hmem).1
          rw [Function.comp_apply, toDecimal_sub, money_toDecimal,
            hsummary.gap last.date (by rw [hlast, hprevious]; rfl)]
        mtdPnl := by
          refine hc.mtdPnl.trans ?_
          simp only [periodInputs, hmonth, calcMtdPnl, hsummary.monthly, periodPnl_eq,
            Option.map_map, Function.comp_def, money_toDecimal, ← hc.totalValue]
        ytdPnl := by
          refine hc.ytdPnl.trans ?_
          simp only [periodInputs, hyear, calcYtdPnl, hsummary.yearly, Option.getD_some,
            periodPnl_eq, Option.map_map, Function.comp_def, money_toDecimal, ← hc.totalValue] }

/-- The record id says nothing of this. -/
theorem RecordedRow.withId {completed : List Ledger.CompletedCashFlowFacts}
    (h : RecordedRow windowStart navs completed r) (id : Option String) :
    RecordedRow windowStart navs completed { r with recordId := id } :=
  { parts := h.parts
    weights := h.weights
    started := h.started
    not_closed := h.not_closed
    shares := h.shares
    positive := h.positive
    nav := h.nav
    mtdNavChange := h.mtdNavChange
    ytdNavChange := h.ytdNavChange
    pnl := h.pnl
    mtdPnl := h.mtdPnl
    ytdPnl := h.ytdPnl }

/-- Closing an account writes a closed row. -/
theorem closedRow {totalValue cashValue stockValue : ℚ} {today : CivilDate} {runId : String}
    {context : NavWriteContext rt} {ds : Ledger.CashFlowDatasetSnapshot}
    (h : recordClosedNav lrt config account totalValue cashValue stockValue today runId context
      navs₀ ds = .ok row) (id : Option String) :
    ClosedRow { row with recordId := id } := by
  simp only [recordClosedNav, checkedClosedRecord, bind, Except.bind, Except.mapError] at h
  cases hscope : officialScope lrt config account runId today context ds with
  | error refusal => simp [hscope] at h
  | ok resolved =>
    cases htarget : ClosedNavTarget.build totalValue cashValue stockValue with
    | error exc => simp [hscope, htarget] at h
    | ok target =>
      simp only [hscope, htarget] at h
      split at h
      · cases h
      next written hwritten =>
        split at hwritten
        · cases hwritten
        · cases hwritten
          cases h
          exact
            { parts := ⟨_, _, rfl, rfl, target.parts⟩
              weights := fun hpos => ⟨_, _, rfl, rfl,
                weights_sum (weightOf_add_weightOf target.parts hpos)⟩
              closed := show decide (upper "CLOSED" = "CLOSED") = true by decide +kernel
              shares := rfl
              nav := rfl
              mtdNavChange := rfl
              ytdNavChange := rfl
              pnl := rfl
              mtdPnl := rfl
              ytdPnl := rfl }

/-- What a written row holds. -/
theorem Written.holds (hstart : CivilDate.make? config.startYear 1 1 = some windowStart)
    (hfits : Representable (deriveRows lrt source.rows (strip account)).completedRows)
    (hdates : (navs.map (·.date)).Nodup) (h : Written lrt rt config account source navs r) :
    RecordedRow windowStart navs (deriveRows lrt source.rows (strip account)).completedRows r ∨
      ClosedRow r := by
  cases h with
  | recorded rows navs₀ run row id unchanged run_ok stored =>
    subst stored
    have hrow : RecordedRow windowStart navs
        (deriveRows lrt source.rows (strip account)).completedRows row :=
      recordedRow hstart hfits hdates ⟨unchanged.flows, unchanged.earlier⟩ run_ok
    exact .inl (hrow.withId id)
  | closed rows navs₀ run totalValue cashValue stockValue ds row id unchanged build_ok record_ok
      stored =>
    subst stored
    exact .inr (closedRow record_ok id)

end

end PortfolioManagement.Nav
