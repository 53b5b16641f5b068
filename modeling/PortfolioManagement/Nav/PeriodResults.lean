import PortfolioManagement.Lib.Lists
import PortfolioManagement.Nav.AuditLaws

/-!
# One meaning of the period results

The stored results of a row, what the audit recomputes for it and the capital facts that end with
it: they agree exactly on the stable rows. Of a history of stable rows the audit reports no anomaly
and the repair changes nothing.
-/

namespace PortfolioManagement.Nav

open Ledger (LedgerSource Representable YearMonth deriveRows)

/-! ## Agreement -/

section
variable (lrt : Ledger.Runtime) (rt : Runtime) (source : LedgerSource) (account : String)
  (navs : List NAVHistory) (r : NAVHistory)

/-- A row agrees: the audit reports it, finds nothing and recomputes the stored results, and the
capital facts that end with it report the stored results. -/
structure RowAgrees : Prop where
  audited : ∃ row, reconcileRow rt lrt source account navs r = .ok row ∧ row.status ≠ .anomaly ∧
    row.recomputed.mtdPnl = r.mtdPnl ∧ row.recomputed.ytdPnl = r.ytdPnl
  capital : ∀ today period month facts,
    capitalFacts lrt source account navs today period month = .ok (.facts facts) →
    facts.endDate = r.date → ∃ stored, period.stored r = some stored ∧
      |stored - facts.periodPnl| ≤ reconciliationTolerance

end

section
variable {lrt : Ledger.Runtime} {rt : Runtime} {config : NavConfig} {account : String}
  {source : LedgerSource} {navs : List NAVHistory} {r : NAVHistory} {windowStart : CivilDate}

theorem status_ne_anomaly {row : ReconcileRow} : row.status ≠ .anomaly ↔ row.anomalies = [] := by
  unfold ReconcileRow.status
  by_cases h : row.anomalies = []
  · by_cases hex : row.exemptions = [] <;> simp [h, hex]
  · simp [h]

/-- A written row is reported without an anomaly exactly when it is stable. -/
theorem anomalies_eq_nil_iff {completed : List Ledger.CompletedCashFlowFacts} {m : Recomputed}
    (h : RecordedRow windowStart navs completed r ∨ ClosedRow r)
    (hm : Reaudited navs rt completed r m) :
    anomaliesOf rt r ((NavIndex.build navs).findLatestBefore r.date) (dayFlow completed r.date) m =
      [] ↔ RowStable rt windowStart navs completed r := by
  unfold RowStable
  rcases h with h | h
  · rw [h.not_closed, if_neg Bool.false_ne_true]
    exact h.anomalies_eq_nil hm
  · rw [h.closed, if_pos rfl]
    exact h.anomalies_eq_nil hm

/-- The results of a stable row are the recomputed ones. -/
theorem RowStable.recomputed_eq {completed : List Ledger.CompletedCashFlowFacts} {m : Recomputed}
    (hs : RowStable rt windowStart navs completed r)
    (h : RecordedRow windowStart navs completed r ∨ ClosedRow r)
    (hm : Reaudited navs rt completed r m) : m.mtdPnl = r.mtdPnl ∧ m.ytdPnl = r.ytdPnl := by
  unfold RowStable at hs
  rcases h with h | h
  · rw [h.not_closed, if_neg Bool.false_ne_true] at hs
    rw [hm.mtdPnl, hm.ytdPnl, h.mtdPnl, h.ytdPnl]
    exact ⟨(result_eq_iff.mpr hs.month).symm, (result_eq_iff.mpr hs.year).symm⟩
  · rw [h.closed, if_pos rfl] at hs
    rw [hm.mtdPnl, hm.ytdPnl, h.mtdPnl, h.ytdPnl, hs.month, hs.year]
    exact ⟨rfl, rfl⟩

/-- The capital facts that end with a stable row report its stored result. -/
theorem RowStable.capital_eq
    (hs : RowStable rt windowStart navs
      (deriveRows lrt source.rows (strip account)).completedRows r)
    (hfits : Representable (deriveRows lrt source.rows (strip account)).completedRows)
    (hdates : (navs.map (·.date)).Nodup) (hr : r ∈ navs)
    (h : RecordedRow windowStart navs (deriveRows lrt source.rows (strip account)).completedRows
      r ∨ ClosedRow r)
    {today : CivilDate} {period : CapitalPeriod} {month : YearMonth} {facts : CapitalFacts}
    (hfacts : capitalFacts lrt source account navs today period month = .ok (.facts facts))
    (hend : facts.endDate = r.date) : period.stored r = some facts.periodPnl := by
  obtain ⟨base, hbase, -, hpnl⟩ := capitalFacts_spec hfits hdates hr hfacts hend
  unfold RowStable at hs
  rcases h with h | h
  · cases period with
    | mtd =>
      rw [CapitalPeriod.base] at hbase
      rw [CapitalPeriod.stored, h.mtdPnl, hbase, hpnl, CapitalPeriod.toDate, Option.map_some]
    | ytd =>
      rw [CapitalPeriod.base] at hbase
      rw [CapitalPeriod.stored, h.ytdPnl, hbase, hpnl, CapitalPeriod.toDate, Option.map_some]
  · -- a stable closed row has no base row, so no capital facts end with it
    rw [h.closed, if_pos rfl] at hs
    cases period with
    | mtd => cases hs.month.symm.trans hbase
    | ytd => cases hs.year.symm.trans hbase

/-- A written row agrees exactly when the ledger answers and the row is stable. -/
theorem rowAgrees_iff
    (hfits : Representable (deriveRows lrt source.rows (strip account)).completedRows)
    (hdates : (navs.map (·.date)).Nodup) (hr : r ∈ navs)
    (h : RecordedRow windowStart navs (deriveRows lrt source.rows (strip account)).completedRows
      r ∨ ClosedRow r) :
    RowAgrees lrt rt source account navs r ↔ Answered lrt source account navs r.date ∧
      RowStable rt windowStart navs
        (deriveRows lrt source.rows (strip account)).completedRows r := by
  constructor
  · rintro ⟨⟨row, hrow, hstatus, -, -⟩, -⟩
    obtain ⟨hm, hanomalies⟩ := reconcileRow_spec hfits hrow
    rw [status_ne_anomaly, hanomalies, anomalies_eq_nil_iff h hm] at hstatus
    exact ⟨reconcileRow_ok_iff.mp ⟨row, hrow⟩, hstatus⟩
  · rintro ⟨hanswered, hstable⟩
    obtain ⟨row, hrow⟩ := reconcileRow_ok_iff.mpr hanswered
    obtain ⟨hm, hanomalies⟩ := reconcileRow_spec hfits hrow
    refine ⟨⟨row, hrow, ?_, hstable.recomputed_eq h hm⟩, fun today period month facts hfacts hend =>
      ⟨facts.periodPnl, hstable.capital_eq hfits hdates hr h hfacts hend, ?_⟩⟩
    · rw [status_ne_anomaly, hanomalies, anomalies_eq_nil_iff h hm]
      exact hstable
    · rw [sub_self, abs_zero]
      decide

/-! ## The audit of a history -/

/-- A computation for every element, where each succeeds. -/
theorem mapM_ok {α β : Type} {f : α → Except Error β} {l : List α}
    (h : ∀ a ∈ l, ∃ b, f a = .ok b) :
    ∃ bs, l.mapM f = .ok bs ∧ List.Forall₂ (fun a b => f a = .ok b) l bs := by
  induction l with
  | nil => exact ⟨[], rfl, .nil⟩
  | cons a rest ih =>
    obtain ⟨b, hb⟩ := h a List.mem_cons_self
    obtain ⟨bs, hbs, hall⟩ := ih fun a' ha' => h a' (List.mem_cons_of_mem _ ha')
    refine ⟨b :: bs, ?_, .cons hb hall⟩
    rw [List.mapM_cons, hb, hbs]
    rfl

theorem mem_targetNavs {cutoff : Option CivilDate} {n : NAVHistory}
    (h : n ∈ targetNavs navs cutoff) : n ∈ navs :=
  mem_sortNavs.mp (List.mem_of_mem_filter h)

theorem recompute_of_reconcile {row : ReconcileRow}
    (h : reconcileRow rt lrt source account navs r = .ok row) :
    recomputePeriodMetrics rt lrt source account navs r = .ok row.recomputed ∧
      row.date = r.date := by
  simp only [reconcileRow, bind, Except.bind] at h
  split at h
  · cases h
  · split at h
    · cases h
    next m hm =>
      cases h
      exact ⟨hm, rfl⟩

/-- The last reconciled row of a date is one of the rows of that date. -/
theorem reconcileByDate_spec {rows : List ReconcileRow} {row : ReconcileRow}
    (hmem : row ∈ rows) : ∃ found ∈ rows, reconcileByDate rows row.date = some found := by
  have hne : rows.filter (fun other => other.date = row.date) ≠ [] :=
    List.ne_nil_of_mem (List.mem_filter.mpr ⟨hmem, decide_eq_true rfl⟩)
  exact ⟨_, List.mem_of_mem_filter (List.getLast_mem hne), List.getLast?_eq_some_getLast hne⟩

/-- The audit of a history whose rows are all reported without an anomaly. -/
theorem auditNavHistoryAccuracy_spec
    (h : ∀ r ∈ navs, ∃ row, reconcileRow rt lrt source account navs r = .ok row ∧
      row.status ≠ .anomaly) (cutoff : Option CivilDate) :
    ∃ items, auditNavHistoryAccuracy rt lrt source account navs cutoff = .ok items ∧
      ∀ item ∈ items, ∃ row, item.reconciled = some row ∧ row.status ≠ .anomaly := by
  obtain ⟨rows, hrows, hall⟩ := mapM_ok (l := targetNavs navs cutoff)
    (f := reconcileRow rt lrt source account navs)
    fun n hn => (h n (mem_targetNavs hn)).imp fun _ hrow => hrow.1
  obtain ⟨metrics, hmetrics, hpairs⟩ := mapM_ok (l := targetNavs navs cutoff)
    (f := fun n => do
      let m ← recomputePeriodMetrics rt lrt source account navs n
      pure (n, m))
    fun n hn => by
      obtain ⟨row, hrow, -⟩ := h n (mem_targetNavs hn)
      simp only [(recompute_of_reconcile hrow).1]
      exact ⟨_, rfl⟩
  refine ⟨metrics.map fun item => ⟨item.1, item.2, reconcileByDate rows item.1.date⟩, ?_, ?_⟩
  · rw [auditNavHistoryAccuracy, auditNavHistoryMetrics, hmetrics, auditNavHistoryReconcile, hrows]
    rfl
  · have hgood : ∀ row ∈ rows, row.status ≠ .anomaly := by
      intro row hrow
      obtain ⟨n, hn, hok⟩ := forall₂_mem_right hall hrow
      obtain ⟨row', hrow', hstatus⟩ := h n (mem_targetNavs hn)
      rw [hok, Except.ok.injEq] at hrow'
      exact hrow' ▸ hstatus
    intro item hitem
    obtain ⟨pair, hpair, rfl⟩ := List.mem_map.mp hitem
    obtain ⟨n, hn, hok⟩ := forall₂_mem_right hpairs hpair
    have hfirst : pair.1 = n := by
      simp only [bind, Except.bind, pure, Except.pure] at hok
      split at hok
      · cases hok
      · cases hok
        rfl
    obtain ⟨row, hrowmem, hrow⟩ := forall₂_mem_right hall.flip hn
    obtain ⟨found, hfound, hby⟩ := reconcileByDate_spec hrowmem
    rw [(recompute_of_reconcile hrow).2] at hby
    exact ⟨found, hfirst ▸ hby, hgood found hfound⟩

/-- Without an anomaly nothing is repaired. -/
theorem repairNavHistoryMetrics_eq {items : List AccuracyItem}
    (h : ∀ item ∈ items, ∃ row, item.reconciled = some row ∧ row.status ≠ .anomaly) :
    repairNavHistoryMetrics navs items = navs := by
  have hnone : repairCandidates items = [] := by
    rw [repairCandidates, List.filter_eq_nil_iff]
    intro item hitem
    obtain ⟨row, hrow, hstatus⟩ := h item hitem
    simpa [hrow] using hstatus
  rw [repairNavHistoryMetrics, repairUpdates, hnone, List.filterMap_nil, List.foldl_nil]

/-- Of a history whose rows were each written on their own date, a row agrees with the audit and
with the capital facts exactly when the ledger answers and the row is stable: no base row meets a
later flow of its period, and no rounding shows. When all rows do, the audit accepts all of them
and the repair changes nothing. -/
theorem period_results_agree_iff_stable
    (hstart : CivilDate.make? config.startYear 1 1 = some windowStart)
    (hfits : Representable (deriveRows lrt source.rows (strip account)).completedRows)
    (hdates : (navs.map (·.date)).Nodup)
    (hwritten : ∀ r ∈ navs, Written lrt rt config account source navs r) :
    (∀ r ∈ navs, RowAgrees lrt rt source account navs r ↔
      Answered lrt source account navs r.date ∧ RowStable rt windowStart navs
        (deriveRows lrt source.rows (strip account)).completedRows r) ∧
    ((∀ r ∈ navs, Answered lrt source account navs r.date ∧ RowStable rt windowStart navs
        (deriveRows lrt source.rows (strip account)).completedRows r) →
      ∀ cutoff, ∃ items, auditNavHistoryAccuracy rt lrt source account navs cutoff = .ok items ∧
        (∀ item ∈ items, ∃ row, item.reconciled = some row ∧ row.status ≠ .anomaly) ∧
        repairNavHistoryMetrics navs items = navs) := by
  have hiff : ∀ r ∈ navs, RowAgrees lrt rt source account navs r ↔
      Answered lrt source account navs r.date ∧ RowStable rt windowStart navs
        (deriveRows lrt source.rows (strip account)).completedRows r :=
    fun r hr => rowAgrees_iff hfits hdates hr ((hwritten r hr).holds hstart hfits hdates)
  refine ⟨hiff, fun hstable cutoff => ?_⟩
  obtain ⟨items, hitems, hgood⟩ := auditNavHistoryAccuracy_spec (fun r hr => by
    obtain ⟨row, hrow, hstatus, -⟩ := ((hiff r hr).mpr (hstable r hr)).audited
    exact ⟨row, hrow, hstatus⟩) cutoff
  exact ⟨items, hitems, hgood, repairNavHistoryMetrics_eq hgood⟩

end

/-! ## A deposit in the middle of March -/

/-- The present ledger: a deposit of 50 on 14 March 2025. -/
def marchSource : LedgerSource := ⟨[Ledger.cnyRow], fun _ => none, none⟩

/-- The row of a day on which the account holds 150 in cash, after other rows. -/
def marchRow (id : String) (navs : List NAVHistory) (d : CivilDate) : NAVHistory :=
  { (recordRun Ledger.ledgerRuntime config2025 "a" [Ledger.cnyRow] navs (cashRun d)).toOption.getD
      (bareRecord d 0 0 0) with recordId := some id }

/-- The row of the end of February. -/
def februaryEnd : NAVHistory := marchRow "nav_1" [] ⟨2025, 2, 28, by decide⟩

/-- A row of March before the deposit. -/
def beforeDeposit : NAVHistory := marchRow "nav_2" [februaryEnd] ⟨2025, 3, 10, by decide⟩

/-- A row of March after the deposit. -/
def afterDeposit : NAVHistory := marchRow "nav_2" [februaryEnd] ⟨2025, 3, 20, by decide⟩

/-- The row after the deposit is accepted as it is. -/
theorem rows_after_the_deposit_are_accepted :
    ∃ items, auditNavHistoryAccuracy depositRuntime Ledger.ledgerRuntime marchSource "a"
        [februaryEnd, afterDeposit] none = .ok items ∧
      (∀ item ∈ items, ∃ row, item.reconciled = some row ∧ row.status ≠ .anomaly) ∧
      repairNavHistoryMetrics [februaryEnd, afterDeposit] items = [februaryEnd, afterDeposit] := by
  have hstart : CivilDate.make? config2025.startYear 1 1 = some ⟨2025, 1, 1, by decide⟩ := by
    decide +kernel
  have hfebruary : recordRun Ledger.ledgerRuntime config2025 "a" [Ledger.cnyRow] []
      (cashRun ⟨2025, 2, 28, by decide⟩) = .ok { februaryEnd with recordId := none } := by
    decide +kernel
  have hmarch : recordRun Ledger.ledgerRuntime config2025 "a" [Ledger.cnyRow] [februaryEnd]
      (cashRun ⟨2025, 3, 20, by decide⟩) = .ok { afterDeposit with recordId := none } := by
    decide +kernel
  refine (period_results_agree_iff_stable hstart (by decide +kernel) (by decide +kernel)
    fun r hr => ?_).2 (fun r hr => ?_) none
  · rcases List.mem_pair.mp hr with rfl | rfl
    · exact .recorded _ _ _ _ _ ⟨.refl _, by decide +kernel⟩ hfebruary rfl
    · exact .recorded _ _ _ _ _ ⟨.refl _, by decide +kernel⟩ hmarch rfl
  · rcases List.mem_pair.mp hr with rfl | rfl
    · exact ⟨⟨⟨0, by decide +kernel⟩, fun _ => ⟨0, by decide +kernel⟩,
        fun _ => ⟨5000, by decide +kernel⟩⟩, by decide +kernel⟩
    · exact ⟨⟨⟨0, by decide +kernel⟩, fun _ => ⟨5000, by decide +kernel⟩,
        fun _ => ⟨5000, by decide +kernel⟩⟩, by decide +kernel⟩

/-- The row before the deposit stores a result of zero for March. The audit counts the later
deposit, reports an anomaly, and the repair replaces the result by -50. -/
theorem row_before_the_deposit_is_an_anomaly :
    recordRun Ledger.ledgerRuntime config2025 "a" [Ledger.cnyRow] []
        (cashRun ⟨2025, 2, 28, by decide⟩) = .ok { februaryEnd with recordId := none } ∧
    recordRun Ledger.ledgerRuntime config2025 "a" [Ledger.cnyRow] [februaryEnd]
        (cashRun ⟨2025, 3, 10, by decide⟩) = .ok { beforeDeposit with recordId := none } ∧
    beforeDeposit.mtdPnl = some 0 ∧
    (auditNavHistoryAccuracy depositRuntime Ledger.ledgerRuntime marchSource "a"
        [februaryEnd, beforeDeposit] none).toOption.map
        (fun items => (items.map fun item => item.reconciled.map (·.status),
          (repairNavHistoryMetrics [februaryEnd, beforeDeposit] items).map (·.mtdPnl))) =
      some ([some .exempt, some .anomaly], [none, some (-5000)]) := by
  decide +kernel

end PortfolioManagement.Nav
