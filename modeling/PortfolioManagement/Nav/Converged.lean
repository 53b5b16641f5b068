import PortfolioManagement.Nav.RepairRun

/-!
# The repair converges

However a repair ends, it has written only columns of results, only to rows that the audit reported
as an anomaly, and only the listed values. After it returns, an audit from the same day on or from a
later one reports no new anomaly and none of the repaired fields where the row settles, and a second
repair leaves the table as it is. No column of the table may be cleared: a result that is to be
removed is listed without a value and stays.
-/

namespace PortfolioManagement.Nav

open Ledger (LedgerSource)
open Prog (EndsIn)

/-! ## What a repair may leave -/

/-- The item is an anomaly, and the row received its fields. -/
def RowRepaired (items : List AccuracyItem) (row row' : NavRow) : Prop :=
  ∃ item ∈ items, item.nav.recordId = some (toString row.recordId) ∧
    item.reconciled.map (·.status) = some .anomaly ∧ row' = row.write item.update.fields.cells

/-- Between two tables only rows of the account that were anomalies received their fields, in the
columns of a repair. -/
structure Confined (account : String) (items : List AccuracyItem) (before after : NavTable) : Prop where
  nextId : after.nextId = before.nextId
  rows : List.Forall₂ (fun row row' => (∀ column ∉ repairedColumns, row'.cells column = row.cells column) ∧
    (row' = row ∨ row.account = account ∧ RowRepaired items row row')) before.rows after.rows

/-- What an audit finds in the table after a repair, and what a second repair does. -/
structure Converged (rt : Runtime) (lrt : Ledger.Runtime) (source : LedgerSource) (account : String)
    (startDate : CivilDate) (cutoff : Option CivilDate) (items : List AccuracyItem)
    (before after : NavTable) : Prop where
  audited : ∃ items', auditNavHistoryAccuracy rt lrt source account (after.history account startDate)
      cutoff = .ok items' ∧
    (∀ item' ∈ items', ∃ item ∈ items, item'.nav.recordId = item.nav.recordId ∧
      ∃ row row', item.reconciled = some row ∧ item'.reconciled = some row' ∧
        ReportedAfter rt lrt source account (before.history account startDate) row row' item) ∧
    ∀ w : NavWorld, w.table = after → (repairNavHistory items' false w).2.table = after

section
variable {rt : Runtime} {lrt : Ledger.Runtime} {source : LedgerSource} {account : String}
  {startDate : CivilDate} {cutoff cutoff' : Option CivilDate} {items : List AccuracyItem}
  {table : NavTable}

/-! ## The updates of an audit -/

/-- The updates are those of the anomalies among the items. -/
theorem mem_repairUpdates (hdates : (items.map (·.nav.date)).Nodup) {update : RepairUpdate}
    (h : update ∈ repairUpdates items) : ∃ item ∈ items,
      item.reconciled.map (·.status) = some .anomaly ∧ update = item.update := by
  rw [repairUpdates_eq hdates] at h
  obtain ⟨item, hitem, rfl⟩ := List.mem_map.mp h
  obtain ⟨hitem, hanomaly⟩ := List.mem_filter.mp hitem
  exact ⟨item, hitem, of_decide_eq_true hanomaly, rfl⟩

section
variable (hkeyed : table.Keyed)
  (haudit : List.Forall₂ (Audited rt lrt source account (table.history account startDate))
    (targetNavs (table.history account startDate) cutoff) items)
include hkeyed haudit

theorem nodup_item_dates : (items.map (·.nav.date)).Nodup :=
  nodup_items (NavTable.nodup_date_history hkeyed) haudit

omit hkeyed in
/-- An item is read from a row of the account. -/
theorem row_of_item {item : AccuracyItem} (hitem : item ∈ items) :
    ∃ row ∈ table.rows, row.account = account ∧ dictToNav row = item.nav := by
  have hnav : item.nav ∈ targetNavs (table.history account startDate) cutoff := by
    rw [← map_nav haudit]
    exact List.mem_map_of_mem hitem
  exact NavTable.mem_history (mem_targetNavs hnav)

theorem named_repairUpdates : Named (repairUpdates items) := by
  intro update hupdate
  obtain ⟨item, hitem, -, rfl⟩ := mem_repairUpdates (nodup_item_dates hkeyed haudit) hupdate
  obtain ⟨row, -, -, hrow⟩ := row_of_item haudit hitem
  exact ⟨row.recordId, by rw [AccuracyItem.update, ← hrow]; rfl⟩

/-- The records of the requests are distinct. -/
theorem nodup_requests : (((repairUpdates items).map RepairUpdate.request).map Update.recordId).Nodup := by
  have hids : ((repairUpdates items).map (·.recordId)).Nodup := by
    rw [repairUpdates_eq (nodup_item_dates hkeyed haudit), List.map_map]
    exact (nodup_items NavTable.nodup_recordId_history haudit).sublist (List.filter_sublist.map _)
  have hnamed := named_repairUpdates hkeyed haudit
  rw [List.map_map]
  refine List.Nodup.map_on ?_ (List.Nodup.of_map _ hids)
  intro a ha b hb hsame
  obtain ⟨i, hi⟩ := hnamed a ha
  obtain ⟨j, hj⟩ := hnamed b hb
  refine eq_of_key_eq hids ha hb ?_
  have hij : rowId a.recordId = rowId b.recordId := hsame
  rw [hi, hj, rowId_toString, rowId_toString] at hij
  rw [hi, hj, hij]

end

/-- A row that receives requests with distinct records receives at most one of them. -/
theorem receive_cases {row : NavRow} {requests : List Update}
    (hids : (requests.map Update.recordId).Nodup) : row.receive requests = row ∨
      ∃ request ∈ requests, request.recordId = row.recordId ∧
        row.receive requests = row.write request.fields := by
  induction requests generalizing row with
  | nil => exact .inl rfl
  | cons request rest ih =>
    rw [List.map_cons, List.nodup_cons] at hids
    by_cases hsame : request.recordId = row.recordId
    · refine .inr ⟨request, List.mem_cons_self, hsame, ?_⟩
      show NavRow.receive (if _ then _ else _) rest = _
      rw [if_pos hsame]
      refine NavRow.receive_of_not_mem ?_
      rw [NavRow.write_recordId, ← hsame]
      exact hids.1
    · have hskip : row.receive (request :: rest) = row.receive rest := by
        show NavRow.receive (if _ then _ else _) rest = _
        rw [if_neg hsame]
      rw [hskip]
      exact (ih hids.2).imp id fun ⟨other, hother, hrow⟩ => ⟨other, List.mem_cons_of_mem _ hother, hrow⟩

/-- The requests of the updates, or the first ones, are confined. -/
theorem confined_of_prefix (hkeyed : table.Keyed)
    (haudit : List.Forall₂ (Audited rt lrt source account (table.history account startDate))
      (targetNavs (table.history account startDate) cutoff) items)
    {done : List Update} (hdone : done <+: (repairUpdates items).map RepairUpdate.request) :
    Confined account items table (table.updateAll done) := by
  refine ⟨rfl, ?_⟩
  show List.Forall₂ _ table.rows (table.rows.map fun row => row.receive done)
  rw [List.forall₂_map_right_iff, List.forall₂_same]
  intro row hrow
  have hids : (done.map Update.recordId).Nodup :=
    (nodup_requests hkeyed haudit).sublist (hdone.sublist.map _)
  have hcases : row.receive done = row ∨ ∃ request ∈ done, request.recordId = row.recordId ∧
      row.receive done = row.write request.fields := receive_cases hids
  rcases hcases with hsame | ⟨request, hrequest, hid, hwrite⟩
  · rw [hsame]
    exact ⟨fun _ _ => rfl, .inl rfl⟩
  · obtain ⟨update, hupdate, rfl⟩ := List.mem_map.mp (hdone.subset hrequest)
    obtain ⟨item, hitem, hanomaly, rfl⟩ := mem_repairUpdates (nodup_item_dates hkeyed haudit) hupdate
    obtain ⟨own, hown, haccount, hnav⟩ := row_of_item haudit hitem
    have hrecord : item.nav.recordId = some (toString own.recordId) := by rw [← hnav]; rfl
    have hsame : own.recordId = row.recordId := by
      have hid' : rowId item.nav.recordId = row.recordId := hid
      rwa [hrecord, rowId_toString] at hid'
    obtain rfl : own = row := eq_of_key_eq table.nodup hown hrow hsame
    rw [hwrite]
    refine ⟨fun column hcolumn => ?_, .inr ⟨haccount, item, hitem, hrecord, hanomaly, rfl⟩⟩
    show (item.update.fields.cells column <|> own.cells column) = own.cells column
    rw [RepairFields.cells_of_not_mem _ hcolumn]
    rfl

/-! ## The audit after the repair -/

theorem keyed_updateAll (hkeyed : table.Keyed) (requests : List Update) :
    (table.updateAll requests).Keyed := by
  show ((table.rows.map fun row => row.receive requests).map NavRow.key).Nodup
  rw [List.map_map]
  have hkeys : NavRow.key ∘ (fun row : NavRow => row.receive requests) = NavRow.key :=
    funext fun row => by
      rw [Function.comp_apply, NavRow.key, NavRow.receive_account, NavRow.receive_date]
      rfl
  rw [hkeys]
  exact hkeyed

/-- Requests that write what is there change nothing. -/
theorem updateAll_eq_self {requests : List Update}
    (h : ∀ request ∈ requests, ∀ row ∈ table.rows, request.recordId = row.recordId →
      row.write request.fields = row) : table.updateAll requests = table := by
  have hrow : ∀ row ∈ table.rows, row.receive requests = row := by
    intro row hrow
    induction requests with
    | nil => rfl
    | cons request rest ih =>
      have hfirst : (if request.recordId = row.recordId then row.write request.fields else row) = row := by
        split
        next hsame => exact h request List.mem_cons_self row hrow hsame
        next => rfl
      show NavRow.receive (if _ then _ else _) rest = row
      rw [hfirst]
      exact ih fun r hr => h r (List.mem_cons_of_mem _ hr)
  refine NavTable.ext ?_ rfl rfl
  exact (List.map_congr_left hrow).trans (List.map_id _)

/-- After the requests of all updates the repair has converged. -/
theorem converged (hkeyed : table.Keyed)
    (haudit : List.Forall₂ (Audited rt lrt source account (table.history account startDate))
      (targetNavs (table.history account startDate) cutoff) items)
    (hlater : ∀ d : CivilDate, cutoff'.all (· ≤ d) = true → cutoff.all (· ≤ d) = true) :
    Converged rt lrt source account startDate cutoff' items table
      (table.updateAll ((repairUpdates items).map RepairUpdate.request)) := by
  have hnamed := named_repairUpdates hkeyed haudit
  have hdates : ((table.history account startDate).map (·.date)).Nodup :=
    NavTable.nodup_date_history hkeyed
  have hids : ((table.history account startDate).map (·.recordId)).Nodup :=
    NavTable.nodup_recordId_history
  have hf := keepsBasis_repairedRow (repairUpdates items)
  set after := table.updateAll ((repairUpdates items).map RepairUpdate.request) with hafter
  have hhistory : after.history account startDate =
      (table.history account startDate).map (repairedRow (repairUpdates items)) :=
    NavTable.history_updateAll hnamed table
  have hkeyed' : after.Keyed := keyed_updateAll hkeyed _
  have htarget : ∀ n ∈ targetNavs (after.history account startDate) cutoff', ∃ n₀ ∈
      targetNavs (table.history account startDate) cutoff, n = repairedRow (repairUpdates items) n₀ := by
    intro n hn
    rw [hhistory, targetNavs_map hf] at hn
    obtain ⟨n₀, hn₀, rfl⟩ := List.mem_map.mp hn
    obtain ⟨hn₀, hcutoff⟩ := List.mem_filter.mp hn₀
    exact ⟨n₀, List.mem_filter.mpr ⟨hn₀, hlater _ hcutoff⟩, rfl⟩
  have haudited : ∀ n ∈ targetNavs (after.history account startDate) cutoff', ∃ item,
      Audited rt lrt source account (after.history account startDate) n item := by
    intro n hn
    obtain ⟨n₀, hn₀, rfl⟩ := htarget n hn
    obtain ⟨item, -, hitem⟩ := forall₂_mem_left haudit hn₀
    obtain ⟨daily, -, -, hchanged⟩ := hitem.changed hf
    rw [hhistory]
    exact ⟨_, hchanged⟩
  obtain ⟨items', hitems'⟩ := accuracy_ok haudited
  have haudit' := accuracy_forall₂ (NavTable.nodup_date_history hkeyed') hitems'
  have hreport : ∀ item' ∈ items', ∃ item ∈ items, item'.nav.recordId = item.nav.recordId ∧
      ∃ row row', item.reconciled = some row ∧ item'.reconciled = some row' ∧
        ReportedAfter rt lrt source account (table.history account startDate) row row' item ∧
        (row'.status = .anomaly → (repairFields item' item').patch item'.nav = item'.nav) := by
    intro item' hitem'
    obtain ⟨n, hn, hown'⟩ := forall₂_mem_right haudit' hitem'
    obtain ⟨n₀, hn₀, rfl⟩ := htarget n hn
    obtain ⟨item, hitem, hown⟩ := forall₂_mem_left haudit hn₀
    rw [hhistory] at hown'
    refine ⟨item, hitem, ?_, reportedAfter hdates hids haudit hitem hown hown'⟩
    rw [hown'.nav, hown.nav, hf.recordId]
  refine ⟨items', hitems', fun item' hitem' => ?_, fun w hw => ?_⟩
  · obtain ⟨item, hitem, hid, row, row', hrow, hrow', hreported, -⟩ := hreport item' hitem'
    exact ⟨item, hitem, hid, row, row', hrow, hrow', hreported⟩
  · have hself : ∀ done, done <+: (repairUpdates items').map RepairUpdate.request →
        after.updateAll done = after := by
      intro done hdone
      refine updateAll_eq_self fun request hrequest row hrow hid => ?_
      obtain ⟨update, hupdate, rfl⟩ := List.mem_map.mp (hdone.subset hrequest)
      obtain ⟨item', hitem', hanomaly, rfl⟩ :=
        mem_repairUpdates (nodup_item_dates hkeyed' haudit') hupdate
      obtain ⟨own, hown, -, hnav⟩ := row_of_item haudit' hitem'
      have hrecord : item'.nav.recordId = some (toString own.recordId) := by rw [← hnav]; rfl
      have hsame : own.recordId = row.recordId := by
        have hid' : rowId item'.nav.recordId = row.recordId := hid
        rwa [hrecord, rowId_toString] at hid'
      obtain rfl : own = row := eq_of_key_eq after.nodup hown hrow hsame
      obtain ⟨-, -, -, -, row', -, hrow', -, hagain⟩ := hreport item' hitem'
      rw [hrow', Option.map_some, Option.some.injEq] at hanomaly
      refine write_eq_self ?_
      rw [hnav]
      exact hagain hanomaly
    refine EndsIn.snd (P := fun w' => w'.table = after) ((repairNavHistory_ends items' w).imp ?_ ?_)
    · rintro _ w' ⟨-, htable⟩
      rw [htable, hw]
      exact hself _ List.prefix_rfl
    · rintro _ w' ⟨done, hdone, htable⟩
      rw [htable, hw]
      exact hself done hdone

end

/-! ## Two days of March -/

/-- The row of a day on which the account holds 100 shares in cash. -/
def marchDay (id : Nat) (d : CivilDate) (total : Cents) (mtdPnl : Option Cents) : NavRow :=
  navToCacheRow id
    { bareRecord d total 10000 (total * 100) with
      account := "a"
      cashValue := some total
      stockValue := some 0
      mtdPnl := mtdPnl } none

theorem march_tenth_exists : ValidDate 2025 3 10 := by decide

theorem march_eleventh_exists : ValidDate 2025 3 11 := by decide

/-- The account begins in the middle of March, with a result of the month on the second day. -/
def marchTable (mtdPnl : Option Cents) : NavTable where
  rows := [marchDay 1 ⟨2025, 3, 10, march_tenth_exists⟩ 10000 none,
    marchDay 2 ⟨2025, 3, 11, march_eleventh_exists⟩ 11000 mtdPnl]
  nextId := 3
  stamped := false
  issued := by simp [marchDay, navToCacheRow]
  nodup := by simp [marchDay, navToCacheRow]

/-- The repository of the table. -/
def marchWorld (mtdPnl : Option Cents) : NavWorld :=
  ⟨marchTable mtdPnl, [], fun _ => none, fun _ => none, fun _ => none, fun _ => 0⟩

/-- A ledger without cash flows. -/
def noFlows : LedgerSource := ⟨[], fun _ => none, none⟩

/-- The runtime with the texts of the amounts of March. -/
def marchRuntime : Runtime :=
  { depositRuntime with floatText := fun x => if x = 5 then "5.0" else if x = 1 / 10 then "0.1" else "100.0" }

/-- The audit of March. -/
def marchAudit (table : NavTable) : Except Error (List AccuracyItem) :=
  auditNavHistoryAccuracy marchRuntime Ledger.ledgerRuntime noFlows "a"
    (table.history "a" ⟨1900, 1, 1, by decide⟩) none

end PortfolioManagement.Nav
