import PortfolioManagement.Lib.Keyed
import PortfolioManagement.Nav.Repaired

/-!
# The audit of a repaired history

An audit of a history with one row for a date has one item for each row, and its updates are those
of the items that are anomalies. The audit after the repair has the same items with other stored
values: it reports the anomalies of the other fields again, and no anomaly of a repaired field except
for a result that stands alone and for a day whose float difference is not its difference.
-/

namespace PortfolioManagement.Nav

open Ledger (LedgerSource dailyFlow)

/-! ## The items of an audit -/

section
variable (rt : Runtime) (lrt : Ledger.Runtime) (source : LedgerSource) (account : String)
  (navs : List NAVHistory)

/-- The item of a row. -/
structure Audited (n : NAVHistory) (item : AccuracyItem) : Prop where
  nav : item.nav = n
  metrics : recomputePeriodMetrics rt lrt source account navs n = .ok item.metrics
  reconciled : ∃ daily, dailyFlow lrt source account n.date = .ok daily ∧ item.reconciled =
    some (reportedRow rt n ((NavIndex.build navs).findLatestBefore n.date) daily item.metrics)

end

section
variable {rt : Runtime} {lrt : Ledger.Runtime} {source : LedgerSource} {account : String}
  {navs : List NAVHistory} {cutoff : Option CivilDate} {n : NAVHistory} {item item' : AccuracyItem}
  {items : List AccuracyItem}

theorem Audited.unique (h : Audited rt lrt source account navs n item)
    (h' : Audited rt lrt source account navs n item') : item = item' := by
  obtain ⟨nav, metrics, reconciled⟩ := item
  obtain ⟨nav', metrics', reconciled'⟩ := item'
  obtain ⟨daily, hdaily, hrow⟩ := h.reconciled
  obtain ⟨daily', hdaily', hrow'⟩ := h'.reconciled
  have hnav : nav = nav' := h.nav.trans h'.nav.symm
  have hmetrics : metrics = metrics' := Except.ok.inj (h.metrics.symm.trans h'.metrics)
  have hflow : daily = daily' := Except.ok.inj (hdaily.symm.trans hdaily')
  subst hnav hmetrics hflow
  rw [AccuracyItem.mk.injEq]
  exact ⟨rfl, rfl, hrow.trans hrow'.symm⟩

theorem reconcileRow_iff {row : ReconcileRow} :
    reconcileRow rt lrt source account navs n = .ok row ↔ ∃ daily m,
      dailyFlow lrt source account n.date = .ok daily ∧
      recomputePeriodMetrics rt lrt source account navs n = .ok m ∧
      row = reportedRow rt n ((NavIndex.build navs).findLatestBefore n.date) daily m := by
  unfold reconcileRow
  constructor
  · intro h
    obtain ⟨daily, hdaily, h⟩ := except_bind_ok h
    obtain ⟨m, hm, h⟩ := except_bind_ok h
    exact ⟨daily, m, hdaily, hm, (Except.ok.inj h).symm⟩
  · rintro ⟨daily, m, hdaily, hm, rfl⟩
    simp only [hdaily, hm, bind, Except.bind]
    rfl

theorem nodup_targetNavs {κ : Type} {key : NAVHistory → κ} (h : (navs.map key).Nodup)
    (cutoff : Option CivilDate) : ((targetNavs navs cutoff).map key).Nodup := by
  have hsorted : ((sortNavs navs).map key).Nodup :=
    ((List.perm_insertionSort _ navs).map key).nodup_iff.mpr h
  exact hsorted.sublist (List.filter_sublist.map key)

/-- What the audit of an account gives. -/
theorem accuracy_forall₂ (hdates : (navs.map (·.date)).Nodup)
    (h : auditNavHistoryAccuracy rt lrt source account navs cutoff = .ok items) :
    List.Forall₂ (Audited rt lrt source account navs) (targetNavs navs cutoff) items := by
  unfold auditNavHistoryAccuracy at h
  obtain ⟨metrics, hmetrics, h⟩ := except_bind_ok h
  obtain ⟨rows, hrows, h⟩ := except_bind_ok h
  cases h
  have hpairs := forall₂_of_mapM_ok hmetrics
  have hreports := forall₂_of_mapM_ok hrows
  have hrowDates : rows.map (·.date) = (targetNavs navs cutoff).map (·.date) := by
    refine (map_eq_of_forall₂ hreports fun n row hrow => ?_).symm
    obtain ⟨daily, m, -, -, rfl⟩ := reconcileRow_iff.mp hrow
    rfl
  have hnodup : (rows.map (·.date)).Nodup := by
    rw [hrowDates]
    exact nodup_targetNavs hdates cutoff
  rw [List.forall₂_map_right_iff]
  refine ((List.forall₂_and_left _ _).mpr ⟨fun n hn => forall₂_mem_left hreports hn, hpairs⟩).imp ?_
  rintro n pair ⟨⟨row, hrow, hreport⟩, hpair⟩
  obtain ⟨daily, m, hdaily, hm, rfl⟩ := reconcileRow_iff.mp hreport
  obtain ⟨m', hm', hpair⟩ := except_bind_ok hpair
  cases hpair
  cases Except.ok.inj (hm.symm.trans hm')
  refine ⟨rfl, hm, daily, hdaily, ?_⟩
  exact congrArg List.getLast? (filter_key_of_nodup hnodup hrow)

/-- The audit of an account succeeds when every row has an item. -/
theorem accuracy_ok (h : ∀ n ∈ targetNavs navs cutoff, ∃ item, Audited rt lrt source account navs n item) :
    ∃ items, auditNavHistoryAccuracy rt lrt source account navs cutoff = .ok items := by
  have hmetric : ∀ n ∈ targetNavs navs cutoff, ∃ pair,
      (recomputePeriodMetrics rt lrt source account navs n >>= fun m => pure (n, m)) = .ok pair := by
    intro n hn
    obtain ⟨item, hitem⟩ := h n hn
    rw [hitem.metrics]
    exact ⟨_, rfl⟩
  have hrow : ∀ n ∈ targetNavs navs cutoff, ∃ row,
      reconcileRow rt lrt source account navs n = .ok row := by
    intro n hn
    obtain ⟨item, hitem⟩ := h n hn
    obtain ⟨daily, hdaily, -⟩ := hitem.reconciled
    exact ⟨_, reconcileRow_iff.mpr ⟨daily, item.metrics, hdaily, hitem.metrics, rfl⟩⟩
  obtain ⟨metrics, hmetrics⟩ := mapM_ok_of_forall hmetric
  obtain ⟨rows, hrows⟩ := mapM_ok_of_forall hrow
  rw [auditNavHistoryAccuracy, auditNavHistoryMetrics, hmetrics, auditNavHistoryReconcile, hrows]
  exact ⟨_, rfl⟩

/-- What is recomputed has the base rows it needs. -/
theorem recomputed_based {m : Recomputed}
    (h : recomputePeriodMetrics rt lrt source account navs n = .ok m) : m.Based := by
  unfold recomputePeriodMetrics at h
  dsimp only at h
  obtain ⟨monthly, hmonthly, h⟩ := except_bind_ok h
  obtain ⟨yearly, hyearly, h⟩ := except_bind_ok h
  cases h
  have hchange : ∀ (nav : Option Micro) (base : Option NAVHistory), base = none →
      (nav.bind fun nav => navChange nav base).map (roundNav rt) = none := by
    rintro (_ | nav) _ rfl
    · rfl
    · rfl
  have hpnl : ∀ (base : Option NAVHistory) (flow : Option Cents), base = none →
      recomputedPnl rt n base flow = none := by
    rintro _ (_ | flow) rfl
    · rfl
    · rfl
  exact
    { mtdNavChange := hchange _ _
      mtdPnl := hpnl _ _
      mtdReturnBase := fun hbase => (Option.or_eq_none_iff.mp hbase).1
      ytdNavChange := hchange _ _
      ytdPnl := hpnl _ _
      ytdReturnBase := fun hbase => (Option.or_eq_none_iff.mp hbase).1 }

/-! ## The items of a changed history -/

section
variable {f : NAVHistory → NAVHistory} (hf : KeepsBasis f)
include hf

theorem targetNavs_map (navs : List NAVHistory) (cutoff : Option CivilDate) :
    targetNavs (navs.map f) cutoff = (targetNavs navs cutoff).map f := by
  rw [targetNavs, hf.sortNavs, KeepsBasis.filter_map _ fun n => by rw [hf.date]]
  rfl

/-- A changed row has the item of the row, with other stored values. -/
theorem Audited.changed (h : Audited rt lrt source account navs n item) :
    ∃ daily, dailyFlow lrt source account n.date = .ok daily ∧
      item.reconciled =
        some (reportedRow rt n ((NavIndex.build navs).findLatestBefore n.date) daily item.metrics) ∧
      Audited rt lrt source account (navs.map f) (f n)
        ⟨f n, item.metrics.mapBases f, some (reportedRow rt (f n)
          (((NavIndex.build navs).findLatestBefore n.date).map f) daily (item.metrics.mapBases f))⟩ := by
  obtain ⟨daily, hdaily, hrow⟩ := h.reconciled
  refine ⟨daily, hdaily, hrow, rfl, ?_, daily, ?_, ?_⟩
  · rw [hf.recomputePeriodMetrics, h.metrics]
    rfl
  · rw [hf.date]
    exact hdaily
  · rw [hf.date, hf.findLatestBefore]

end

end

/-! ## The updates -/

/-- The update of a repair candidate. -/
def AccuracyItem.update (item : AccuracyItem) : RepairUpdate :=
  ⟨item.nav.recordId, item.nav.date, repairFields item item⟩

/-- A row after the updates. -/
def repairedRow (updates : List RepairUpdate) (n : NAVHistory) : NAVHistory :=
  updates.foldl (fun n update => update.patch n) n

theorem RepairUpdate.keepsBasis_patch (update : RepairUpdate) : KeepsBasis update.patch := by
  intro n
  rw [RepairUpdate.patch]
  split
  · rfl
  · rfl

theorem keepsBasis_repairedRow (updates : List RepairUpdate) : KeepsBasis (repairedRow updates) := by
  induction updates with
  | nil => exact fun n => rfl
  | cons update rest ih => exact fun n => (ih (update.patch n)).trans (update.keepsBasis_patch n)

theorem repairedRow_of_not_mem {updates : List RepairUpdate} {n : NAVHistory}
    (h : n.recordId ∉ updates.map (·.recordId)) : repairedRow updates n = n := by
  induction updates with
  | nil => rfl
  | cons update rest ih =>
    rw [List.map_cons, List.mem_cons, not_or] at h
    show repairedRow rest (update.patch n) = n
    rw [RepairUpdate.patch, if_neg h.1]
    exact ih h.2

theorem repairedRow_of_mem {updates : List RepairUpdate} (hids : (updates.map (·.recordId)).Nodup)
    {update : RepairUpdate} (hupdate : update ∈ updates) {n : NAVHistory}
    (hn : n.recordId = update.recordId) : repairedRow updates n = update.fields.patch n := by
  induction updates with
  | nil => cases hupdate
  | cons first rest ih =>
    rw [List.map_cons, List.nodup_cons] at hids
    show repairedRow rest (first.patch n) = _
    rcases List.mem_cons.mp hupdate with rfl | hmem
    · rw [RepairUpdate.patch, if_pos hn]
      refine repairedRow_of_not_mem fun hlater => hids.1 ?_
      rw [← hn]
      exact hlater
    · have hne : n.recordId ≠ first.recordId := by
        intro heq
        refine hids.1 ?_
        rw [← heq, hn]
        exact List.mem_map_of_mem hmem
      rw [RepairUpdate.patch, if_neg hne]
      exact ih hids.2 hmem

section
variable {rt : Runtime} {lrt : Ledger.Runtime} {source : LedgerSource} {account : String}
  {navs : List NAVHistory} {cutoff : Option CivilDate} {n : NAVHistory} {item : AccuracyItem}
  {items : List AccuracyItem}

/-- With one row for a date, the updates are those of the candidates. -/
theorem repairUpdates_eq (hdates : (items.map (·.nav.date)).Nodup) :
    repairUpdates items = (repairCandidates items).map AccuracyItem.update := by
  rw [repairUpdates, ← List.filterMap_eq_map]
  refine List.filterMap_congr fun item hitem => ?_
  have hrow : metricsByDate items item.nav.date = some item :=
    congrArg List.getLast? (filter_key_of_nodup hdates (List.mem_of_mem_filter hitem))
  rw [hrow]
  rfl

theorem map_nav (haudit : List.Forall₂ (Audited rt lrt source account navs) (targetNavs navs cutoff)
    items) : items.map (·.nav) = targetNavs navs cutoff := by
  have h := map_eq_of_forall₂ (f := id) (g := AccuracyItem.nav) haudit fun n item hitem => hitem.nav.symm
  rw [List.map_id] at h
  exact h.symm

theorem nodup_items {κ : Type} {key : NAVHistory → κ} (hkey : (navs.map key).Nodup)
    (haudit : List.Forall₂ (Audited rt lrt source account navs) (targetNavs navs cutoff) items) :
    (items.map fun item => key item.nav).Nodup := by
  have h := nodup_targetNavs hkey cutoff
  rw [← map_nav haudit, List.map_map] at h
  exact h

/-- A repaired row has the fields of its item if that is an anomaly, and is as it was otherwise. -/
theorem repairedRow_eq (hdates : (navs.map (·.date)).Nodup) (hids : (navs.map (·.recordId)).Nodup)
    (haudit : List.Forall₂ (Audited rt lrt source account navs) (targetNavs navs cutoff) items)
    (hitem : item ∈ items) :
    repairedRow (repairUpdates items) item.nav =
      if item.reconciled.map (·.status) = some .anomaly then (repairFields item item).patch item.nav
      else item.nav := by
  have hnodup : (((repairCandidates items).map AccuracyItem.update).map (·.recordId)).Nodup := by
    rw [List.map_map]
    exact (nodup_items hids haudit).sublist (List.filter_sublist.map _)
  rw [repairUpdates_eq (nodup_items hdates haudit)]
  split
  next hanomaly =>
    have hupdate : item.update ∈ (repairCandidates items).map AccuracyItem.update :=
      List.mem_map_of_mem (List.mem_filter.mpr ⟨hitem, decide_eq_true hanomaly⟩)
    exact repairedRow_of_mem hnodup hupdate rfl
  next hother =>
    refine repairedRow_of_not_mem fun hmem => hother ?_
    rw [List.map_map] at hmem
    obtain ⟨candidate, hcandidate, hid⟩ := List.mem_map.mp hmem
    obtain ⟨hcandidate, hanomaly⟩ := List.mem_filter.mp hcandidate
    have hsame : candidate = item := eq_of_key_eq (nodup_items hids haudit) hcandidate hitem hid
    rw [← hsame]
    exact of_decide_eq_true hanomaly

end

/-! ## The report after the repair -/

section
variable (rt : Runtime) (lrt : Ledger.Runtime) (source : LedgerSource) (account : String)
  (navs : List NAVHistory)

/-- A repair leaves nothing to report of the fields it writes: the float difference of the day is its
difference, and neither stored result stands alone. -/
structure Settles (item : AccuracyItem) : Prop where
  daily : ∀ daily, dailyFlow lrt source account item.nav.date = .ok daily →
    DailyExact rt item.nav ((NavIndex.build navs).findLatestBefore item.nav.date) daily
  month : ¬ StandsAlone item.metrics.mtdReturnBase item.nav.mtdPnl item.metrics.mtdPnl
  year : ¬ StandsAlone item.metrics.ytdReturnBase item.nav.ytdPnl item.metrics.ytdPnl

/-- The report of a row after a repair: the anomalies of the other fields are as they were, no row
has become an anomaly, and those of the repaired fields are gone if the row settles. -/
structure ReportedAfter (row row' : ReconcileRow) (item : AccuracyItem) : Prop where
  others : (row'.anomalies.filter (! concerns ·)) = row.anomalies.filter (! concerns ·)
  spared : row.status ≠ .anomaly → row'.status ≠ .anomaly
  repaired : row'.anomalies.filter concerns = [] ↔
    (row.status = .anomaly → Settles rt lrt source account navs item)

end

section
variable {rt : Runtime} {lrt : Ledger.Runtime} {source : LedgerSource} {account : String}
  {navs : List NAVHistory} {cutoff : Option CivilDate} {item item' : AccuracyItem}
  {items : List AccuracyItem}

theorem repairFields_eq {prev : Option NAVHistory} {daily : Cents}
    (h : item.reconciled = some (reportedRow rt item.nav prev daily item.metrics)) :
    repairFields item item = fieldsFor rt item.nav prev daily item.metrics := by
  simp only [repairFields, fieldsFor, h]

theorem anomalies_eq_nil {row : ReconcileRow} : row.anomalies = [] ↔
    row.anomalies.filter concerns = [] ∧ row.anomalies.filter (! concerns ·) = [] := by
  constructor
  · intro h
    rw [h]
    exact ⟨rfl, rfl⟩
  · rintro ⟨hmetric, hother⟩
    refine List.eq_nil_iff_forall_not_mem.mpr fun a ha => ?_
    cases hc : concerns a with
    | true => exact List.filter_eq_nil_iff.mp hmetric a ha hc
    | false => exact List.filter_eq_nil_iff.mp hother a ha (by rw [hc, Bool.not_false])

/-- What the audit reports of a row after the repair, and that repairing it again changes nothing. -/
theorem reportedAfter (hdates : (navs.map (·.date)).Nodup) (hids : (navs.map (·.recordId)).Nodup)
    (haudit : List.Forall₂ (Audited rt lrt source account navs) (targetNavs navs cutoff) items)
    {n : NAVHistory} (hitem : item ∈ items) (h : Audited rt lrt source account navs n item)
    (h' : Audited rt lrt source account (navs.map (repairedRow (repairUpdates items)))
      (repairedRow (repairUpdates items) n) item') :
    ∃ row row', item.reconciled = some row ∧ item'.reconciled = some row' ∧
      ReportedAfter rt lrt source account navs row row' item ∧
      (row'.status = .anomaly → (repairFields item' item').patch item'.nav = item'.nav) := by
  have hf := keepsBasis_repairedRow (repairUpdates items)
  have hrepaired := repairedRow_eq hdates hids haudit hitem
  generalize repairedRow (repairUpdates items) = f at hf hrepaired h'
  obtain rfl := h.nav
  obtain ⟨daily, hdaily, hrow, hchanged⟩ := h.changed hf
  obtain rfl := h'.unique hchanged
  have hbased : item.metrics.Based := recomputed_based h.metrics
  simp only [repairFields_eq hrow, hrow, Option.map_some, Option.some.injEq] at hrepaired
  set prev := (NavIndex.build navs).findLatestBefore item.nav.date with hprev
  set row := reportedRow rt item.nav prev daily item.metrics with hrowdef
  set row' := reportedRow rt (f item.nav) (prev.map f) daily (item.metrics.mapBases f) with hrowdef'
  have hothers : row'.anomalies.filter (! concerns ·) = row.anomalies.filter (! concerns ·) := by
    rw [hrowdef, hrowdef', reportedRow, reportedRow, filter_not_concerns, filter_not_concerns,
      hf.otherAnomalies]
  have hmetric' : row'.anomalies.filter concerns =
      metricAnomalies rt (f item.nav) prev daily item.metrics := by
    rw [hrowdef', reportedRow, filter_concerns, hf.metricAnomalies]
  have hmetric : row.anomalies.filter concerns =
      metricAnomalies rt item.nav prev daily item.metrics := filter_concerns
  have hspared : row.status ≠ .anomaly → row'.status ≠ .anomaly := by
    intro hstatus
    rw [if_neg hstatus] at hrepaired
    rw [status_ne_anomaly, anomalies_eq_nil, hmetric] at hstatus
    rw [status_ne_anomaly, anomalies_eq_nil, hmetric', hrepaired, hothers]
    exact hstatus
  have hsettles : Settles rt lrt source account navs item ↔
      DailyExact rt item.nav prev daily ∧
        ¬ StandsAlone item.metrics.mtdReturnBase item.nav.mtdPnl item.metrics.mtdPnl ∧
        ¬ StandsAlone item.metrics.ytdReturnBase item.nav.ytdPnl item.metrics.ytdPnl := by
    constructor
    · rintro ⟨hexact, hmonth, hyear⟩
      exact ⟨hexact daily hdaily, hmonth, hyear⟩
    · rintro ⟨hexact, hmonth, hyear⟩
      refine ⟨fun daily' hdaily' => ?_, hmonth, hyear⟩
      cases Except.ok.inj (hdaily.symm.trans hdaily')
      exact hexact
  refine ⟨row, row', hrow, rfl, ⟨hothers, hspared, ?_⟩, ?_⟩
  · by_cases hstatus : row.status = .anomaly
    · rw [if_pos hstatus] at hrepaired
      rw [hmetric', hrepaired, metricAnomalies_patch hbased, hsettles]
      exact ⟨fun hclean _ => hclean, fun hclean => hclean hstatus⟩
    · have hclean := hspared hstatus
      rw [status_ne_anomaly, anomalies_eq_nil] at hclean
      exact ⟨fun _ hanomaly => absurd hanomaly hstatus, fun _ => hclean.1⟩
  · intro hstatus'
    have hstatus : row.status = .anomaly := by
      by_contra hother
      exact hspared hother hstatus'
    rw [if_pos hstatus] at hrepaired
    show (repairFields _ _).patch (f item.nav) = f item.nav
    rw [@repairFields_eq _ ⟨f item.nav, item.metrics.mapBases f, some row'⟩ _ _ rfl,
      hf.fieldsFor hbased, hrepaired]
    exact patch_patch hbased

end

end PortfolioManagement.Nav
