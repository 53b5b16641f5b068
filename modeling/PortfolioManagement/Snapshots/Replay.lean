import Mathlib.Data.Fintype.EquivFin
import PortfolioManagement.Snapshots.Reachable

/-!
# Replaying an exact set

From every set a plan can leave behind the residual actions lead to the target, and then nothing is left
to do. What stands in the way is a number without a canonical text: a set that is to be compared with a
bound row that has one is refused.
-/

namespace PortfolioManagement.Snapshots

/-! ## Applying actions -/

namespace SnapshotSetActions

variable (actions : SnapshotSetActions)

/-- A row after the updates: the content of the desired row under the row's record id. -/
def updateRow (row : HoldingSnapshot) : HoldingSnapshot :=
  match actions.updates.find? fun update => update.1 = row.id with
  | some update => update.2.withRecordId row.recordId
  | none => row

/-- The rows after the creates, under the record ids they get, the updates and the deletes. -/
def apply (newIds : List String) (rows : List HoldingSnapshot) : List HoldingSnapshot :=
  ((rows.filter fun row => row.id ∉ actions.deletes).map actions.updateRow) ++
    (actions.creates.zip newIds).map fun created => created.1.withRecordId (some created.2)

end SnapshotSetActions

/-- Record ids for the rows to create: one for each, and none that a row has. -/
structure FreshIds (rows : List HoldingSnapshot) (actions : SnapshotSetActions) (newIds : List String) :
    Prop where
  /-- one for each row to create -/
  length : newIds.length = actions.creates.length
  /-- distinct -/
  nodup : newIds.Nodup
  /-- not blank, and not in use -/
  unused : ∀ recordId ∈ newIds, recordId ≠ "" ∧ recordId ∉ rows.map HoldingSnapshot.id

/-- What the actions of a plan touch: rows to create are new desired rows, records to update hold bound
desired rows, records to delete hold obsolete rows. -/
structure OwnActions (plan : SnapshotExactSetPlan) (rows : List HoldingSnapshot)
    (actions : SnapshotSetActions) : Prop where
  /-- creates -/
  creates : ∀ d ∈ actions.creates, d ∈ plan.desired ∧ d.key ∉ keysOf plan.before
  /-- updates -/
  updates : ∀ update ∈ actions.updates, update.2 ∈ plan.desired ∧ ∃ row ∈ rows,
    row.id = update.1 ∧ row.key = update.2.key ∧ row.key ∈ keysOf plan.before
  /-- deletes -/
  deletes : ∀ recordId ∈ actions.deletes, ∃ row ∈ rows,
    row.id = recordId ∧ row.key ∈ keysOf plan.before ∧ row.key ∉ keysOf plan.desired

/-- What a replay of the plan on a current set is to do. -/
structure ReplaysSafely (plan : SnapshotExactSetPlan) (current : List HoldingSnapshot) : Prop where
  /-- it is accepted exactly when the plan can have left the set -/
  accepted : (∃ actions, plan.residualActions current = .ok actions) ↔ Reachable plan current
  /-- the actions lead to the desired rows, touch no other rows, and leave nothing to do -/
  applied : ∀ actions, plan.residualActions current = .ok actions → OwnActions plan current actions ∧
    ∀ newIds, FreshIds current actions newIds →
      ((actions.apply newIds current).map (·.withRecordId none)).Perm
        (plan.desired.map (·.withRecordId none)) ∧
      ∃ residual, plan.residualActions (actions.apply newIds current) = .ok residual ∧
        residual.mutationCount = 0

/-! ## The actions about a safe set -/

section
variable {plan : SnapshotExactSetPlan} {current : List HoldingSnapshot} {row d : HoldingSnapshot}

/-- The rows to create are the desired rows whose keys are missing. -/
theorem creates_eq : (safeActions plan current).creates =
    (sortBy HoldingSnapshot.sortKey plan.desired).filter fun d => d.key ∉ keysOf current := by
  have hdesired : KeyAction.created ∘ desiredResult current =
      Option.guard fun d => decide (d.key ∉ keysOf current) := by
    funext d
    simp only [Function.comp_apply, desiredResult, Option.guard, decide_eq_true_eq]
    cases hat : rowAt current d.key with
    | none => rw [if_pos (rowAt_eq_none.mp hat), KeyAction.created]
    | some row =>
      have hin : ¬ d.key ∉ keysOf current := fun habsent => by
        rw [rowAt_eq_none.mpr habsent] at hat
        cases hat
      rw [if_neg hin]
      simp only
      split_ifs <;> rfl
  have hobsolete : KeyAction.created ∘ obsoleteResult current = fun _ => none := by
    funext b
    simp only [Function.comp_apply, obsoleteResult]
    cases rowAt current b.key <;> rfl
  unfold safeActions SnapshotSetActions.collect
  simp only
  rw [List.filterMap_append, List.filterMap_map, List.filterMap_map, hdesired, hobsolete,
    List.filterMap_eq_filter, List.filterMap_eq_nil_iff.mpr fun _ _ => rfl, List.append_nil]

theorem mem_creates : d ∈ (safeActions plan current).creates ↔
    d ∈ plan.desired ∧ d.key ∉ keysOf current := by
  rw [creates_eq, List.mem_filter, mem_sortBy, decide_eq_true_eq]

theorem mem_updates (hkeys : (keysOf current).Nodup) {update : String × HoldingSnapshot} :
    update ∈ (safeActions plan current).updates ↔ update.2 ∈ plan.desired ∧ ∃ row ∈ current,
      row.id = update.1 ∧ row.key = update.2.key ∧ row ≠ update.2.withRecordId row.recordId := by
  have hdesired : ∀ e, (desiredResult current e).updated = some update ↔ e = update.2 ∧
      ∃ row ∈ current, row.id = update.1 ∧ row.key = update.2.key ∧
        row ≠ update.2.withRecordId row.recordId := by
    intro e
    unfold desiredResult
    cases hat : rowAt current e.key with
    | none =>
      have habsent := rowAt_eq_none.mp hat
      refine iff_of_false (fun h => by cases h) ?_
      rintro ⟨rfl, row, hrow, -, hkey, -⟩
      exact habsent (hkey ▸ key_mem_keysOf hrow)
    | some row =>
      obtain ⟨hrow, hkey⟩ := (rowAt_eq_some hkeys).mp hat
      by_cases hsame : row = e.withRecordId row.recordId
      · simp only
        rw [if_pos hsame]
        refine iff_of_false (fun h => by cases h) ?_
        rintro ⟨rfl, other, hother, -, hotherKey, hne⟩
        rw [eq_of_key_eq hkeys hother hrow (hotherKey.trans hkey.symm)] at hne
        exact hne hsame
      · simp only
        rw [if_neg hsame]
        simp only [KeyAction.updated, Option.some.injEq]
        constructor
        · rintro rfl
          exact ⟨rfl, row, hrow, rfl, hkey, hsame⟩
        · rintro ⟨rfl, other, hother, hid, hotherKey, -⟩
          rw [← eq_of_key_eq hkeys hother hrow (hotherKey.trans hkey.symm), hid]
  have hobsolete : ∀ b, (obsoleteResult current b).updated = none := by
    intro b
    unfold obsoleteResult
    cases rowAt current b.key <;> rfl
  simp only [safeActions, SnapshotSetActions.collect, List.mem_filterMap, List.mem_append, List.mem_map,
    mem_sortBy]
  constructor
  · rintro ⟨action, ⟨e, he, rfl⟩ | ⟨b, hb, rfl⟩, hupdated⟩
    · obtain ⟨rfl, hrow⟩ := (hdesired e).mp hupdated
      exact ⟨he, hrow⟩
    · rw [hobsolete b] at hupdated
      cases hupdated
  · rintro ⟨hd, hrow⟩
    exact ⟨_, .inl ⟨update.2, hd, rfl⟩, (hdesired update.2).mpr ⟨rfl, hrow⟩⟩

theorem mem_deletes (hkeys : (keysOf current).Nodup) {recordId : String} :
    recordId ∈ (safeActions plan current).deletes ↔ ∃ row ∈ current, row.id = recordId ∧
      ∃ b ∈ plan.obsolete, row.key = b.key := by
  have hdesired : ∀ e, (desiredResult current e).deleted = none := by
    intro e
    unfold desiredResult
    cases rowAt current e.key with
    | none => rfl
    | some row =>
      simp only
      split_ifs <;> rfl
  have hobsolete : ∀ b, (obsoleteResult current b).deleted = some recordId ↔
      ∃ row ∈ current, row.id = recordId ∧ row.key = b.key := by
    intro b
    unfold obsoleteResult
    cases hat : rowAt current b.key with
    | none =>
      have habsent := rowAt_eq_none.mp hat
      refine iff_of_false (fun h => by cases h) ?_
      rintro ⟨row, hrow, -, hkey⟩
      exact habsent (hkey ▸ key_mem_keysOf hrow)
    | some row =>
      obtain ⟨hrow, hkey⟩ := (rowAt_eq_some hkeys).mp hat
      simp only [KeyAction.deleted, Option.some.injEq]
      constructor
      · rintro rfl
        exact ⟨row, hrow, rfl, hkey⟩
      · rintro ⟨other, hother, hid, hotherKey⟩
        rw [← eq_of_key_eq hkeys hother hrow (hotherKey.trans hkey.symm), hid]
  simp only [safeActions, SnapshotSetActions.collect, List.mem_filterMap, List.mem_append, List.mem_map,
    mem_sortBy]
  constructor
  · rintro ⟨action, ⟨e, he, rfl⟩ | ⟨b, hb, rfl⟩, hdeleted⟩
    · rw [hdesired e] at hdeleted
      cases hdeleted
    · obtain ⟨row, hrow, hid, hkey⟩ := (hobsolete b).mp hdeleted
      exact ⟨row, hrow, hid, b, hb, hkey⟩
  · rintro ⟨row, hrow, hid, b, hb, hkey⟩
    exact ⟨_, .inr ⟨b, hb, rfl⟩, (hobsolete b).mpr ⟨row, hrow, hid, hkey⟩⟩

/-- A safe set's actions touch the plan's own rows. -/
theorem SafeReplay.ownActions (h : SafeReplay plan current) :
    OwnActions plan current (safeActions plan current) where
  creates := by
    intro d hd
    obtain ⟨hdesired, habsent⟩ := mem_creates.mp hd
    exact ⟨hdesired, fun hbound => habsent (h.kept d hdesired hbound)⟩
  updates := by
    intro update hupdate
    obtain ⟨hdesired, row, hrow, hid, hkey, hne⟩ := (mem_updates h.valid.keys).mp hupdate
    refine ⟨hdesired, row, hrow, hid, hkey, ?_⟩
    by_contra hnew
    exact hne ((h.safe update.2 hdesired row hrow hkey).new (hkey ▸ hnew))
  deletes := by
    intro recordId hdelete
    obtain ⟨row, hrow, hid, b, hb, hkey⟩ := (mem_deletes h.valid.keys).mp hdelete
    obtain ⟨hbefore, hobsolete⟩ := mem_obsolete.mp hb
    exact ⟨row, hrow, hid, hkey ▸ key_mem_keysOf hbefore, hkey ▸ hobsolete⟩

/-! ## The set after the actions -/

theorem SafeReplay.mem_deletes_iff (h : SafeReplay plan current) (hrow : row ∈ current) :
    row.id ∈ (safeActions plan current).deletes ↔ row.key ∉ keysOf plan.desired := by
  rw [mem_deletes h.valid.keys]
  constructor
  · rintro ⟨other, hother, hid, b, hb, hkey⟩
    rw [← eq_of_key_eq h.valid.nodup_ids hother hrow hid, hkey]
    exact (mem_obsolete.mp hb).2
  · intro hout
    obtain ⟨b, hb, hkey⟩ := mem_keysOf.mp ((h.known row hrow).resolve_right hout)
    exact ⟨row, hrow, rfl, b, mem_obsolete.mpr ⟨hb, hkey ▸ hout⟩, hkey.symm⟩

/-- A row of a desired key is the desired row after the updates. -/
theorem SafeReplay.updateRow_eq (h : SafeReplay plan current) (hrow : row ∈ current)
    (hd : d ∈ plan.desired) (hkey : row.key = d.key) :
    (safeActions plan current).updateRow row = d.withRecordId row.recordId := by
  unfold SnapshotSetActions.updateRow
  cases hfind : (safeActions plan current).updates.find? fun update => update.1 = row.id with
  | none =>
    by_contra hne
    have hmem : (row.id, d) ∈ (safeActions plan current).updates :=
      (mem_updates h.valid.keys).mpr ⟨hd, row, hrow, rfl, hkey, hne⟩
    simpa using List.find?_eq_none.mp hfind _ hmem
  | some update =>
    have hid : update.1 = row.id := by simpa using List.find?_some hfind
    obtain ⟨hdesired, other, hother, hotherId, hotherKey, -⟩ :=
      (mem_updates h.valid.keys).mp (List.mem_of_find?_eq_some hfind)
    have hsame := eq_of_key_eq h.valid.nodup_ids hother hrow (hotherId.trans hid)
    have htarget := eq_of_key_eq plan.validDesired.keys hdesired hd (hotherKey.symm.trans (hsame ▸ hkey))
    show update.2.withRecordId row.recordId = _
    rw [htarget]

/-- The rows of desired keys, after the updates. -/
def keptRows (plan : SnapshotExactSetPlan) (current : List HoldingSnapshot) : List HoldingSnapshot :=
  (current.filter fun row => row.id ∉ (safeActions plan current).deletes).map
    (safeActions plan current).updateRow

/-- The rows created. -/
def createdRows (plan : SnapshotExactSetPlan) (current : List HoldingSnapshot) (newIds : List String) :
    List HoldingSnapshot :=
  ((safeActions plan current).creates.zip newIds).map fun created =>
    created.1.withRecordId (some created.2)

variable {newIds : List String}

theorem SafeReplay.mem_keptRows (h : SafeReplay plan current) : row ∈ keptRows plan current ↔
    ∃ old ∈ current, ∃ d ∈ plan.desired, old.key = d.key ∧ row = d.withRecordId old.recordId := by
  unfold keptRows
  simp only [List.mem_map, List.mem_filter, decide_eq_true_eq]
  constructor
  · rintro ⟨old, ⟨hold, hkept⟩, rfl⟩
    obtain ⟨d, hd, hkey⟩ := mem_keysOf.mp (not_not.mp ((h.mem_deletes_iff hold).not.mp hkept))
    exact ⟨old, hold, d, hd, hkey.symm, h.updateRow_eq hold hd hkey.symm⟩
  · rintro ⟨old, hold, d, hd, hkey, rfl⟩
    exact ⟨old, ⟨hold, (h.mem_deletes_iff hold).not.mpr (not_not.mpr (hkey ▸ key_mem_keysOf hd))⟩,
      h.updateRow_eq hold hd hkey⟩

/-- Updates keep the keys and the record ids. -/
theorem SafeReplay.map_keptRows (h : SafeReplay plan current) :
    keysOf (keptRows plan current) =
        keysOf (current.filter fun row => row.id ∉ (safeActions plan current).deletes) ∧
      (keptRows plan current).map HoldingSnapshot.id =
        (current.filter fun row => row.id ∉ (safeActions plan current).deletes).map HoldingSnapshot.id := by
  have hrow : ∀ old ∈ current.filter fun row => row.id ∉ (safeActions plan current).deletes,
      ((safeActions plan current).updateRow old).key = old.key ∧
        ((safeActions plan current).updateRow old).id = old.id := by
    intro old hmem
    obtain ⟨hold, hkept⟩ := List.mem_filter.mp hmem
    have hin := not_not.mp ((h.mem_deletes_iff hold).not.mp (of_decide_eq_true hkept))
    obtain ⟨d, hd, hkey⟩ := mem_keysOf.mp hin
    rw [h.updateRow_eq hold hd hkey.symm]
    exact ⟨hkey, rfl⟩
  unfold keptRows keysOf
  rw [List.map_map, List.map_map]
  exact ⟨List.map_congr_left fun old hold => (hrow old hold).1,
    List.map_congr_left fun old hold => (hrow old hold).2⟩

theorem map_createdRows (hfresh : FreshIds current (safeActions plan current) newIds) :
    keysOf (createdRows plan current newIds) = keysOf (safeActions plan current).creates ∧
      (createdRows plan current newIds).map HoldingSnapshot.id = newIds := by
  have hrows : ((safeActions plan current).creates.zip newIds).map Prod.fst =
      (safeActions plan current).creates := List.map_fst_zip hfresh.length.ge
  have hids : ((safeActions plan current).creates.zip newIds).map Prod.snd = newIds :=
    List.map_snd_zip hfresh.length.le
  unfold createdRows keysOf
  rw [List.map_map, List.map_map]
  refine ⟨?_, hids⟩
  calc ((safeActions plan current).creates.zip newIds).map
        (HoldingSnapshot.key ∘ fun created => created.1.withRecordId (some created.2)) =
      (((safeActions plan current).creates.zip newIds).map Prod.fst).map HoldingSnapshot.key := by
        rw [List.map_map]
        rfl
    _ = (safeActions plan current).creates.map HoldingSnapshot.key := by rw [hrows]

theorem mem_createdRows (hrow : row ∈ createdRows plan current newIds) :
    ∃ d ∈ plan.desired, d.key ∉ keysOf current ∧ ∃ recordId ∈ newIds,
      row = d.withRecordId (some recordId) := by
  obtain ⟨⟨d, recordId⟩, hmem, rfl⟩ := List.mem_map.mp hrow
  obtain ⟨hd, hid⟩ := List.of_mem_zip hmem
  obtain ⟨hdesired, habsent⟩ := mem_creates.mp hd
  exact ⟨d, hdesired, habsent, recordId, hid, rfl⟩

theorem apply_eq : (safeActions plan current).apply newIds current =
    keptRows plan current ++ createdRows plan current newIds := rfl

theorem nodup_keys_sortBy (plan : SnapshotExactSetPlan) :
    (keysOf (sortBy HoldingSnapshot.sortKey plan.desired)).Nodup :=
  ((perm_sortBy plan.desired).map _).nodup_iff.mpr plan.validDesired.keys

/-- Every row after the actions is a desired row under some record id, and every desired row is there. -/
theorem SafeReplay.mem_apply (h : SafeReplay plan current)
    (hfresh : FreshIds current (safeActions plan current) newIds) :
    (∀ row ∈ (safeActions plan current).apply newIds current,
      ∃ d ∈ plan.desired, row = d.withRecordId row.recordId) ∧
    ∀ d ∈ plan.desired, ∃ row ∈ (safeActions plan current).apply newIds current,
      row = d.withRecordId row.recordId := by
  rw [apply_eq]
  constructor
  · intro row hrow
    rcases List.mem_append.mp hrow with hkept | hcreated
    · obtain ⟨old, -, d, hd, -, rfl⟩ := h.mem_keptRows.mp hkept
      exact ⟨d, hd, rfl⟩
    · obtain ⟨d, hd, -, recordId, -, rfl⟩ := mem_createdRows hcreated
      exact ⟨d, hd, rfl⟩
  · intro d hd
    by_cases hin : d.key ∈ keysOf current
    · obtain ⟨old, hold, hkey⟩ := mem_keysOf.mp hin
      exact ⟨_, List.mem_append_left _ (h.mem_keptRows.mpr ⟨old, hold, d, hd, hkey, rfl⟩), rfl⟩
    · have hcreated : d.key ∈ keysOf (createdRows plan current newIds) := by
        rw [(map_createdRows hfresh).1]
        exact key_mem_keysOf (mem_creates.mpr ⟨hd, hin⟩)
      obtain ⟨row, hrow, hkey⟩ := mem_keysOf.mp hcreated
      refine ⟨row, List.mem_append_right _ hrow, ?_⟩
      obtain ⟨e, he, -, recordId, -, rfl⟩ := mem_createdRows hrow
      rw [eq_of_key_eq plan.validDesired.keys he hd hkey]
      rfl

/-- The set after the actions is valid. -/
theorem SafeReplay.valid_apply (h : SafeReplay plan current)
    (hfresh : FreshIds current (safeActions plan current) newIds) :
    ValidRows plan.account plan.asOf true ((safeActions plan current).apply newIds current) := by
  obtain ⟨hkeptKeys, hkeptIds⟩ := h.map_keptRows
  obtain ⟨hcreatedKeys, hcreatedIds⟩ := map_createdRows hfresh
  have hsub : (current.filter fun row => row.id ∉ (safeActions plan current).deletes).Sublist current :=
    List.filter_sublist
  refine .of_nodup_ids (fun row hrow => ?_) (fun row hrow => ?_) ?_ ?_
  · obtain ⟨d, hd, heq⟩ := (h.mem_apply hfresh).1 row hrow
    rw [heq, scope_withRecordId]
    exact plan.validDesired.inScope d hd
  · rw [apply_eq] at hrow
    rcases List.mem_append.mp hrow with hkept | hcreated
    · obtain ⟨old, hold, d, -, -, rfl⟩ := h.mem_keptRows.mp hkept
      exact h.valid.recorded rfl old hold
    · obtain ⟨d, -, -, recordId, hid, rfl⟩ := mem_createdRows hcreated
      exact (hfresh.unused recordId hid).1
  · have hkept : (keysOf (keptRows plan current)).Nodup := by
      rw [hkeptKeys]
      exact h.valid.keys.sublist (hsub.map _)
    have hcreated : (keysOf (createdRows plan current newIds)).Nodup := by
      rw [hcreatedKeys, creates_eq]
      exact (nodup_keys_sortBy plan).sublist (List.filter_sublist.map _)
    rw [apply_eq, keysOf, List.map_append]
    refine List.nodup_append.mpr ⟨hkept, hcreated, fun a ha c hc heq => ?_⟩
    obtain ⟨row, hrow, rfl⟩ := List.mem_map.mp ha
    obtain ⟨other, hother, rfl⟩ := List.mem_map.mp hc
    obtain ⟨d, -, habsent, recordId, -, rfl⟩ := mem_createdRows hother
    obtain ⟨old, hold, e, -, hkey, rfl⟩ := h.mem_keptRows.mp hrow
    have hsame : old.key = d.key := hkey.trans heq
    exact habsent (hsame ▸ key_mem_keysOf hold)
  · rw [apply_eq, List.map_append, hkeptIds, hcreatedIds]
    refine List.nodup_append.mpr
      ⟨h.valid.nodup_ids.sublist (hsub.map _), hfresh.nodup, fun a ha c hc heq => ?_⟩
    exact (hfresh.unused c hc).2 (heq ▸ (hsub.map _).subset ha)

/-- The actions lead from a safe set to a safe set. -/
theorem SafeReplay.apply (h : SafeReplay plan current)
    (hfresh : FreshIds current (safeActions plan current) newIds) :
    SafeReplay plan ((safeActions plan current).apply newIds current) := by
  obtain ⟨hdesired, hthere⟩ := h.mem_apply hfresh
  refine ⟨h.valid_apply hfresh, fun row hrow => ?_, fun d hd _ => ?_, fun d hd row hrow hkey => ?_,
    fun b hb row hrow hkey => ?_⟩
  · obtain ⟨d, hd, heq⟩ := hdesired row hrow
    exact .inr (List.mem_map.mpr ⟨d, hd, (HoldingSnapshot.key_of_eq heq).symm⟩)
  · obtain ⟨row, hrow, heq⟩ := hthere d hd
    exact mem_keysOf.mpr ⟨row, hrow, HoldingSnapshot.key_of_eq heq⟩
  · obtain ⟨e, he, heq⟩ := hdesired row hrow
    obtain rfl := eq_of_key_eq plan.validDesired.keys he hd
      ((HoldingSnapshot.key_of_eq heq).symm.trans hkey)
    refine ⟨fun b hb hbkey => ?_, fun _ => heq⟩
    -- a bound row keeps its record id
    rw [apply_eq] at hrow
    rcases List.mem_append.mp hrow with hkept | hcreated
    · obtain ⟨old, hold, d, hd, holdKey, rfl⟩ := h.mem_keptRows.mp hkept
      have hid := ((h.safe d hd old hold holdKey).bound b hb (hbkey.trans hkey.symm)).1
      exact ⟨hid, .inr (by rw [← hid]; exact heq)⟩
    · obtain ⟨d, hd, habsent, recordId, -, rfl⟩ := mem_createdRows hcreated
      exact absurd (h.kept d hd (List.mem_map.mpr ⟨b, hb, hbkey.trans hkey.symm⟩)) habsent
  · obtain ⟨d, hd, heq⟩ := hdesired row hrow
    refine absurd (List.mem_map.mpr ⟨d, hd, ?_⟩) (mem_obsolete.mp hb).2
    exact (HoldingSnapshot.key_of_eq heq).symm.trans hkey

/-- Nothing is left to do after the actions. -/
theorem SafeReplay.nothing_left (h : SafeReplay plan current)
    (hfresh : FreshIds current (safeActions plan current) newIds) :
    (safeActions plan ((safeActions plan current).apply newIds current)).mutationCount = 0 := by
  have hafter := h.apply hfresh
  obtain ⟨hdesired, hthere⟩ := h.mem_apply hfresh
  have hcreates : (safeActions plan ((safeActions plan current).apply newIds current)).creates = [] := by
    refine List.eq_nil_iff_forall_not_mem.mpr fun d hd => ?_
    obtain ⟨hdmem, habsent⟩ := mem_creates.mp hd
    obtain ⟨row, hrow, heq⟩ := hthere d hdmem
    exact habsent (mem_keysOf.mpr ⟨row, hrow, HoldingSnapshot.key_of_eq heq⟩)
  have hupdates : (safeActions plan ((safeActions plan current).apply newIds current)).updates = [] := by
    refine List.eq_nil_iff_forall_not_mem.mpr fun update hupdate => ?_
    obtain ⟨hd, row, hrow, -, hkey, hne⟩ := (mem_updates hafter.valid.keys).mp hupdate
    obtain ⟨e, he, heq⟩ := hdesired row hrow
    have hsame := eq_of_key_eq plan.validDesired.keys he hd
      ((HoldingSnapshot.key_of_eq heq).symm.trans hkey)
    exact hne (hsame ▸ heq)
  have hdeletes : (safeActions plan ((safeActions plan current).apply newIds current)).deletes = [] := by
    refine List.eq_nil_iff_forall_not_mem.mpr fun recordId hdelete => ?_
    obtain ⟨row, hrow, -, b, hb, hkey⟩ := (mem_deletes hafter.valid.keys).mp hdelete
    obtain ⟨d, hd, heq⟩ := hdesired row hrow
    refine (mem_obsolete.mp hb).2 (List.mem_map.mpr ⟨d, hd, ?_⟩)
    exact (HoldingSnapshot.key_of_eq heq).symm.trans hkey
  rw [SnapshotSetActions.mutationCount, hcreates, hupdates, hdeletes]
  rfl

/-- The rows after the actions are the desired rows. -/
theorem SafeReplay.perm_apply (h : SafeReplay plan current)
    (hfresh : FreshIds current (safeActions plan current) newIds) :
    (((safeActions plan current).apply newIds current).map (·.withRecordId none)).Perm
      (plan.desired.map (·.withRecordId none)) := by
  obtain ⟨hdesired, hthere⟩ := h.mem_apply hfresh
  have hnodup : ∀ rows : List HoldingSnapshot, (keysOf rows).Nodup →
      (rows.map (·.withRecordId none)).Nodup := by
    intro rows hkeys
    refine List.Nodup.of_map HoldingSnapshot.key ?_
    rw [List.map_map]
    exact hkeys
  refine (List.perm_ext_iff_of_nodup (hnodup _ (h.valid_apply hfresh).keys)
    (hnodup _ plan.validDesired.keys)).mpr fun row => ?_
  simp only [List.mem_map]
  constructor
  · rintro ⟨x, hx, rfl⟩
    obtain ⟨d, hd, heq⟩ := hdesired x hx
    exact ⟨d, hd, by rw [heq, HoldingSnapshot.withRecordId_withRecordId]⟩
  · rintro ⟨d, hd, rfl⟩
    obtain ⟨x, hx, heq⟩ := hthere d hd
    exact ⟨x, hx, by rw [heq, HoldingSnapshot.withRecordId_withRecordId]⟩

end

/-! ## When a replay is safe -/

/-- The bound rows that a replay compares have canonical texts: the desired rows, the rows before that
are desired or still there. -/
def ComparesNumbers (plan : SnapshotExactSetPlan) (current : List HoldingSnapshot) : Prop :=
  (∀ d ∈ plan.desired, d.Encodable) ∧
    ∀ b ∈ plan.before, b.key ∈ keysOf plan.desired ∨ b.key ∈ keysOf current → b.Encodable

section
variable {plan : SnapshotExactSetPlan} {current : List HoldingSnapshot}

theorem ComparesNumbers.comparable (h : ComparesNumbers plan current) : Comparable plan current := by
  intro row hrow r hr hkey
  rcases List.mem_append.mp hr with hbefore | hdesired
  · exact h.2 r hbefore (.inr (hkey ▸ key_mem_keysOf hrow))
  · exact h.1 r hdesired

/-- There are as many new record ids as are wanted. -/
theorem exists_freshIds (current : List HoldingSnapshot) (actions : SnapshotSetActions) :
    ∃ newIds, FreshIds current actions newIds := by
  have hcount : ∀ n : Nat, ∃ ids : List String, ids.length = n ∧ ids.Nodup ∧
      ∀ recordId ∈ ids, recordId ≠ "" ∧ recordId ∉ current.map HoldingSnapshot.id := by
    intro n
    induction n with
    | zero => exact ⟨[], rfl, List.nodup_nil, nofun⟩
    | succ n ih =>
      obtain ⟨ids, hlength, hnodup, hunused⟩ := ih
      obtain ⟨recordId, hnew⟩ :=
        Infinite.exists_notMem_finset ("" :: (current.map HoldingSnapshot.id ++ ids)).toFinset
      rw [List.mem_toFinset, List.mem_cons, List.mem_append] at hnew
      push Not at hnew
      obtain ⟨hblank, hfresh, hids⟩ := hnew
      exact ⟨recordId :: ids, by rw [List.length_cons, hlength], List.nodup_cons.mpr ⟨hids, hnodup⟩,
        List.forall_mem_cons.mpr ⟨⟨hblank, hfresh⟩, hunused⟩⟩
  obtain ⟨ids, hlength, hnodup, hunused⟩ := hcount actions.creates.length
  exact ⟨ids, hlength, hnodup, hunused⟩

/-- A replay does what it is to do on exactly these sets: those the plan cannot have left, and those of
which the bound rows that are compared have canonical texts. -/
theorem replaysSafely_iff (plan : SnapshotExactSetPlan) (current : List HoldingSnapshot) :
    ReplaysSafely plan current ↔ (Reachable plan current → ComparesNumbers plan current) := by
  constructor
  · rintro ⟨haccepted, happlied⟩ hreachable
    obtain ⟨actions, hactions⟩ := haccepted.mpr hreachable
    obtain ⟨hsafe, hcomparable, rfl⟩ := residualActions_ok.mp hactions
    obtain ⟨newIds, hfresh⟩ := exists_freshIds current (safeActions plan current)
    obtain ⟨-, residual, hresidual, -⟩ := (happlied _ hactions).2 newIds hfresh
    obtain ⟨-, hafter, -⟩ := residualActions_ok.mp hresidual
    -- every desired key is there after the actions, so its rows are compared then
    have hdesired : ∀ d ∈ plan.desired, ∀ r ∈ plan.before ++ plan.desired, r.key = d.key →
        r.Encodable := by
      intro d hd r hr hkey
      obtain ⟨row, hrow, heq⟩ := (hsafe.mem_apply hfresh).2 d hd
      exact hafter row hrow r hr (hkey.trans (HoldingSnapshot.key_of_eq heq).symm)
    refine ⟨fun d hd => hdesired d hd d (List.mem_append_right _ hd) rfl, fun b hb hcompared => ?_⟩
    rcases hcompared with hin | hthere
    · obtain ⟨d, hd, hkey⟩ := mem_keysOf.mp hin
      exact hdesired d hd b (List.mem_append_left _ hb) hkey.symm
    · obtain ⟨row, hrow, hkey⟩ := mem_keysOf.mp hthere
      exact hcomparable row hrow b (List.mem_append_left _ hb) hkey.symm
  · intro hcompares
    constructor
    · constructor
      · rintro ⟨actions, hactions⟩
        exact (residualActions_ok.mp hactions).1.reachable
      · intro hreachable
        exact ⟨_, residualActions_ok.mpr
          ⟨hreachable.safeReplay, (hcompares hreachable).comparable, rfl⟩⟩
    · intro actions hactions
      obtain ⟨hsafe, -, rfl⟩ := residualActions_ok.mp hactions
      have hnumbers := hcompares hsafe.reachable
      refine ⟨hsafe.ownActions, fun newIds hfresh => ⟨hsafe.perm_apply hfresh, _, ?_,
        hsafe.nothing_left hfresh⟩⟩
      refine residualActions_ok.mpr ⟨hsafe.apply hfresh, fun row hrow r hr hkey => ?_, rfl⟩
      obtain ⟨d, hd, heq⟩ := (hsafe.mem_apply hfresh).1 row hrow
      have hdkey : r.key = d.key := hkey.trans (HoldingSnapshot.key_of_eq heq)
      rcases List.mem_append.mp hr with hbefore | hdesired
      · exact hnumbers.2 r hbefore (.inl (hdkey ▸ key_mem_keysOf hd))
      · exact hnumbers.1 r hdesired

end

/-! ## A set that cannot be replayed -/

/-- The float 1. -/
def oneFloat : FloatValue := ⟨⟨1, 0⟩, by decide, by decide⟩

/-- The float 1e28. -/
def hugeFloat : FloatValue := ⟨⟨1, 28⟩, by decide, by decide⟩

/-- A position of 1 at the unit price 1e28 of its currency, worth 1 CNY. -/
def hugePriceRow : HoldingSnapshot where
  recordId := some "rec1"
  asOf := "2025-03-14"
  account := "a"
  assetId := "X"
  broker := "b"
  quantity := oneFloat
  currency := "ZWR"
  price := hugeFloat
  cnyPrice := oneFloat
  marketValueCny := oneFloat
  dedupKey := "a:2025-03-14:b:X"
  assetName := none
  avgCost := none
  source := none
  remark := none
  texts := by decide +kernel
  quantized := by decide +kernel
  positive := by decide +kernel
  atMoney := by decide +kernel
  replayed := ⟨100, by decide +kernel, by decide +kernel⟩

theorem hugePriceRow_valid (requireRecordId : Bool) :
    ValidRows "a" "2025-03-14" requireRecordId [hugePriceRow] where
  inScope := by
    intro row hrow
    rw [List.mem_singleton.mp hrow]
    rfl
  recorded := by
    intro _ row hrow
    rw [List.mem_singleton.mp hrow]
    decide
  keys := by decide
  ids := by decide

/-- The plan that keeps the position as it is. -/
def hugePricePlan : SnapshotExactSetPlan where
  account := "a"
  asOf := "2025-03-14"
  targetDigest := String.ofList (List.replicate 64 '0')
  before := [hugePriceRow]
  desired := [hugePriceRow]
  accountGiven := by decide +kernel
  digestLength := by decide +kernel
  beforeValid := validateRows_ok.mpr (hugePriceRow_valid true)
  desiredValid := validateRows_ok.mpr (hugePriceRow_valid false)

/-- The rows before, which nothing has touched, are refused. -/
theorem huge_price_is_not_replayed : Reachable hugePricePlan hugePricePlan.before ∧
    ¬ ReplaysSafely hugePricePlan hugePricePlan.before := by
  refine ⟨.before, fun hreplays => ?_⟩
  obtain ⟨actions, hactions⟩ := hreplays.accepted.mpr .before
  have hcomparable := (residualActions_ok.mp hactions).2.1
  have hencodable : hugePriceRow.Encodable :=
    hcomparable hugePriceRow List.mem_cons_self hugePriceRow List.mem_cons_self rfl
  exact absurd hencodable.2.1 (by decide +kernel)

end PortfolioManagement.Snapshots
