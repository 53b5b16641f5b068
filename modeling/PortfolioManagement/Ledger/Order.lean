import Mathlib.Data.List.Dedup
import PortfolioManagement.Ledger.Partition
import PortfolioManagement.Ledger.Sums

/-!
# The order of the raw rows

Two scans that differ in the order of their rows lead to the same dataset up to the order of what
was listed row by row: sorted lists, sums and fingerprints are the same. A duplicate group shows
the values of the first of its rows; its key and its record ids do not depend on which one that is.
-/

namespace PortfolioManagement.Ledger

theorem sortedTexts_perm {a b : List String} (h : a.Perm b) : sortedTexts a = sortedTexts b := by
  have hperm : (sortedTexts a).Perm (sortedTexts b) :=
    ((List.perm_insertionSort _ a).trans h).trans (List.perm_insertionSort _ b).symm
  exact hperm.eq_of_pairwise' (List.pairwise_insertionSort _ a) (List.pairwise_insertionSort _ b)

/-- What a blocker says, apart from the row a duplicate group shows. -/
def CashFlowDatasetBlocker.subject (b : CashFlowDatasetBlocker) :
    String × String × String × Option String × (BlockerDetails ⊕ (String × List String)) :=
  (b.reasonCode, b.message, b.recordId, b.field,
    match b.details with
    | .group g => .inr (g.expectedDedupKey, g.recordIds)
    | details => .inl details)

/-! ## Groups -/

/-- The key and the record ids of a group. -/
def CashFlowDuplicateGroup.identity (g : CashFlowDuplicateGroup) : String × List String :=
  (g.expectedDedupKey, g.recordIds)

theorem identity_duplicateGroup (key : String) (facts : List ManualCashFlowFacts) :
    (duplicateGroup key facts).map CashFlowDuplicateGroup.identity =
      let ids := sortedTexts (facts.map (·.recordId)).dedup
      if ids.length < 2 then none else some (key, ids) := by
  cases facts with
  | nil => rfl
  | cons representative rest =>
    simp only [duplicateGroup]
    split <;> rfl

theorem identity_duplicateGroup_perm (key : String) {a b : List ManualCashFlowFacts}
    (h : a.Perm b) :
    (duplicateGroup key a).map CashFlowDuplicateGroup.identity =
      (duplicateGroup key b).map CashFlowDuplicateGroup.identity := by
  have hids : sortedTexts (a.map (·.recordId)).dedup = sortedTexts (b.map (·.recordId)).dedup :=
    sortedTexts_perm (List.Perm.dedup (h.map _))
  rw [identity_duplicateGroup, identity_duplicateGroup, hids]

/-- A dict in key order is its sorted keys with their entries. -/
theorem insertionSort_items {α : Type} {d : Items String α} (default : α)
    (h : (d.map Prod.fst).Nodup) :
    d.insertionSort (fun a b => a.1 ≤ b.1) =
      (sortedTexts (d.map Prod.fst)).map fun k => (k, (d.lookup k).getD default) := by
  have hself : d = (d.map Prod.fst).map fun k => (k, (d.lookup k).getD default) := by
    rw [List.map_map]
    refine (List.map_id d).symm.trans (List.map_congr_left fun item hitem => ?_)
    obtain ⟨k, v⟩ := item
    simp [(Items.mem_iff_lookup h).mp hitem]
  conv_lhs => rw [hself]
  exact (List.map_insertionSort (· ≤ ·) (fun a b : String × α => a.1 ≤ b.1)
    (fun k => (k, (d.lookup k).getD default)) (d.map Prod.fst) fun a _ b _ => Iff.rfl).symm

section
variable (rt : Runtime)

/-- The manual facts of the rows that have them. -/
def validFacts (rows : List RawCashFlowRecord) : List ManualCashFlowFacts :=
  rows.filterMap fun raw => (ManualCashFlowFacts.validate rt raw).toOption

/-- The facts of a scan under a key. -/
theorem lookup_factsByKey (rows : List RawCashFlowRecord) (acc : ManualScan) (key : String) :
    ((rows.foldl (scanManual rt) acc).factsByKey.lookup key).getD [] =
      (acc.factsByKey.lookup key).getD [] ++
        (validFacts rt rows).filter fun facts => facts.expectedDedupKey rt = key := by
  induction rows generalizing acc with
  | nil => simp [validFacts]
  | cons raw rows ih =>
    rw [List.foldl_cons, ih]
    cases h : ManualCashFlowFacts.validate rt raw with
    | error issues =>
      have hvalid : validFacts rt (raw :: rows) = validFacts rt rows :=
        List.filterMap_cons_none (by rw [h]; rfl)
      rw [hvalid, scanManual, h]
    | ok facts =>
      have hvalid : validFacts rt (raw :: rows) = facts :: validFacts rt rows :=
        List.filterMap_cons_some (by rw [h]; rfl)
      rw [hvalid, scanManual, h]
      simp only [Items.lookup_update]
      by_cases hk : facts.expectedDedupKey rt = key
      · rw [if_pos hk.symm, List.filter_cons_of_pos (by simpa using hk), hk]
        simp
      · rw [if_neg (Ne.symm hk), List.filter_cons_of_neg (by simpa using hk)]

theorem mem_keys_factsByKey (rows : List RawCashFlowRecord) (acc : ManualScan) (key : String) :
    key ∈ (rows.foldl (scanManual rt) acc).factsByKey.map Prod.fst ↔
      key ∈ acc.factsByKey.map Prod.fst ∨
        key ∈ (validFacts rt rows).map fun facts => facts.expectedDedupKey rt := by
  induction rows generalizing acc with
  | nil => simp [validFacts]
  | cons raw rows ih =>
    rw [List.foldl_cons, ih]
    cases h : ManualCashFlowFacts.validate rt raw with
    | error issues =>
      have hvalid : validFacts rt (raw :: rows) = validFacts rt rows :=
        List.filterMap_cons_none (by rw [h]; rfl)
      rw [hvalid, scanManual, h]
    | ok facts =>
      have hvalid : validFacts rt (raw :: rows) = facts :: validFacts rt rows :=
        List.filterMap_cons_some (by rw [h]; rfl)
      rw [hvalid, scanManual, h]
      simp only [Items.keys_update, List.map_cons, List.mem_cons]
      split
      next hmem => 
        constructor
        · exact Or.imp_right Or.inr
        · rintro (hin | rfl | hin)
          · exact Or.inl hin
          · exact Or.inl hmem
          · exact Or.inr hin
      · rw [List.mem_append, List.mem_singleton, or_assoc]

theorem nodup_factsByKey (rows : List RawCashFlowRecord) (acc : ManualScan)
    (h : (acc.factsByKey.map Prod.fst).Nodup) :
    ((rows.foldl (scanManual rt) acc).factsByKey.map Prod.fst).Nodup := by
  induction rows generalizing acc with
  | nil => exact h
  | cons raw rows ih =>
    refine ih _ ?_
    unfold scanManual
    split
    · exact h
    · exact Items.nodup_update h

variable {rt}
variable {rows rows' : List RawCashFlowRecord}

theorem validFacts_perm (h : rows.Perm rows') : (validFacts rt rows).Perm (validFacts rt rows') :=
  h.filterMap _

/-- The groups' keys and record ids do not depend on the order of the rows. -/
theorem identity_duplicateGroups_perm (h : rows.Perm rows') :
    (CashFlowManualDatasetAudit.build rt rows).duplicateGroups.map CashFlowDuplicateGroup.identity =
      (CashFlowManualDatasetAudit.build rt rows').duplicateGroups.map
        CashFlowDuplicateGroup.identity := by
  have hnodup := nodup_factsByKey rt rows .empty List.nodup_nil
  have hnodup' := nodup_factsByKey rt rows' .empty List.nodup_nil
  have hkeys : sortedTexts ((rows.foldl (scanManual rt) .empty).factsByKey.map Prod.fst) =
      sortedTexts ((rows'.foldl (scanManual rt) .empty).factsByKey.map Prod.fst) := by
    refine sortedTexts_perm ((List.perm_ext_iff_of_nodup hnodup hnodup').mpr fun key => ?_)
    rw [mem_keys_factsByKey, mem_keys_factsByKey, ((validFacts_perm h).map _).mem_iff]
  simp only [CashFlowManualDatasetAudit.build, duplicateGroups, List.map_filterMap,
    insertionSort_items [] hnodup, insertionSort_items [] hnodup', hkeys, List.filterMap_map,
    Function.comp_def]
  refine List.filterMap_congr fun key _ => ?_
  refine identity_duplicateGroup_perm key ?_
  rw [lookup_factsByKey, lookup_factsByKey]
  exact (List.Perm.refl _).append ((validFacts_perm h).filter _)

theorem duplicateRecordIds_perm (h : rows.Perm rows') :
    (CashFlowManualDatasetAudit.build rt rows).duplicateRecordIds =
      (CashFlowManualDatasetAudit.build rt rows').duplicateRecordIds := by
  have hflat : ∀ groups : List CashFlowDuplicateGroup, groups.flatMap (·.recordIds) =
      (groups.map CashFlowDuplicateGroup.identity).flatMap Prod.snd := by
    intro groups
    rw [List.flatMap_map]
    rfl
  rw [CashFlowManualDatasetAudit.duplicateRecordIds, CashFlowManualDatasetAudit.duplicateRecordIds,
    hflat, hflat, identity_duplicateGroups_perm h]

/-! ## Rows -/

theorem occurrences_perm (h : rows.Perm rows') (id : String) :
    occurrences rows id = occurrences rows' id := by
  by_cases hid : id = ""
  · rw [hid, occurrences_blank, occurrences_blank]
  · rw [occurrences_eq hid, occurrences_eq hid, h.countP_eq]

theorem repeatedRecordIds_perm (h : rows.Perm rows') :
    repeatedRecordIds rows = repeatedRecordIds rows' := by
  have hnodup : ∀ rows : List RawCashFlowRecord,
      (((recordIdCounts rows).filter fun item => 1 < item.2).map Prod.fst).Nodup := fun rows =>
    (nodup_counts _ [] List.nodup_nil).sublist (List.filter_sublist.map _)
  refine sortedTexts_perm ((List.perm_ext_iff_of_nodup (hnodup _) (hnodup _)).mpr fun id => ?_)
  have hmem : id ∈ repeatedRecordIds rows ↔ id ∈ repeatedRecordIds rows' := by
    rw [mem_repeatedRecordIds, mem_repeatedRecordIds, occurrences_perm h]
  rwa [repeatedRecordIds, repeatedRecordIds, mem_sortedTexts, mem_sortedTexts] at hmem

/-- A row of the scan is derived the same way whatever the order of the rows. -/
theorem derivedRow_perm (h : rows.Perm rows') {account : String} {raw : RawCashFlowRecord}
    (hmem : raw ∈ rows) : derivedRow rt rows account raw = derivedRow rt rows' account raw := by
  unfold derivedRow deriveRow
  rw [← repeatedRecordIds_perm h, ← duplicateRecordIds_perm h]
  by_cases hid : raw.recordId = ""
  · rw [if_pos hid, if_pos hid]
  · rw [if_neg hid, if_neg hid]
    by_cases hrepeated : raw.recordId ∈ repeatedRecordIds rows
    · rw [if_pos hrepeated, if_pos hrepeated]
    · have hunique := (mem_repeatedRecordIds_iff hid).not.mp hrepeated
      rw [not_lt] at hunique
      rw [if_neg hrepeated, if_neg hrepeated, lookup_scan rt hmem hunique,
        lookup_scan rt (h.mem_iff.mp hmem) (by rwa [← h.countP_eq])]

theorem completedRows_perm (h : rows.Perm rows') (account : String) :
    (deriveRows rt rows account).completedRows.Perm (deriveRows rt rows' account).completedRows := by
  simp only [deriveRows, List.filterMap_map]
  have hcongr : rows.filterMap (Except.toOption ∘ derivedRow rt rows account) =
      rows.filterMap (Except.toOption ∘ derivedRow rt rows' account) :=
    List.filterMap_congr fun raw hmem => by
      rw [Function.comp_apply, Function.comp_apply, derivedRow_perm h hmem]
  exact (List.Perm.of_eq hcongr).trans (h.filterMap _)

theorem subject_blockers_perm (h : rows.Perm rows') (account : String) :
    ((deriveRows rt rows account).blockers.map CashFlowDatasetBlocker.subject).Perm
      ((deriveRows rt rows' account).blockers.map CashFlowDatasetBlocker.subject) := by
  simp only [deriveRows, List.map_append, CashFlowManualDatasetAudit.build, issues_scan]
  refine List.Perm.append (List.Perm.append (List.Perm.append ?_ ?_) ?_) ?_
  · simp only [ManualScan.empty]
    exact ((h.flatMap_right _).map _).map _
  · rw [repeatedRecordIds_perm h]
    refine List.Perm.of_eq (congrArg _ (List.map_congr_left fun id _ => ?_))
    rw [occurrences_perm h]
  · have hsubject : ∀ groups : List CashFlowDuplicateGroup,
        (groups.map CashFlowDatasetBlocker.dedupKeyDuplicate).map CashFlowDatasetBlocker.subject =
          (groups.map CashFlowDuplicateGroup.identity).map fun identity =>
            ("EXPECTED_DEDUP_KEY_DUPLICATE",
              "multiple cash-flow rows share one canonical manual identity", "", none,
              Sum.inr identity) := by
      intro groups
      rw [List.map_map, List.map_map]
      rfl
    have hgroups : (CashFlowManualDatasetAudit.build rt rows).duplicateGroups.map _ =
        (CashFlowManualDatasetAudit.build rt rows').duplicateGroups.map _ :=
      identity_duplicateGroups_perm h
    simp only [CashFlowManualDatasetAudit.build] at hgroups
    rw [hsubject, hsubject, hgroups]
  · simp only [List.flatMap_map]
    have hcongr : rows.flatMap (fun raw => rowBlockers (derivedRow rt rows account raw)) =
        rows.flatMap fun raw => rowBlockers (derivedRow rt rows' account raw) :=
      List.flatMap_congr fun raw hmem => by rw [derivedRow_perm h hmem]
    exact ((List.Perm.of_eq hcongr).trans (h.flatMap_right _)).map _

end

end PortfolioManagement.Ledger
