import PortfolioManagement.Snapshots.Residual

/-!
# Sets a plan can leave behind

A writer that applies a plan creates, updates and deletes rows one after the other and may stop anywhere.
The sets it can leave are exactly the safe ones: the steps keep a set safe, and from a safe set the steps
that led to it are read off.
-/

namespace PortfolioManagement.Snapshots

/-- The row with the desired row's content, if it has its key. -/
def overwrite (desired row : HoldingSnapshot) : HoldingSnapshot :=
  if row.key = desired.key then desired.withRecordId row.recordId else row

/-- The sets that a part of the plan's own creates, updates and deletes leads to. A created row gets any
record id that no row has. -/
inductive Reachable (plan : SnapshotExactSetPlan) : List HoldingSnapshot → Prop
  | before : Reachable plan plan.before
  | create {rows : List HoldingSnapshot} {desired : HoldingSnapshot} {recordId : String} :
      Reachable plan rows → desired ∈ plan.desired → desired.key ∉ keysOf plan.before →
      desired.key ∉ keysOf rows → recordId ≠ "" → recordId ∉ rows.map HoldingSnapshot.id →
      Reachable plan (rows ++ [desired.withRecordId (some recordId)])
  | update {rows : List HoldingSnapshot} {desired : HoldingSnapshot} :
      Reachable plan rows → desired ∈ plan.desired → desired.key ∈ keysOf plan.before →
      Reachable plan (rows.map (overwrite desired))
  | delete {rows : List HoldingSnapshot} {beforeRow : HoldingSnapshot} :
      Reachable plan rows → beforeRow ∈ plan.before → beforeRow.key ∉ keysOf plan.desired →
      Reachable plan (rows.filter fun row => row.key ≠ beforeRow.key)
  | perm {rows rows' : List HoldingSnapshot} :
      Reachable plan rows → rows.Perm rows' → Reachable plan rows'

/-! ## Record ids -/

section
variable {account asOf : String} {rows rows' : List HoldingSnapshot} {row other desired : HoldingSnapshot}

theorem recordIds_eq : recordIds rows = (rows.map HoldingSnapshot.id).filter (· ≠ "") := by
  induction rows with
  | nil => rfl
  | cons row rest ih =>
    have hcons : recordIds (row :: rest) = (row.recordId.filter (· ≠ "")).toList ++ recordIds rest := by
      unfold recordIds
      rw [List.filterMap_cons]
      cases row.recordId.filter (· ≠ "") <;> rfl
    rw [hcons, ih, List.map_cons, List.filter_cons, HoldingSnapshot.id]
    cases hid : row.recordId with
    | none => simp
    | some recordId => by_cases hblank : recordId = "" <;> simp [Option.filter, hblank]

theorem recordId_of_ne (h : row.id ≠ "") : row.recordId = some row.id := by
  unfold HoldingSnapshot.id at *
  cases hid : row.recordId with
  | none => simp [hid] at h
  | some recordId => rfl

/-- The record ids of rows that all have one are distinct. -/
theorem ValidRows.nodup_ids (h : ValidRows account asOf true rows) :
    (rows.map HoldingSnapshot.id).Nodup := by
  have hids := h.ids
  rwa [recordIds_eq, List.filter_eq_self.mpr fun id hmem => by
    obtain ⟨row, hrow, rfl⟩ := List.mem_map.mp hmem
    exact decide_eq_true (h.recorded rfl row hrow)] at hids

theorem ValidRows.of_nodup_ids (hscope : ∀ row ∈ rows, assertSnapshotScope account asOf row = .ok ())
    (hrecorded : ∀ row ∈ rows, row.id ≠ "") (hkeys : (keysOf rows).Nodup)
    (hids : (rows.map HoldingSnapshot.id).Nodup) : ValidRows account asOf true rows :=
  ⟨hscope, fun _ => hrecorded, hkeys, by rw [recordIds_eq]; exact hids.filter _⟩

/-- A part of a valid set is valid. -/
theorem ValidRows.sublist (h : ValidRows account asOf true rows') (hsub : rows.Sublist rows') :
    ValidRows account asOf true rows :=
  .of_nodup_ids (fun row hrow => h.inScope row (hsub.subset hrow))
    (fun row hrow => h.recorded rfl row (hsub.subset hrow)) (h.keys.sublist (hsub.map _))
    (h.nodup_ids.sublist (hsub.map _))

theorem ValidRows.perm (h : ValidRows account asOf true rows) (hperm : rows.Perm rows') :
    ValidRows account asOf true rows' :=
  .of_nodup_ids (fun row hrow => h.inScope row (hperm.mem_iff.mpr hrow))
    (fun row hrow => h.recorded rfl row (hperm.mem_iff.mpr hrow))
    ((hperm.map _).nodup_iff.mp h.keys) ((hperm.map _).nodup_iff.mp h.nodup_ids)

/-- Whether a row is in the scope does not depend on its record id. -/
theorem scope_withRecordId {recordId : Option String} :
    assertSnapshotScope account asOf (row.withRecordId recordId) = assertSnapshotScope account asOf row :=
  rfl

end

/-! ## Overwriting -/

section
variable {desired row : HoldingSnapshot} {rows : List HoldingSnapshot}

@[simp] theorem key_overwrite : (overwrite desired row).key = row.key := by
  unfold overwrite
  by_cases hkey : row.key = desired.key
  · rw [if_pos hkey, HoldingSnapshot.key_withRecordId, hkey]
  · rw [if_neg hkey]

@[simp] theorem recordId_overwrite : (overwrite desired row).recordId = row.recordId := by
  unfold overwrite
  by_cases hkey : row.key = desired.key
  · rw [if_pos hkey, HoldingSnapshot.recordId_withRecordId]
  · rw [if_neg hkey]

@[simp] theorem id_overwrite : (overwrite desired row).id = row.id := by
  rw [HoldingSnapshot.id, recordId_overwrite, HoldingSnapshot.id]

theorem keysOf_overwrite : keysOf (rows.map (overwrite desired)) = keysOf rows := by
  unfold keysOf
  rw [List.map_map]
  exact List.map_congr_left fun row _ => key_overwrite

theorem ids_overwrite : (rows.map (overwrite desired)).map HoldingSnapshot.id =
    rows.map HoldingSnapshot.id := by
  rw [List.map_map]
  exact List.map_congr_left fun row _ => id_overwrite

end

/-! ## The steps keep a set safe -/

section
variable {plan : SnapshotExactSetPlan} {rows rows' : List HoldingSnapshot} {row d b : HoldingSnapshot}

theorem safeReplay_before : SafeReplay plan plan.before where
  valid := plan.validBefore
  known := fun row hrow => .inl (key_mem_keysOf hrow)
  kept := fun d _ hin => hin
  safe := fun d _ row hrow hkey =>
    { bound := fun b hb hbkey => by
        obtain rfl := eq_of_key_eq plan.validBefore.keys hrow hb (hkey.trans hbkey.symm)
        exact ⟨rfl, .inl rfl⟩
      new := fun hnew => absurd (hkey ▸ key_mem_keysOf hrow) hnew }
  obsolete := fun b hb row hrow hkey =>
    eq_of_key_eq plan.validBefore.keys hrow (mem_obsolete.mp hb).1 hkey

theorem SafeReplay.create (h : SafeReplay plan rows) (hd : d ∈ plan.desired)
    (hnew : d.key ∉ keysOf plan.before) (habsent : d.key ∉ keysOf rows) {recordId : String}
    (hblank : recordId ≠ "") (hfresh : recordId ∉ rows.map HoldingSnapshot.id) :
    SafeReplay plan (rows ++ [d.withRecordId (some recordId)]) := by
  have hid : (d.withRecordId (some recordId)).id = recordId := rfl
  have hcases : ∀ row ∈ rows ++ [d.withRecordId (some recordId)],
      row ∈ rows ∨ row = d.withRecordId (some recordId) := fun row hrow => by
    simpa using List.mem_append.mp hrow
  refine ⟨?_, fun row hrow => ?_, fun e he hin => ?_, fun e he row hrow hkey => ?_,
    fun b hb row hrow hkey => ?_⟩
  · refine .of_nodup_ids (fun row hrow => ?_) (fun row hrow => ?_) ?_ ?_
    · rcases hcases row hrow with hold | rfl
      · exact h.valid.inScope row hold
      · exact plan.validDesired.inScope d hd
    · rcases hcases row hrow with hold | rfl
      · exact h.valid.recorded rfl row hold
      · exact hblank
    · rw [keysOf, List.map_append]
      exact List.nodup_append.mpr ⟨h.valid.keys, List.nodup_singleton _, fun a ha c hc heq =>
        habsent (by rw [List.mem_singleton.mp hc] at heq; exact heq ▸ ha)⟩
    · rw [List.map_append]
      exact List.nodup_append.mpr ⟨h.valid.nodup_ids, List.nodup_singleton _, fun a ha c hc heq =>
        hfresh (by rw [List.mem_singleton.mp hc, hid] at heq; exact heq ▸ ha)⟩
  · rcases hcases row hrow with hold | rfl
    · exact h.known row hold
    · exact .inr (List.mem_map.mpr ⟨d, hd, rfl⟩)
  · rw [keysOf, List.map_append]
    exact List.mem_append_left _ (h.kept e he hin)
  · rcases hcases row hrow with hold | rfl
    · exact h.safe e he row hold hkey
    · obtain rfl := eq_of_key_eq plan.validDesired.keys hd he hkey
      exact ⟨fun b hb hbkey => absurd (hbkey ▸ key_mem_keysOf hb) hnew, fun _ => rfl⟩
  · rcases hcases row hrow with hold | rfl
    · exact h.obsolete b hb row hold hkey
    · exact absurd (List.mem_map.mpr ⟨d, hd, hkey⟩) (mem_obsolete.mp hb).2

theorem SafeReplay.update (h : SafeReplay plan rows) (hd : d ∈ plan.desired)
    (hbound : d.key ∈ keysOf plan.before) : SafeReplay plan (rows.map (overwrite d)) := by
  have hkeys : keysOf (rows.map (overwrite d)) = keysOf rows := keysOf_overwrite
  refine ⟨?_, fun row hrow => ?_, fun e he hin => ?_, fun e he row hrow hkey => ?_,
    fun b hb row hrow hkey => ?_⟩
  · refine .of_nodup_ids (fun row hrow => ?_) (fun row hrow => ?_) ?_ ?_
    · obtain ⟨old, hold, rfl⟩ := List.mem_map.mp hrow
      unfold overwrite
      by_cases hkey : old.key = d.key
      · rw [if_pos hkey, scope_withRecordId]
        exact plan.validDesired.inScope d hd
      · rw [if_neg hkey]
        exact h.valid.inScope old hold
    · obtain ⟨old, hold, rfl⟩ := List.mem_map.mp hrow
      rw [id_overwrite]
      exact h.valid.recorded rfl old hold
    · rw [hkeys]
      exact h.valid.keys
    · rw [ids_overwrite]
      exact h.valid.nodup_ids
  · obtain ⟨old, hold, rfl⟩ := List.mem_map.mp hrow
    rw [key_overwrite]
    exact h.known old hold
  · rw [hkeys]
    exact h.kept e he hin
  · obtain ⟨old, hold, rfl⟩ := List.mem_map.mp hrow
    rw [key_overwrite] at hkey
    have hsafe := h.safe e he old hold hkey
    unfold overwrite
    by_cases hsame : old.key = d.key
    · rw [if_pos hsame]
      obtain rfl := eq_of_key_eq plan.validDesired.keys he hd (hkey.symm.trans hsame)
      exact ⟨fun b hb hbkey => ⟨(hsafe.bound b hb hbkey).1, .inr (by rw [(hsafe.bound b hb hbkey).1])⟩,
        fun hnew => absurd hbound hnew⟩
    · rw [if_neg hsame]
      exact hsafe
  · obtain ⟨old, hold, rfl⟩ := List.mem_map.mp hrow
    rw [key_overwrite] at hkey
    have hother : old.key ≠ d.key := fun hsame =>
      (mem_obsolete.mp hb).2 (hkey ▸ hsame ▸ key_mem_keysOf hd)
    unfold overwrite
    rw [if_neg hother]
    exact h.obsolete b hb old hold hkey

theorem SafeReplay.delete (h : SafeReplay plan rows) (hobsolete : b.key ∉ keysOf plan.desired) :
    SafeReplay plan (rows.filter fun row => row.key ≠ b.key) := by
  have hsub : (rows.filter fun row => row.key ≠ b.key).Sublist rows := List.filter_sublist
  refine ⟨h.valid.sublist hsub, fun row hrow => h.known row (hsub.subset hrow), fun e he hin => ?_,
    fun e he row hrow => h.safe e he row (hsub.subset hrow),
    fun c hc row hrow => h.obsolete c hc row (hsub.subset hrow)⟩
  obtain ⟨row, hrow, hkey⟩ := mem_keysOf.mp (h.kept e he hin)
  refine mem_keysOf.mpr ⟨row, List.mem_filter.mpr ⟨hrow, decide_eq_true fun hsame => ?_⟩, hkey⟩
  exact hobsolete (hsame ▸ hkey ▸ key_mem_keysOf he)

theorem SafeReplay.perm (h : SafeReplay plan rows) (hperm : rows.Perm rows') : SafeReplay plan rows' :=
  ⟨h.valid.perm hperm, fun row hrow => h.known row (hperm.mem_iff.mpr hrow),
    fun e he hin => (hperm.map _).mem_iff.mp (h.kept e he hin),
    fun e he row hrow => h.safe e he row (hperm.mem_iff.mpr hrow),
    fun c hc row hrow => h.obsolete c hc row (hperm.mem_iff.mpr hrow)⟩

theorem Reachable.safeReplay (h : Reachable plan rows) : SafeReplay plan rows := by
  induction h with
  | before => exact safeReplay_before
  | create _ hd hnew habsent hblank hfresh ih => exact ih.create hd hnew habsent hblank hfresh
  | update _ hd hbound ih => exact ih.update hd hbound
  | delete _ _ hobsolete ih => exact ih.delete hobsolete
  | perm _ hperm ih => exact ih.perm hperm

/-! ## A safe set is reached -/

/-- Deleting obsolete rows one after the other. -/
theorem Reachable.deleteAll (h : Reachable plan rows) (gone : List HoldingSnapshot)
    (hgone : ∀ b ∈ gone, b ∈ plan.obsolete) :
    Reachable plan (rows.filter fun row => row.key ∉ keysOf gone) := by
  induction gone generalizing rows with
  | nil =>
    have hall : (rows.filter fun row => row.key ∉ keysOf []) = rows :=
      List.filter_eq_self.mpr fun row _ => by simp [keysOf]
    rw [hall]
    exact h
  | cons b gone ih =>
    obtain ⟨hb, hobsolete⟩ := mem_obsolete.mp (hgone b List.mem_cons_self)
    have hnext := ih (h.delete hb hobsolete) fun c hc => hgone c (List.mem_cons_of_mem _ hc)
    have hfilter : ((rows.filter fun row => row.key ≠ b.key).filter fun row => row.key ∉ keysOf gone) =
        rows.filter fun row => row.key ∉ keysOf (b :: gone) := by
      rw [List.filter_filter]
      refine List.filter_congr fun row _ => ?_
      simp [keysOf, Bool.and_comm]
    rwa [hfilter] at hnext

/-- A row after the desired rows of some keys were written. -/
def overwriteBy (changed : List HoldingSnapshot) (row : HoldingSnapshot) : HoldingSnapshot :=
  match rowAt changed row.key with
  | some d => d.withRecordId row.recordId
  | none => row

theorem overwriteBy_cons {changed : List HoldingSnapshot} (hnew : d.key ∉ keysOf changed) :
    overwriteBy changed (overwrite d row) = overwriteBy (d :: changed) row := by
  unfold overwriteBy
  rw [key_overwrite, recordId_overwrite]
  by_cases hkey : row.key = d.key
  · have hat : rowAt (d :: changed) row.key = some d :=
      List.find?_cons_of_pos (decide_eq_true hkey.symm)
    rw [hat, hkey, rowAt_eq_none.mpr hnew, overwrite, if_pos hkey]
  · have hat : rowAt (d :: changed) row.key = rowAt changed row.key :=
      List.find?_cons_of_neg (by simpa using Ne.symm hkey)
    rw [hat, overwrite, if_neg hkey]

/-- Writing desired rows over rows one after the other. -/
theorem Reachable.updateAll (h : Reachable plan rows) (changed : List HoldingSnapshot)
    (hkeys : (keysOf changed).Nodup)
    (hchanged : ∀ d ∈ changed, d ∈ plan.desired ∧ d.key ∈ keysOf plan.before) :
    Reachable plan (rows.map (overwriteBy changed)) := by
  induction changed generalizing rows with
  | nil =>
    have hall : rows.map (overwriteBy []) = rows := List.map_id'' (fun _ => rfl) rows
    rw [hall]
    exact h
  | cons d changed ih =>
    obtain ⟨hnew, hkeys⟩ := List.nodup_cons.mp hkeys
    obtain ⟨hd, hbound⟩ := hchanged d List.mem_cons_self
    have hnext := ih (h.update hd hbound) hkeys fun e he => hchanged e (List.mem_cons_of_mem _ he)
    have hmap : (rows.map (overwrite d)).map (overwriteBy changed) =
        rows.map (overwriteBy (d :: changed)) := by
      rw [List.map_map]
      exact List.map_congr_left fun row _ => overwriteBy_cons hnew
    rwa [hmap] at hnext

/-- Creating rows one after the other. -/
theorem Reachable.createAll (h : Reachable plan rows) (created : List HoldingSnapshot)
    (hcreated : ∀ row ∈ created, row.key ∉ keysOf plan.before ∧ row.id ≠ "" ∧
      ∃ d ∈ plan.desired, d.key = row.key ∧ row = d.withRecordId row.recordId)
    (hkeys : (keysOf (rows ++ created)).Nodup)
    (hids : ((rows ++ created).map HoldingSnapshot.id).Nodup) : Reachable plan (rows ++ created) := by
  induction created generalizing rows with
  | nil =>
    rw [List.append_nil]
    exact h
  | cons row created ih =>
    obtain ⟨hnew, hblank, d, hd, hkey, heq⟩ := hcreated row List.mem_cons_self
    have happend : rows ++ row :: created = (rows ++ [row]) ++ created := by simp
    have hfront : (rows ++ [row]).Sublist (rows ++ row :: created) := by
      rw [happend]
      exact List.sublist_append_left _ _
    have hrow : row = d.withRecordId (some row.id) := by
      rw [← recordId_of_ne hblank]
      exact heq
    have habsent : d.key ∉ keysOf rows := by
      have hnodup := hkeys.sublist (hfront.map _)
      rw [List.map_append] at hnodup
      intro hin
      exact (List.nodup_append.mp hnodup).2.2 _ hin _ (List.mem_singleton.mpr rfl) hkey
    have hfresh : row.id ∉ rows.map HoldingSnapshot.id := by
      have hnodup := hids.sublist (hfront.map _)
      rw [List.map_append] at hnodup
      intro hin
      exact (List.nodup_append.mp hnodup).2.2 _ hin _ (List.mem_singleton.mpr rfl) rfl
    have hstep := h.create hd (hkey ▸ hnew) habsent hblank hfresh
    rw [← hrow] at hstep
    rw [happend] at hkeys hids ⊢
    exact ih hstep (fun r hr => hcreated r (List.mem_cons_of_mem _ hr)) hkeys hids

/-- The desired rows that a current set already holds. -/
def changedIn (plan : SnapshotExactSetPlan) (rows : List HoldingSnapshot) : List HoldingSnapshot :=
  plan.desired.filter fun d =>
    d.key ∈ keysOf plan.before ∧ ∃ row ∈ rows, row = d.withRecordId row.recordId

/-- In a safe set a bound row that is still there is the row before, after the desired rows the set
already holds were written. -/
theorem SafeReplay.overwriteBy_eq (h : SafeReplay plan rows) (hrow : row ∈ rows) (hb : b ∈ plan.before)
    (hkey : row.key = b.key) : overwriteBy (changedIn plan rows) b = row := by
  have hchanged : (keysOf (changedIn plan rows)).Nodup :=
    plan.validDesired.keys.sublist (List.filter_sublist.map _)
  have hmem : ∀ d, d ∈ changedIn plan rows ↔ d ∈ plan.desired ∧ d.key ∈ keysOf plan.before ∧
      ∃ row ∈ rows, row = d.withRecordId row.recordId := fun d => by
    unfold changedIn
    rw [List.mem_filter, decide_eq_true_eq]
  unfold overwriteBy
  cases hat : rowAt (changedIn plan rows) b.key with
  | some d =>
    obtain ⟨hd, hdkey⟩ := (rowAt_eq_some hchanged).mp hat
    obtain ⟨hdesired, -, held, hheld, heq⟩ := (hmem d).mp hd
    have hsame : held = row := eq_of_key_eq h.valid.keys hheld hrow
      ((congrArg HoldingSnapshot.key heq).trans (hdkey.trans hkey.symm))
    rw [hsame] at heq
    have hid := ((h.safe d hdesired row hrow (hkey.trans hdkey.symm)).bound b hb hdkey.symm).1
    rw [← hid]
    exact heq.symm
  | none =>
    have hout := rowAt_eq_none.mp hat
    by_cases hin : b.key ∈ keysOf plan.desired
    · obtain ⟨d, hd, hdkey⟩ := mem_keysOf.mp hin
      obtain ⟨hid, hbefore | hdesired⟩ :=
        (h.safe d hd row hrow (hkey.trans hdkey.symm)).bound b hb hdkey.symm
      · exact hbefore.symm
      · refine absurd ?_ hout
        rw [← hdkey]
        refine key_mem_keysOf ((hmem d).mpr ⟨hd, hdkey ▸ key_mem_keysOf hb, row, hrow, ?_⟩)
        rw [hid]
        exact hdesired
    · exact (h.obsolete b (mem_obsolete.mpr ⟨hb, hin⟩) row hrow hkey).symm

/-- A safe set is reached by deleting what is gone, writing what is changed and creating what is new. -/
theorem SafeReplay.reachable (h : SafeReplay plan rows) : Reachable plan rows := by
  let gone := plan.obsolete.filter fun b => b.key ∉ keysOf rows
  let kept := (plan.before.filter fun b => b.key ∉ keysOf gone).map (overwriteBy (changedIn plan rows))
  let created := rows.filter fun row => row.key ∉ keysOf plan.before
  have hkept : Reachable plan kept := by
    refine Reachable.updateAll (Reachable.deleteAll .before gone fun b hb => List.mem_of_mem_filter hb)
      (changedIn plan rows) (plan.validDesired.keys.sublist (List.filter_sublist.map _)) fun d hd => ?_
    obtain ⟨hdesired, hcondition⟩ := List.mem_filter.mp hd
    exact ⟨hdesired, (of_decide_eq_true hcondition).1⟩
  have hmem : ∀ row, row ∈ kept ↔ row ∈ rows ∧ row.key ∈ keysOf plan.before := by
    intro row
    constructor
    · intro hin
      obtain ⟨b, hb, rfl⟩ := List.mem_map.mp hin
      obtain ⟨hbefore, hgone⟩ := List.mem_filter.mp hb
      have hthere : b.key ∈ keysOf rows := by
        by_contra habsent
        refine of_decide_eq_true hgone (key_mem_keysOf (List.mem_filter.mpr ⟨?_, decide_eq_true habsent⟩))
        refine mem_obsolete.mpr ⟨hbefore, fun hdesired => ?_⟩
        obtain ⟨d, hd, hdkey⟩ := mem_keysOf.mp hdesired
        exact habsent (hdkey ▸ h.kept d hd (hdkey ▸ key_mem_keysOf hbefore))
      obtain ⟨held, hheld, hkey⟩ := mem_keysOf.mp hthere
      rw [h.overwriteBy_eq hheld hbefore hkey]
      exact ⟨hheld, hkey ▸ key_mem_keysOf hbefore⟩
    · rintro ⟨hrow, hbound⟩
      obtain ⟨b, hb, hkey⟩ := mem_keysOf.mp hbound
      refine List.mem_map.mpr ⟨b, List.mem_filter.mpr ⟨hb, decide_eq_true fun hgone => ?_⟩,
        h.overwriteBy_eq hrow hb hkey.symm⟩
      obtain ⟨g, hg, hgkey⟩ := mem_keysOf.mp hgone
      exact of_decide_eq_true (List.mem_filter.mp hg).2 (hgkey ▸ hkey ▸ key_mem_keysOf hrow)
  have hsafe := hkept.safeReplay
  have hparts : ∀ row, row ∈ kept ++ created ↔ row ∈ rows := by
    intro row
    rw [List.mem_append, hmem, List.mem_filter, decide_eq_true_eq]
    tauto
  have hdisjoint : ∀ row ∈ kept, ∀ other ∈ created, row.key ≠ other.key := fun row hrow other hother heq =>
    of_decide_eq_true (List.mem_filter.mp hother).2 (heq ▸ ((hmem row).mp hrow).2)
  have hkeys : (keysOf (kept ++ created)).Nodup := by
    rw [keysOf, List.map_append]
    refine List.nodup_append.mpr ⟨hsafe.valid.keys, h.valid.keys.sublist (List.filter_sublist.map _), ?_⟩
    intro a ha c hc heq
    obtain ⟨row, hrow, rfl⟩ := List.mem_map.mp ha
    obtain ⟨other, hother, rfl⟩ := List.mem_map.mp hc
    exact hdisjoint row hrow other hother heq
  have hids : ((kept ++ created).map HoldingSnapshot.id).Nodup := by
    rw [List.map_append]
    refine List.nodup_append.mpr
      ⟨hsafe.valid.nodup_ids, h.valid.nodup_ids.sublist (List.filter_sublist.map _), ?_⟩
    intro a ha c hc heq
    obtain ⟨row, hrow, rfl⟩ := List.mem_map.mp ha
    obtain ⟨other, hother, rfl⟩ := List.mem_map.mp hc
    have hsame := eq_of_key_eq h.valid.nodup_ids ((hmem row).mp hrow).1 (List.mem_of_mem_filter hother) heq
    exact hdisjoint row hrow other hother (congrArg HoldingSnapshot.key hsame)
  have hcreated : ∀ row ∈ created, row.key ∉ keysOf plan.before ∧ row.id ≠ "" ∧
      ∃ d ∈ plan.desired, d.key = row.key ∧ row = d.withRecordId row.recordId := by
    intro row hrow
    obtain ⟨hin, hnew⟩ := List.mem_filter.mp hrow
    have hnew := of_decide_eq_true hnew
    obtain ⟨d, hd, hdkey⟩ := mem_keysOf.mp ((h.known row hin).resolve_left hnew)
    exact ⟨hnew, h.valid.recorded rfl row hin, d, hd, hdkey,
      (h.safe d hd row hin hdkey.symm).new (hdkey.symm ▸ hnew)⟩
  refine (hkept.createAll created hcreated hkeys hids).perm ?_
  exact (List.perm_ext_iff_of_nodup (List.Nodup.of_map _ hkeys) (List.Nodup.of_map _ h.valid.keys)).mpr
    hparts

/-- The sets a plan can leave behind are the safe ones. -/
theorem reachable_iff_safeReplay : Reachable plan rows ↔ SafeReplay plan rows :=
  ⟨Reachable.safeReplay, SafeReplay.reachable⟩

end

end PortfolioManagement.Snapshots
