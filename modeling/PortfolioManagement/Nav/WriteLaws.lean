import PortfolioManagement.Nav.RepositoryLaws

/-!
# Writes of the NAV repository

What a write sends to the table and what it leaves in the local copies. The requests of a write
change the rows of its account that have the date of a record, and create rows for the dates that
have none; a failed write has sent a first part of them.
-/

namespace PortfolioManagement.Nav

open Prog (EndsIn ends_bind ends_pure ends_raise ends_reads ends_alter ends_lift ends_rescue ends_fold)

/-! ## The rows before a write -/

section
variable {w : NavWorld} {account : String}

/-- Rows without a group of duplicates have distinct dates. -/
theorem nodup_dates_of_duplicateGroups {rows : List NavRow} (h : duplicateGroups rows = []) :
    (rows.map NavRow.date).Nodup := by
  refine List.nodup_iff_count_le_one.mpr fun date => ?_
  by_cases hmem : date ∈ rows.map NavRow.date
  · obtain ⟨row, hrow, rfl⟩ := List.mem_map.mp hmem
    obtain ⟨last, hlast, hdate⟩ : ∃ last ∈ valuesBy NavRow.date rows, last.date = row.date :=
      exists_mem_valuesBy hrow
    have hgroup := List.filter_eq_nil_iff.mp h _ (List.mem_map_of_mem hlast)
    have hcount : (rows.map NavRow.date).count row.date =
        (rows.filter fun other => other.date = last.date).length := by
      rw [List.count_eq_countP, List.countP_map, List.countP_eq_length_filter, hdate]
      rfl
    rw [hcount]
    simpa using hgroup
  · rw [List.count_eq_zero_of_not_mem hmem]
    exact Nat.zero_le 1

/-- The rows that a write starts from are the fresh rows, and are those of the local copy. -/
theorem existingRowsForWrite_ends (account : String) (hw : Sound w) :
    EndsIn (fun rows w' => Sound w' ∧ SameTable w w' ∧ rows = w.table.freshRows account ∧
        w'.cache account = some (w.freshEntry account) ∧ (rows.map NavRow.date).Nodup)
      (fun _ w' => Sound w' ∧ SameTable w w') (existingRowsForWrite account w) := by
  unfold existingRowsForWrite
  rw [ends_bind]
  refine (refreshNavIndex_ends account true hw).imp ?_ fun _ _ h => h
  rintro _ w' ⟨hw', hsame, hmem, hcache⟩
  rw [ends_bind, getNavIndex_of_mem hmem]
  show EndsIn _ _ ((if _ then _ else _ : NavProg _) w')
  split
  · exact ⟨hw', hsame⟩
  · next hnone =>
    exact ⟨hw', hsame, rfl, hcache rfl, nodup_dates_of_duplicateGroups (not_not.mp hnone)⟩

/-- A failed stage raises its report, whatever became of the copies. -/
theorem raiseBatchError_ends {α : Type} (account operation : String) (unknown : Bool)
    (updates creates : List Nat) (updateRows createRows : Nat) (hw : Sound w) :
    EndsIn (fun (_ : α) _ => False)
      (fun e w' => Sound w' ∧ SameTable w w' ∧ ∃ report, e = .batch report)
      (raiseBatchError account operation unknown updates creates updateRows createRows w) := by
  -- the copies of the account are forgotten before they are read again
  have hcleared : Sound (clearNavIndexAuthority account w).2 :=
    .of_same w ⟨rfl, rfl, List.suffix_rfl⟩ (dated_update hw.mem nofun) (dated_update hw.cache nofun)
      (dated_update hw.cache nofun)
  unfold raiseBatchError stageAwareBatchError
  rw [ends_bind, ends_bind, ends_rescue, ends_bind]
  show EndsIn _ _ ((refreshNavIndex account true >>= fun _ => pure true)
    (clearNavIndexAuthority account w).2)
  rw [ends_bind]
  refine (refreshNavIndex_ends account true hcleared).imp ?_ ?_
  · rintro _ w' ⟨hw', hsame, -⟩
    exact ⟨hw', ⟨hsame.table, hsame.revision, hsame.answers⟩, _, rfl⟩
  · rintro e w' ⟨hw', hsame⟩
    exact ⟨.of_same w' ⟨rfl, rfl, List.suffix_rfl⟩ (dated_update hw'.mem nofun) hw'.cache hw'.file,
      ⟨hsame.table, hsame.revision, hsame.answers⟩, _, rfl⟩

end

/-! ## Batch requests -/

section
variable {w : NavWorld}

theorem results_updateAll : Results NavTable.updateAll fun chunk _ => chunk.map Update.recordId :=
  ⟨fun _ _ _ => List.map_append, fun _ _ => List.length_map _⟩

theorem results_createAll : Results NavTable.createAll fun (chunk : List Create) table =>
    List.range' table.nextId chunk.length where
  append := by
    intro rows rows' table
    show List.range' _ _ = _ ++ List.range' (table.nextId + rows.length) _
    rw [List.length_append, List.range'_append_1]
  length := fun _ _ => List.length_range'

theorem batchUpdateRecords_ends (account : String) (updates : List Update) (w : NavWorld) :
    EndsIn (fun ids w' => Committed account NavTable.updateAll updates w w' ∧
        ids = updates.map Update.recordId)
      (fun e w' => ∃ done, done <+: updates ∧ Committed account NavTable.updateAll done w w' ∧
        (e.namesUnknownField = true → e.confirmedResults = [] →
          done = [] ∧ .unknownField ∈ w.answers))
      (batchUpdateRecords account updates w) := by
  refine (requestChunks_ends composes_updateAll results_updateAll account _ updates [] w
    le_rfl).imp (fun _ _ h => h) ?_
  rintro _ w' ⟨done, hdone, hcommitted, unknown, ids, rfl, hids⟩
  refine ⟨done, hdone, hcommitted, fun hunknown hnil => ?_⟩
  have hlength := congrArg List.length ((hids hunknown).1.symm.trans hnil)
  exact ⟨List.eq_nil_of_length_eq_zero (by simpa using hlength), (hids hunknown).2⟩

/-- A new row that passes its check has an account that is not blank. -/
theorem account_of_validateCreates {n : Nat} {creates : List Create}
    (h : validateCreates n creates = .ok ()) :
    ∀ create ∈ creates, strip create.account ≠ "" := by
  induction creates generalizing n with
  | nil => nofun
  | cons first creates ih =>
    intro create hcreate
    unfold validateCreates at h
    cases hfirst : validateCreate (" row_index=" ++ toString n) first with
    | error e =>
      rw [hfirst] at h
      cases h
    | ok _ =>
      rw [hfirst] at h
      rcases List.mem_cons.mp hcreate with rfl | hcreate
      · intro hblank
        rw [validateCreate, missingField, if_pos hblank] at hfirst
        cases hfirst
      · exact ih h create hcreate

/-- The check of new rows raises no error of the client. -/
theorem client_of_validateCreates {n : Nat} {creates : List Create} {e : NavError}
    (h : validateCreates n creates = .error e) : e.namesUnknownField = false := by
  induction creates generalizing n with
  | nil => cases h
  | cons first creates ih =>
    unfold validateCreates at h
    cases hfirst : validateCreate (" row_index=" ++ toString n) first with
    | ok _ =>
      rw [hfirst] at h
      exact ih h
    | error e' =>
      rw [hfirst] at h
      obtain rfl : e' = e := Except.error.inj h
      unfold validateCreate at hfirst
      split at hfirst
      · cases hfirst
        rfl
      · cases hfirst

theorem batchCreateRecords_ends (account : String) (creates : List Create) (w : NavWorld) :
    EndsIn (fun ids w' => Committed account NavTable.createAll creates w w' ∧
        ids = List.range' w.table.nextId creates.length ∧
        ∀ create ∈ creates, strip create.account ≠ "")
      (fun e w' => ∃ done, done <+: creates ∧ Committed account NavTable.createAll done w w' ∧
        (e.namesUnknownField = true → e.confirmedResults = [] →
          done = [] ∧ .unknownField ∈ w.answers))
      (batchCreateRecords account creates w) := by
  unfold batchCreateRecords
  rw [ends_bind]
  cases hvalid : validateCreates 0 creates with
  | error e =>
    refine ⟨[], List.nil_prefix, .refl composes_createAll account w, fun hnames => ?_⟩
    rw [client_of_validateCreates hvalid] at hnames
    cases hnames
  | ok _ =>
    refine (requestChunks_ends composes_createAll results_createAll account _ creates [] w
      le_rfl).imp (fun _ _ h => ⟨h.1, h.2, account_of_validateCreates hvalid⟩) ?_
    rintro _ w' ⟨done, hdone, hcommitted, unknown, ids, rfl, hids⟩
    refine ⟨done, hdone, hcommitted, fun hunknown hnil => ?_⟩
    have hlength := congrArg List.length ((hids hunknown).1.symm.trans hnil)
    exact ⟨List.eq_nil_of_length_eq_zero (by simpa using hlength), (hids hunknown).2⟩

end

/-! ## The stages of a batch -/

/-- The request of an updated record, without the details in a fallback. -/
def sentUpdate (fallback : Bool) (pair : NAVHistory × NavRow) : Update :=
  if fallback then (updatePayload pair).withoutDetails else updatePayload pair

/-- The local row of an updated record, with the old details in a fallback. -/
def localRow (mode : WriteMode) (fallback : Bool) (pair : NAVHistory × NavRow) : NavRow :=
  if fallback then fallbackRow pair.2 (updatedRow mode pair) else updatedRow mode pair

/-- The request of a created record, without the details in a fallback. -/
def sentCreate (fallback : Bool) (nav : NAVHistory) : Create :=
  if fallback then (createPayload nav).withoutDetails else createPayload nav

@[simp] theorem sentUpdate_recordId (fallback : Bool) (pair : NAVHistory × NavRow) :
    (sentUpdate fallback pair).recordId = pair.2.recordId := by
  cases fallback <;> rfl

@[simp] theorem sentCreate_account (fallback : Bool) (nav : NAVHistory) :
    (sentCreate fallback nav).account = nav.account := by
  cases fallback <;> rfl

@[simp] theorem sentCreate_date (fallback : Bool) (nav : NAVHistory) :
    (sentCreate fallback nav).date = nav.date := by
  cases fallback <;> rfl

section
variable {account : String} {w : NavWorld}

theorem failClosed_ends (payloads : List Cells) (operation : String) (w : NavWorld) :
    EndsIn (fun _ w' => w' = w) (fun e w' => w' = w ∧ e.hasScopes = false)
      (failClosed payloads operation w) := by
  unfold failClosed
  split
  · exact ⟨rfl, rfl⟩
  · rfl

/-- Requests that were sent to rows of the account keep all copies dated. -/
theorem Committed.sound_update {done : List Update} {w' : NavWorld}
    (h : Committed account NavTable.updateAll done w w')
    (hlocal : ∀ update ∈ done, ∀ row ∈ w.table.rows, row.recordId = update.recordId →
      row.account = account) (hw : Sound w) : Sound w' :=
  h.sound composes_updateAll
    (fun _ hother => NavTable.freshRows_updateAll_of_ne hother hlocal) hw

theorem Committed.sound_create {done : List Create} {w' : NavWorld}
    (h : Committed account NavTable.createAll done w w')
    (hlocal : ∀ create ∈ done, create.account = account) (hw : Sound w) : Sound w' :=
  h.sound composes_createAll
    (fun _ hother => NavTable.freshRows_createAll_of_ne hother hlocal) hw

/-- The records of the pairs are rows of the account. -/
def OwnRows (account : String) (table : NavTable) (pairs : List (NAVHistory × NavRow)) : Prop :=
  ∀ pair ∈ pairs, ∀ row ∈ table.rows, row.recordId = pair.2.recordId → row.account = account

theorem OwnRows.sent {pairs : List (NAVHistory × NavRow)} {fallback : Bool} {done : List Update}
    (h : OwnRows account w.table pairs) (hdone : done <+: pairs.map (sentUpdate fallback)) :
    ∀ update ∈ done, ∀ row ∈ w.table.rows, row.recordId = update.recordId →
      row.account = account := by
  intro update hupdate row hrow hid
  obtain ⟨pair, hpair, rfl⟩ := List.mem_map.mp (hdone.subset hupdate)
  rw [sentUpdate_recordId] at hid
  exact h pair hpair row hrow hid

/-- The update stage sends the requests of the records, all with or all without the details, or
raises after it sent a first part of them. -/
theorem updateStage_ends (mode : WriteMode) {pairs : List (NAVHistory × NavRow)}
    (howns : OwnRows account w.table pairs) (hw : Sound w) :
    EndsIn (fun out w' => Sound w' ∧ ∃ fallback,
        Committed account NavTable.updateAll (pairs.map (sentUpdate fallback)) w w' ∧
        out.2 = pairs.map (localRow mode fallback) ∧
        (fallback = true → .unknownField ∈ w.answers))
      (fun _ w' => Sound w' ∧ ∃ fallback done, done <+: pairs.map (sentUpdate fallback) ∧
        w'.table = w.table.updateAll done)
      (updateStage account mode pairs w) := by
  unfold updateStage
  split
  · next h =>
    subst h
    exact ⟨hw, false, Committed.refl composes_updateAll account w, rfl, nofun⟩
  · rw [ends_rescue, ends_bind]
    -- what a failed batch leaves, once its report was raised
    have hraise : ∀ {fallback : Bool} {done : List Update} {w' : NavWorld} (unknown ids),
        done <+: pairs.map (sentUpdate fallback) →
        Committed account NavTable.updateAll done w w' →
        EndsIn (fun (_ : List Nat × List NavRow) _ => False)
          (fun _ w'' => Sound w'' ∧ ∃ fallback done, done <+: pairs.map (sentUpdate fallback) ∧
            w''.table = w.table.updateAll done)
          (raiseBatchError account "update" unknown ids [] pairs.length 0 w') := by
      intro fallback done w' unknown ids hdone hsent
      refine (raiseBatchError_ends account _ _ _ _ _ _
        (hsent.sound_update (howns.sent hdone) hw)).imp (fun _ _ h => h) ?_
      rintro e w'' ⟨hw'', hsame, -⟩
      exact ⟨hw'', fallback, done, hdone, hsame.table.trans hsent.table⟩
    refine (batchUpdateRecords_ends account _ w).imp ?_ ?_
    · rintro ids w' ⟨hsent, -⟩
      have hall : pairs.map updatePayload <+: pairs.map (sentUpdate false) := List.prefix_rfl
      exact ⟨hsent.sound_update (howns.sent hall) hw, false, hsent, rfl, nofun⟩
    · rintro e w' ⟨done, hdone, hsent, hidle⟩
      have hbegins : done <+: pairs.map (sentUpdate false) := hdone
      split
      · next hnames =>
        obtain ⟨rfl, hunknown⟩ := hidle hnames.1 hnames.2
        have hw' := hsent.sound_update (howns.sent hbegins) hw
        rw [ends_bind]
        refine (failClosed_ends _ _ w').imp ?_ ?_
        · rintro _ _ rfl
          rw [ends_rescue, ends_bind]
          refine (batchUpdateRecords_ends account _ _).imp ?_ ?_
          · rintro ids w'' ⟨hsent', -⟩
            have hall : (pairs.map fun pair => (updatePayload pair).withoutDetails) =
                pairs.map (sentUpdate true) := rfl
            rw [hall] at hsent'
            have htotal := hsent.trans composes_updateAll hsent'
            rw [List.nil_append] at htotal
            exact ⟨htotal.sound_update (howns.sent List.prefix_rfl) hw, true, htotal, rfl,
              fun _ => hunknown⟩
          · rintro e' w'' ⟨done, hdone, hsent', -⟩
            have htotal := hsent.trans composes_updateAll hsent'
            rw [List.nil_append] at htotal
            have hbegins' : done <+: pairs.map (sentUpdate true) := hdone
            exact (hraise _ _ hbegins' htotal).imp (fun _ _ h => h.elim) fun _ _ h => h
        · rintro e' _ ⟨rfl, -⟩
          exact ⟨hw', false, [], List.nil_prefix, hsent.table⟩
      · exact (hraise _ _ hbegins hsent).imp (fun _ _ h => h.elim) fun _ _ h => h

/-- The creation stage sends the requests of the records, all with or all without the details, or
raises after it sent a first part of them. -/
theorem createStage_ends (updated : List Nat) (updateRows : Nat) {navs : List NAVHistory}
    (howns : ∀ nav ∈ navs, nav.account = account) (hw : Sound w) :
    EndsIn (fun rows w' => Sound w' ∧ ∃ fallback,
        Committed account NavTable.createAll (navs.map (sentCreate fallback)) w w' ∧
        rows = createdCacheRows (!fallback) (List.range' w.table.nextId navs.length) navs ∧
        (navs ≠ [] → strip account ≠ ""))
      (fun _ w' => Sound w' ∧ ∃ fallback done, done <+: navs.map (sentCreate fallback) ∧
        w'.table = w.table.createAll done)
      (createStage account updated updateRows navs w) := by
  have hlocal : ∀ {fallback : Bool} {done : List Create},
      done <+: navs.map (sentCreate fallback) → ∀ create ∈ done, create.account = account := by
    intro fallback done hdone create hcreate
    obtain ⟨nav, hnav, rfl⟩ := List.mem_map.mp (hdone.subset hcreate)
    rw [sentCreate_account]
    exact howns nav hnav
  unfold createStage
  split
  · next h =>
    subst h
    exact ⟨hw, false, Committed.refl composes_createAll account w, rfl,
      fun hne => absurd rfl hne⟩
  · rw [ends_rescue, ends_bind]
    -- the account of a record was checked before it was created
    have hchecked : ∀ {f : NAVHistory → Create}, (∀ nav, (f nav).account = nav.account) →
        (∀ create ∈ navs.map f, strip create.account ≠ "") → navs ≠ [] → strip account ≠ "" := by
      intro f hf hcreates hne
      obtain ⟨nav, hnav⟩ := List.exists_mem_of_ne_nil navs hne
      rw [← howns nav hnav, ← hf nav]
      exact hcreates _ (List.mem_map_of_mem hnav)
    -- what a failed batch leaves, once its report was raised
    have hraise : ∀ {β : Type} {fallback : Bool} {done : List Create} {w' : NavWorld}
        (unknown ids), done <+: navs.map (sentCreate fallback) →
        Committed account NavTable.createAll done w w' →
        EndsIn (fun (_ : β) _ => False)
          (fun _ w'' => Sound w'' ∧ ∃ fallback done, done <+: navs.map (sentCreate fallback) ∧
            w''.table = w.table.createAll done)
          (raiseBatchError account "create" unknown updated ids updateRows navs.length w') := by
      intro β fallback done w' unknown ids hdone hsent
      refine (raiseBatchError_ends account _ _ _ _ _ _
        (hsent.sound_create (hlocal hdone) hw)).imp (fun _ _ h => h) ?_
      rintro e w'' ⟨hw'', hsame, -⟩
      exact ⟨hw'', fallback, done, hdone, hsame.table.trans hsent.table⟩
    have hlength : ∀ f : NAVHistory → Create, (navs.map f).length = navs.length :=
      fun f => List.length_map f
    refine (batchCreateRecords_ends account _ w).imp ?_ ?_
    · rintro _ w' ⟨hsent, rfl, haccounts⟩
      have hall : navs.map createPayload <+: navs.map (sentCreate false) := List.prefix_rfl
      rw [hlength]
      exact ⟨hsent.sound_create (hlocal hall) hw, false, hsent, rfl,
        hchecked (fun _ => rfl) haccounts⟩
    · rintro e w' ⟨done, hdone, hsent, hidle⟩
      have hbegins : done <+: navs.map (sentCreate false) := hdone
      split
      · next hnames =>
        obtain ⟨rfl, -⟩ := hidle hnames.1 hnames.2
        have hw' := hsent.sound_create (hlocal hbegins) hw
        rw [ends_bind, ends_rescue]
        refine (failClosed_ends _ _ w').imp ?_ ?_
        · rintro _ _ rfl
          rw [ends_rescue, ends_bind]
          refine (batchCreateRecords_ends account _ _).imp ?_ ?_
          · rintro _ w'' ⟨hsent', rfl, haccounts⟩
            have hall : (navs.map fun nav => (createPayload nav).withoutDetails) =
                navs.map (sentCreate true) := rfl
            rw [hlength, hsent.table, composes_createAll.nil]
            rw [hall] at hsent'
            have htotal := hsent.trans composes_createAll hsent'
            rw [List.nil_append] at htotal
            exact ⟨htotal.sound_create (hlocal List.prefix_rfl) hw, true, htotal, rfl,
              hchecked (fun _ => rfl) haccounts⟩
          · rintro e' w'' ⟨done, hdone, hsent', -⟩
            have htotal := hsent.trans composes_createAll hsent'
            rw [List.nil_append] at htotal
            have hbegins' : done <+: navs.map (sentCreate true) := hdone
            exact (hraise _ _ hbegins' htotal).imp (fun _ _ h => h.elim) fun _ _ h => h
        · rintro e' _ ⟨rfl, -⟩
          split
          · exact (hraise _ _ hbegins hsent).imp (fun _ _ h => h.elim) fun _ _ h => h
          · exact ⟨hw', false, [], List.nil_prefix, hsent.table⟩
      · exact (hraise _ _ hbegins hsent).imp (fun _ _ h => h.elim) fun _ _ h => h

end

end PortfolioManagement.Nav
