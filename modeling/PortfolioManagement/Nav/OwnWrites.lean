import PortfolioManagement.Nav.WriteCalls

/-!
# Reads of a repository that writes

A run mixes writes, patches, deletions and reads of one repository with restarts, after which the
local copy is what the file held. A read gives the rows of the table when it asks for fresh rows, or
when the copy that serves it was made after the last change of its account. A patch and a deletion
forget the memory only: the next read is served from the local copy they left behind.
-/

namespace PortfolioManagement.Nav

open Prog (EndsIn ends_of_snd ends_require ends_bind ends_pure ends_raise ends_reads ends_alter ends_lift ends_rescue ends_fold)

/-! ## Patches and deletions -/

section
variable {w : NavWorld}

theorem record_mem {table : NavTable} {recordId : Nat} {row : NavRow}
    (h : table.record recordId = some row) : row ∈ table.rows ∧ row.recordId = recordId :=
  ⟨List.mem_of_find?_eq_some h, by simpa using List.find?_some h⟩

/-- The deletions of a list of records, one after another. -/
def deleteAll (recordIds : List Nat) (table : NavTable) : NavTable :=
  recordIds.foldl (fun table recordId => table.delete recordId) table

theorem composes_deleteAll : Composes deleteAll :=
  ⟨fun _ => rfl, fun _ _ _ => List.foldl_append⟩

/-- A deletion in one account leaves the rows of the others as they are. -/
theorem freshRows_delete_of_ne {table : NavTable} {recordId : Nat} {account other : String}
    (hother : other ≠ account)
    (hlocal : ∀ row ∈ table.rows, row.recordId = recordId → row.account = account) :
    (table.delete recordId).freshRows other = table.freshRows other := by
  have hrows : (table.rows.filter (·.recordId ≠ recordId)).filter (·.account = other) =
      table.rows.filter (·.account = other) := by
    rw [List.filter_filter]
    refine List.filter_congr fun row hrow => ?_
    by_cases hown : row.account = other
    · have hid : row.recordId ≠ recordId := fun hid =>
        hother (hown.symm.trans (hlocal row hrow hid))
      simp [hown, hid]
    · simp [hown]
  rw [NavTable.freshRows_eq, NavTable.freshRows_eq]
  show sortBy _ (((table.rows.filter (·.recordId ≠ recordId)).filter _).map _) = _
  rw [hrows]
  rfl

/-- What forgetting the memory leaves. -/
theorem Sound.clearMemory (h : Sound w) : Sound { w with mem := fun _ => none } :=
  .of_same w ⟨rfl, rfl, List.suffix_rfl⟩ nofun h.cache h.file

/-- One change of the rows of an account, and the memory forgotten when it was carried out, keep all
copies dated. -/
theorem request_clear_sound {α : Type} {account : String} {change : List α → NavTable → NavTable}
    {rows : List α} (hc : Composes change)
    (hlocal : ∀ done, done <+: rows → ∀ other, other ≠ account →
      (change done w.table).freshRows other = w.table.freshRows other) (hw : Sound w) :
    Sound ((request account change rows [] >>= fun _ => clearMemory) w).2 := by
  refine EndsIn.snd ?_
  rw [ends_bind]
  refine (request_ends hc account rows [] w).imp ?_ ?_
  · intro _ w' hsent
    exact (hsent.sound hc (hlocal rows List.prefix_rfl) hw).clearMemory
  · rintro e w' ⟨done, hdone, hsent, -⟩
    exact hsent.sound hc (hlocal done hdone) hw

/-- A request to a record that does not exist keeps all copies dated. -/
theorem missing_sound (hw : Sound w) :
    Sound ((nextAnswer >>= fun _ => (Prog.raise (.client false []) : NavProg Unit)) w).2 := by
  refine EndsIn.snd ?_
  rw [ends_bind]
  refine (nextAnswer_ends w).imp ?_ fun _ _ h => h.elim
  rintro answer _ ⟨-, answers, hanswers, rfl⟩
  exact hw.answers hanswers

/-- A patch keeps all copies dated. -/
theorem patchNavFields_sound (recordId : Nat) (fields : Items NavColumn (Option Cell))
    (dryRun : Bool) (allowed : List NavColumn) (hw : Sound w) :
    Sound (patchNavFields recordId fields dryRun allowed w).2 := by
  refine EndsIn.snd ?_
  unfold patchNavFields
  rw [ends_bind, ends_require]
  refine ⟨fun _ => ?_, fun _ => hw⟩
  show EndsIn _ _ ((if _ then _ else _ : NavProg Unit) w)
  split
  · exact hw
  · rw [ends_bind, ends_require]
    refine ⟨fun _ => ?_, fun _ => hw⟩
    show EndsIn _ _ ((Prog.reads NavWorld.table >>= fun table => _) w)
    rw [ends_bind, ends_reads]
    cases hrecord : w.table.record recordId with
    | none => exact ends_of_snd (missing_sound hw)
    | some row =>
      obtain ⟨hrow, hid⟩ := record_mem hrecord
      refine ends_of_snd (request_clear_sound composes_updateAll ?_ hw)
      intro done hdone other hother
      refine NavTable.freshRows_updateAll_of_ne hother fun update hupdate old hold hsame => ?_
      rw [List.mem_singleton.mp (hdone.subset hupdate)] at hsame
      rw [eq_of_key_eq w.table.nodup hold hrow (hsame.trans hid.symm)]

/-- A deletion keeps all copies dated. -/
theorem deleteNavByRecordId_sound (recordId : Nat) (hw : Sound w) :
    Sound (deleteNavByRecordId recordId w).2 := by
  refine EndsIn.snd ?_
  unfold deleteNavByRecordId
  rw [ends_bind, ends_reads]
  cases hrecord : w.table.record recordId with
  | none => exact ends_of_snd (missing_sound hw)
  | some row =>
    obtain ⟨hrow, hid⟩ := record_mem hrecord
    refine ends_of_snd (request_clear_sound composes_deleteAll ?_ hw)
    intro done hdone other hother
    have hlocal : ∀ old ∈ w.table.rows, old.recordId = recordId → old.account = row.account := by
      intro old hold hsame
      rw [eq_of_key_eq w.table.nodup hold hrow (hsame.trans hid.symm)]
    cases done with
    | nil => rfl
    | cons first rest =>
      obtain ⟨rfl, hrest⟩ := List.cons_prefix_cons.mp hdone
      rw [List.prefix_nil.mp hrest]
      exact freshRows_delete_of_ne hother hlocal

end

/-! ## Reads -/

/-- The copy serves the rows of the present: it holds none, so that the table is read, or it was
made after the last change of the account's rows. -/
def Entry.Serves (w : NavWorld) (account : String) (entry : Entry) : Prop :=
  entry.rows = [] ∨ entry.stamp = w.revision account

/-- A read of the account is not served from a copy that was left behind. -/
def Current (w : NavWorld) (account : String) : Prop :=
  match w.mem account with
  | some entry => entry.Serves w account
  | none => ∀ entry ∈ w.cache account, entry.Serves w account

section
variable {w : NavWorld} {account : String}

/-- A read is current when the memory is empty and the local copy is of the present. -/
theorem Current.of_cache (hmem : w.mem account = none)
    (hstamp : (w.cache account).map Entry.stamp = some (w.revision account)) :
    Current w account := by
  unfold Current
  rw [hmem]
  intro entry hentry
  rw [Option.mem_def.mp hentry] at hstamp
  exact .inr (Option.some.inj hstamp)

/-- A refresh from the table, read at once, gives the rows of the table. -/
theorem refreshed_getNavIndex (persistLocal : Bool) (hw : Sound w) :
    EndsIn (fun rows w' => Sound w' ∧ SameTable w w' ∧ rows = w.table.freshRows account)
      (fun _ w' => Sound w' ∧ SameTable w w')
      ((refreshNavIndex account persistLocal >>= fun _ => getNavIndex account) w) := by
  rw [ends_bind]
  refine (refreshNavIndex_ends account persistLocal hw).imp ?_ fun _ _ h => h
  rintro _ w' ⟨hw', hsame, hmem, -⟩
  rw [getNavIndex_of_mem hmem]
  exact ⟨hw', hsame, rfl⟩

/-- The rows of the index, when they are not empty, are the rows of the table for a read that is
current. -/
theorem getNavIndex_current (hw : Sound w) :
    EndsIn (fun rows w' => Sound w' ∧ SameTable w w' ∧ (rows ≠ [] → Current w account →
        rows.map dictToNav = (w.table.freshRows account).map dictToNav))
      (fun _ w' => Sound w' ∧ SameTable w w') (getNavIndex account w) := by
  refine (getNavIndex_ends account hw).imp ?_ fun _ _ h => h
  rintro rows w' ⟨hw', hsame, entry, -, rfl, hfrom⟩
  refine ⟨hw', hsame, fun hne hcurrent => ?_⟩
  rcases hfrom with hmem | ⟨hmem, hcache⟩ | ⟨hmem, hcache, rfl⟩
  · unfold Current at hcurrent
    rw [hmem] at hcurrent
    exact (hw.mem account entry hmem).exact (hcurrent.resolve_left hne)
  · unfold Current at hcurrent
    rw [hmem] at hcurrent
    exact (hw.cache account entry hcache).exact ((hcurrent entry hcache).resolve_left hne)
  · rfl

/-- The records that reads choose from. -/
theorem getIndexedNavs_ends (hw : Sound w) :
    EndsIn (fun navs w' => Sound w' ∧ SameTable w w' ∧ (Current w account →
        navs = (w.table.freshRows account).map dictToNav))
      (fun _ w' => Sound w' ∧ SameTable w w') (getIndexedNavs account w) := by
  unfold getIndexedNavs
  rw [ends_bind]
  refine (getNavIndex_current hw).imp ?_ fun _ _ h => h
  rintro rows w' ⟨hw', hsame, hrows⟩
  show EndsIn _ _ ((if _ then _ else _ : NavProg _) w')
  split
  · next hne =>
    refine ⟨hw', hsame, hrows ?_⟩
    rintro rfl
    exact hne rfl
  · have hread := @refreshed_getNavIndex w' account true hw'
    rw [ends_bind] at hread
    rw [ends_bind]
    refine hread.imp (fun _ w'' h => ?_) fun _ _ h => ⟨h.1, hsame.trans h.2⟩
    rw [ends_bind]
    refine h.imp (fun rows _ h => ?_) fun _ _ h => ⟨h.1, hsame.trans h.2⟩
    obtain ⟨hsound, hsame', rfl⟩ := h
    refine ⟨hsound, hsame.trans hsame', fun _ => ?_⟩
    rw [hsame.table]

theorem getNavHistory_ends (startDate : CivilDate) (fresh : Bool) (hw : Sound w) :
    EndsIn (fun navs w' => Sound w' ∧ SameTable w w' ∧ (fresh = true ∨ Current w account →
        navs = sortBy NAVHistory.date (((w.table.freshRows account).map dictToNav).filter
          fun nav => startDate ≤ nav.date)))
      (fun _ w' => Sound w' ∧ SameTable w w') (getNavHistory account startDate fresh w) := by
  cases fresh with
  | true =>
    -- the rows of the refresh are returned
    have hread := @refreshed_getNavIndex w account false hw
    rw [ends_bind] at hread
    unfold getNavHistory
    rw [if_pos rfl, ends_bind]
    refine hread.imp (fun _ w' h => ?_) fun _ _ h => h
    rw [ends_bind]
    refine h.imp ?_ fun _ _ h => h
    rintro rows w'' ⟨hw'', hsame, rfl⟩
    rw [if_neg (by simp)]
    exact ⟨hw'', hsame, fun _ => rfl⟩
  | false =>
    unfold getNavHistory
    rw [if_neg (by simp), ends_bind]
    refine (getNavIndex_current hw).imp ?_ fun _ _ h => h
    rintro rows w' ⟨hw', hsame, hrows⟩
    split
    · have hread := @refreshed_getNavIndex w' account true hw'
      rw [ends_bind] at hread
      rw [ends_bind]
      refine hread.imp (fun _ w'' h => ?_) fun _ _ h => ⟨h.1, hsame.trans h.2⟩
      rw [ends_bind]
      refine h.imp (fun rows _ h => ?_) fun _ _ h => ⟨h.1, hsame.trans h.2⟩
      obtain ⟨hsound, hsame', rfl⟩ := h
      refine ⟨hsound, hsame.trans hsame', fun _ => ?_⟩
      rw [hsame.table]
    · next hne =>
      refine ⟨hw', hsame, fun hcurrent => ?_⟩
      rw [hrows ?_ (hcurrent.resolve_left nofun)]
      rintro rfl
      exact hne ⟨rfl, nofun⟩

end

/-- A read of the records of an account. -/
inductive NavRead
  /-- `get_nav_history` -/
  | history (startDate : CivilDate) (fresh : Bool)
  /-- `get_latest_nav` -/
  | latest
  /-- `get_nav_on_date` -/
  | onDate (date : CivilDate)

namespace NavRead

/-- The program of a read. -/
def program (account : String) : NavRead → NavProg (List NAVHistory)
  | history startDate fresh => getNavHistory account startDate fresh
  | latest => return (← getLatestNav account).toList
  | onDate date => return (← getNavOnDate account date).toList

/-- What a read chooses from the records of the account. -/
def choose (navs : List NAVHistory) : NavRead → List NAVHistory
  | history startDate _ => sortBy NAVHistory.date (navs.filter fun nav => startDate ≤ nav.date)
  | latest => navs.getLast?.toList
  | onDate date => (navs.filter fun nav => nav.date = date).head?.toList

/-- The read asks for fresh rows, or is not served from a copy that was left behind. -/
def Served (w : NavWorld) (account : String) : NavRead → Prop
  | history _ fresh => fresh = true ∨ Current w account
  | latest => Current w account
  | onDate _ => Current w account

/-- A read keeps all copies dated; what it returns, when it is served, is chosen from the records of
the table. -/
theorem program_ends (read : NavRead) (account : String) {w : NavWorld} (hw : Sound w) :
    EndsIn (fun navs w' => Sound w' ∧ (read.Served w account →
        navs = read.choose ((w.table.freshRows account).map dictToNav)))
      (fun _ w' => Sound w') (read.program account w) := by
  cases read with
  | history startDate fresh =>
    refine (getNavHistory_ends startDate fresh hw).imp ?_ fun _ _ h => h.1
    rintro navs w' ⟨hw', -, hnavs⟩
    exact ⟨hw', hnavs⟩
  | latest =>
    show EndsIn _ _ (((getIndexedNavs account >>= fun navs => pure navs.getLast?) >>= fun nav =>
      pure nav.toList) w)
    rw [ends_bind, ends_bind]
    refine (getIndexedNavs_ends hw).imp ?_ fun _ _ h => h.1
    rintro navs w' ⟨hw', -, hnavs⟩
    exact ⟨hw', fun hserved => by rw [hnavs hserved]; rfl⟩
  | onDate date =>
    show EndsIn _ _ (((getIndexedNavs account >>= fun navs =>
      pure (navs.filter fun nav => nav.date = date).head?) >>= fun nav => pure nav.toList) w)
    rw [ends_bind, ends_bind]
    refine (getIndexedNavs_ends hw).imp ?_ fun _ _ h => h.1
    rintro navs w' ⟨hw', -, hnavs⟩
    exact ⟨hw', fun hserved => by rw [hnavs hserved]; rfl⟩

end NavRead

/-! ## Runs -/

/-- A step of a run on one local cache directory. -/
inductive RepositoryStep
  /-- a call that writes records -/
  | write (call : WriteCall)
  /-- `_patch_nav_fields` -/
  | patch (recordId : Nat) (fields : Items NavColumn (Option Cell)) (dryRun : Bool)
      (allowed : List NavColumn)
  /-- `delete_nav_by_record_id` -/
  | delete (recordId : Nat)
  /-- a read -/
  | read (account : String) (kind : NavRead)
  /-- the delayed write of the local copy to the file -/
  | flush
  /-- a new instance over the file -/
  | restart

namespace RepositoryStep

/-- The state after a step. -/
def exec (step : RepositoryStep) (w : NavWorld) : NavWorld :=
  match step with
  | write call => (call.program w).2
  | patch recordId fields dryRun allowed => (patchNavFields recordId fields dryRun allowed w).2
  | delete recordId => (deleteNavByRecordId recordId w).2
  | read account kind => (kind.program account w).2
  | flush => { w with file := w.cache }
  | restart => { w with cache := w.file, mem := fun _ => none }

/-- Every step keeps all copies dated. -/
theorem exec_sound (step : RepositoryStep) {w : NavWorld} (hw : Sound w) :
    Sound (step.exec w) := by
  cases step with
  | write call =>
    exact EndsIn.snd ((WriteCall.program_ends call hw).imp (fun _ _ h => h.1.sound)
      fun _ _ h => h.sound)
  | patch recordId fields dryRun allowed => exact patchNavFields_sound _ _ _ _ hw
  | delete recordId => exact deleteNavByRecordId_sound _ hw
  | read account kind =>
    exact EndsIn.snd ((kind.program_ends account hw).imp (fun _ _ h => h.1) fun _ _ h => h)
  | flush => exact .of_same w ⟨rfl, rfl, List.suffix_rfl⟩ hw.mem hw.cache hw.cache
  | restart => exact .of_same w ⟨rfl, rfl, List.suffix_rfl⟩ nofun hw.file hw.file

end RepositoryStep

/-- A step and the outcomes of its requests. -/
structure AnsweredStep where
  /-- the step -/
  step : RepositoryStep
  /-- the outcomes of its requests; further requests are carried out -/
  answers : List Answer

/-- The state with the outcomes of the next requests. -/
def NavWorld.answering (answers : List Answer) (w : NavWorld) : NavWorld :=
  { w with answers := answers }

/-- The state after a run. -/
def NavWorld.run (steps : List AnsweredStep) (w : NavWorld) : NavWorld :=
  steps.foldl (fun w s => s.step.exec (w.answering s.answers)) w

theorem Sound.answering {w : NavWorld} (h : Sound w) (answers : List Answer) :
    Sound (w.answering answers) :=
  ⟨fun a e he => ⟨(h.mem a e he).built, (h.mem a e he).past, (h.mem a e he).exact⟩,
    fun a e he => ⟨(h.cache a e he).built, (h.cache a e he).past, (h.cache a e he).exact⟩,
    fun a e he => ⟨(h.file a e he).built, (h.file a e he).past, (h.file a e he).exact⟩⟩

/-- In every state of a run all copies are dated. -/
theorem run_sound (steps : List AnsweredStep) {w : NavWorld} (hw : Sound w) :
    Sound (w.run steps) := by
  induction steps generalizing w with
  | nil => exact hw
  | cons s steps ih => exact ih (s.step.exec_sound (hw.answering s.answers))

/-- In every run from an empty cache directory, whatever comes of its requests, a read that returns
and is not served from a copy that was left behind returns what it chooses from the records the
table holds. -/
theorem served_reads_return_the_table (table : NavTable) (steps : List AnsweredStep)
    (answers : List Answer) (account : String) (read : NavRead) (navs : List NAVHistory)
    (hserved : read.Served (((NavWorld.over table).run steps).answering answers) account)
    (hreturns : (read.program account
      (((NavWorld.over table).run steps).answering answers)).1 = .ok navs) :
    navs = read.choose
      ((((NavWorld.over table).run steps).table.freshRows account).map dictToNav) := by
  have hsound := (run_sound steps (.over table)).answering answers
  have hends := read.program_ends account hsound
  rcases hrun : read.program account (((NavWorld.over table).run steps).answering answers)
    with ⟨_ | navs', w'⟩
  · rw [hrun] at hreturns
    cases hreturns
  · rw [hrun] at hreturns hends
    obtain rfl : navs' = navs := Except.ok.inj hreturns
    exact hends.2 hserved

/-- The first write of a record, in a run. -/
def writeStep : AnsweredStep := ⟨.write firstWrite.call, []⟩

/-- A patch of the profit of the first record. -/
def patchStep : AnsweredStep := ⟨.patch 1 [(.pnl, some (.number 700))] false derivedPatchFields, []⟩

theorem served_reads_return_the_table_first :
    [{ profitRecord (some 500) with recordId := some "1" }] = NavRead.latest.choose
      ((((NavWorld.over emptyTable).run [writeStep]).table.freshRows "a").map dictToNav) := by
  have hreturns : (NavRead.latest.program "a"
      (((NavWorld.over emptyTable).run [writeStep]).answering [])).1 =
        .ok [{ profitRecord (some 500) with recordId := some "1" }] := by decide +kernel
  have hserved : Current (((NavWorld.over emptyTable).run [writeStep]).answering []) "a" :=
    .of_cache (Option.isNone_iff_eq_none.mp (by decide +kernel)) (by decide +kernel)
  exact served_reads_return_the_table emptyTable [writeStep] [] "a" .latest _ hserved hreturns

/-- After a patch the latest record is read as it was before. -/
theorem patched_record_is_read_unpatched :
    ¬ ∀ (table : NavTable) (steps : List AnsweredStep) (account : String) (read : NavRead)
      (navs : List NAVHistory),
      (read.program account ((NavWorld.over table).run steps)).1 = .ok navs →
        navs = read.choose
          ((((NavWorld.over table).run steps).table.freshRows account).map dictToNav) := by
  intro hclaim
  have hreturns : (NavRead.latest.program "a"
      ((NavWorld.over emptyTable).run [writeStep, patchStep])).1 =
        .ok [{ profitRecord (some 500) with recordId := some "1" }] := by decide +kernel
  have hrows := hclaim emptyTable [writeStep, patchStep] "a" .latest _ hreturns
  have hpatched : NavRead.latest.choose
      ((((NavWorld.over emptyTable).run [writeStep, patchStep]).table.freshRows "a").map
        dictToNav) = [{ profitRecord (some 700) with recordId := some "1" }] := by decide +kernel
  rw [hpatched] at hrows
  exact absurd hrows (by decide)

end PortfolioManagement.Nav
