import PortfolioManagement.Nav.AppliedRows
import PortfolioManagement.Nav.Repository

/-!
# Laws of the NAV repository

What the programs of the repository do to the table and to the local copies. A local copy is
`Dated`: it carries the number of changes the rows of its account had seen when it was made, and
while that is still their number it holds the records a fresh read gives. Every program keeps all
copies dated, whatever its requests come to.
-/

namespace PortfolioManagement.Nav

open Prog (EndsIn ends_bind ends_pure ends_raise ends_reads ends_alter ends_lift ends_rescue ends_fold)

/-! ## Requests -/

section
variable {α : Type} {account : String} {change : List α → NavTable → NavTable} {w w' : NavWorld}

/-- A change of the table by a list of rows composes. -/
structure Composes (change : List α → NavTable → NavTable) : Prop where
  nil : ∀ table, change [] table = table
  append : ∀ rows rows' table, change (rows ++ rows') table = change rows' (change rows table)

theorem composes_updateAll : Composes NavTable.updateAll :=
  ⟨NavTable.updateAll_nil, NavTable.updateAll_append⟩

theorem composes_createAll : Composes NavTable.createAll :=
  ⟨NavTable.createAll_nil, NavTable.createAll_append⟩

/-- Between two states requests changed rows of an account and nothing else was done. -/
structure Committed (account : String) (change : List α → NavTable → NavTable) (done : List α)
    (w w' : NavWorld) : Prop where
  /-- the table received the rows -/
  table : w'.table = change done w.table
  /-- the memory is as it was -/
  mem : w'.mem = w.mem
  /-- the local copy is as it was -/
  cache : w'.cache = w.cache
  /-- the file is as it was -/
  file : w'.file = w.file
  /-- only the rows of the account were changed -/
  others : ∀ other, other ≠ account → w'.revision other = w.revision other
  /-- the changes are counted -/
  counted : w.revision account ≤ w'.revision account
  /-- every change is counted -/
  idle : w'.revision account = w.revision account → done = []
  /-- outcomes were taken -/
  answers : w'.answers <:+ w.answers

theorem Committed.of_answers (h : Composes change) (account : String) {w : NavWorld}
    {answers : List Answer} (hanswers : answers <:+ w.answers) :
    Committed account change [] w { w with answers := answers } :=
  ⟨(h.nil _).symm, rfl, rfl, rfl, fun _ _ => rfl, le_rfl, fun _ => rfl, hanswers⟩

theorem Committed.refl (h : Composes change) (account : String) (w : NavWorld) :
    Committed account change [] w w := .of_answers h account List.suffix_rfl

theorem Committed.of_commit (account : String) (change : List α → NavTable → NavTable)
    (rows : List α) {w : NavWorld} {answers : List Answer} (hanswers : answers <:+ w.answers) :
    Committed account change rows w
      (NavWorld.commit account (change rows) { w with answers := answers }) where
  table := rfl
  mem := rfl
  cache := rfl
  file := rfl
  others := fun other hother => Function.update_of_ne hother _ _
  counted := by
    show w.revision account ≤ Function.update w.revision account (w.revision account + 1) account
    rw [Function.update_self]
    exact Nat.le_succ _
  idle := by
    intro h
    change Function.update w.revision account (w.revision account + 1) account = _ at h
    rw [Function.update_self] at h
    omega
  answers := hanswers

theorem Committed.trans {done done' : List α} {w'' : NavWorld} (hc : Composes change)
    (h : Committed account change done w w') (h' : Committed account change done' w' w'') :
    Committed account change (done ++ done') w w'' where
  table := by rw [h'.table, h.table, hc.append]
  mem := h'.mem.trans h.mem
  cache := h'.cache.trans h.cache
  file := h'.file.trans h.file
  others := fun other hother => (h'.others other hother).trans (h.others other hother)
  counted := h.counted.trans h'.counted
  idle := by
    intro heq
    have hcounted := h.counted
    have hcounted' := h'.counted
    rw [h.idle (by omega), h'.idle (by omega)]
    rfl
  answers := h'.answers.trans h.answers

/-- An outcome is taken from the answers. -/
theorem nextAnswer_ends (w : NavWorld) :
    EndsIn (fun answer w' => (answer = .unknownField → .unknownField ∈ w.answers) ∧
        ∃ answers, answers <:+ w.answers ∧ w' = { w with answers := answers })
      (fun _ _ => False) (nextAnswer w) := by
  unfold nextAnswer
  split
  · next h => exact ⟨nofun, w.answers, List.suffix_rfl, rfl⟩
  · next answer rest h =>
    refine ⟨?_, rest, h ▸ List.suffix_cons answer rest, rfl⟩
    rintro rfl
    exact h ▸ List.mem_cons_self

/-- A request changes all of its rows, or raises after it changed the first ones; a request refused
for an unknown column changed none. -/
theorem request_ends (hc : Composes change) (account : String) (rows : List α)
    (confirmed : List Nat) (w : NavWorld) :
    EndsIn (fun _ w' => Committed account change rows w w')
      (fun e w' => ∃ done, done <+: rows ∧ Committed account change done w w' ∧
        ∃ unknown, e = .client unknown confirmed ∧
          (unknown = true → done = [] ∧ .unknownField ∈ w.answers))
      (request account change rows confirmed w) := by
  unfold request
  rw [ends_bind]
  refine (nextAnswer_ends w).imp ?_ fun _ _ h => h.elim
  rintro answer _ ⟨hunknown, answers, hanswers, rfl⟩
  cases answer with
  | ok => exact Committed.of_commit account change rows hanswers
  | unknownField =>
    exact ⟨[], List.nil_prefix, Committed.of_answers hc account hanswers, true, rfl,
      fun _ => ⟨rfl, hunknown rfl⟩⟩
  | refused =>
    exact ⟨[], List.nil_prefix, Committed.of_answers hc account hanswers, false, rfl, nofun⟩
  | lost n =>
    exact ⟨rows.take (n + 1), List.take_prefix _ _,
      Committed.of_commit account change _ hanswers, false, rfl, nofun⟩

/-- The results of a batch compose as its rows do, and a row that was sent has a result. -/
structure Results (change : List α → NavTable → NavTable)
    (results : List α → NavTable → List Nat) : Prop where
  append : ∀ rows rows' table,
    results (rows ++ rows') table = results rows table ++ results rows' (change rows table)
  length : ∀ rows table, (results rows table).length = rows.length

/-- A batch changes all of its rows, or raises after it changed the first ones; a batch refused for
an unknown column without results changed none. -/
theorem requestChunks_ends (hc : Composes change) {results : List α → NavTable → List Nat}
    (hr : Results change results) (account : String) (n : Nat) (rows : List α)
    (confirmed : List Nat) (w : NavWorld) (hn : rows.length ≤ n) :
    EndsIn (fun ids w' => Committed account change rows w w' ∧
        ids = confirmed ++ results rows w.table)
      (fun e w' => ∃ done, done <+: rows ∧ Committed account change done w w' ∧
        ∃ unknown ids, e = .client unknown ids ∧ (unknown = true →
          ids = confirmed ++ results done w.table ∧ .unknownField ∈ w.answers))
      (requestChunks account change results n rows confirmed w) := by
  have hnil : ∀ table, results [] table = [] := fun table =>
    List.eq_nil_of_length_eq_zero (hr.length [] table)
  induction n generalizing rows confirmed w with
  | zero =>
    obtain rfl : rows = [] := List.eq_nil_of_length_eq_zero (Nat.le_zero.mp hn)
    exact ⟨.refl hc account w, by rw [hnil, List.append_nil]⟩
  | succ n ih =>
    cases rows with
    | nil => exact ⟨.refl hc account w, by rw [hnil, List.append_nil]⟩
    | cons row rest =>
      have hsplit := List.take_append_drop batchSize (row :: rest)
      have hlength : ((row :: rest).drop batchSize).length ≤ n := by
        rw [List.length_drop, List.length_cons]
        rw [List.length_cons] at hn
        simp only [batchSize]
        omega
      unfold requestChunks
      rw [ends_bind, ends_reads, ends_bind]
      refine (request_ends hc account _ confirmed w).imp ?_ ?_
      · intro _ w' hfirst
        refine (ih _ (confirmed ++ results _ w.table) w' hlength).imp ?_ ?_
        · rintro ids w'' ⟨hrest, rfl⟩
          refine ⟨hsplit ▸ hfirst.trans hc hrest, ?_⟩
          conv_rhs => rw [← hsplit]
          rw [hr.append, ← hfirst.table, List.append_assoc]
        · rintro e w'' ⟨done, hdone, hrest, unknown, ids, rfl, hids⟩
          refine ⟨_ ++ done, ?_, hfirst.trans hc hrest, unknown, ids, rfl, fun hunknown => ?_⟩
          · conv_rhs => rw [← hsplit]
            exact List.prefix_append_right_inj _ |>.mpr hdone
          · obtain ⟨hids, hmem⟩ := hids hunknown
            rw [hids, hr.append, ← hfirst.table, List.append_assoc]
            exact ⟨rfl, hfirst.answers.subset hmem⟩
      · rintro e w' ⟨done, hdone, hfirst, unknown, rfl, hids⟩
        refine ⟨done, hdone.trans (List.take_prefix _ _), hfirst, unknown, confirmed, rfl,
          fun hunknown => ?_⟩
        obtain ⟨rfl, hmem⟩ := hids hunknown
        rw [hnil, List.append_nil]
        exact ⟨rfl, hmem⟩

end

/-! ## Dated copies -/

/-- A local copy that holds the records of a fresh read unless the rows changed since. -/
structure Dated (w : NavWorld) (account : String) (entry : Entry) : Prop where
  /-- the rows are as a build leaves them -/
  built : buildNavPayload account entry.rows = .ok entry.rows
  /-- the copy is not of the future -/
  past : entry.stamp ≤ w.revision account
  /-- a copy of the present is exact -/
  exact : entry.stamp = w.revision account →
    entry.rows.map dictToNav = (w.table.freshRows account).map dictToNav

/-- All local copies are dated. -/
structure Sound (w : NavWorld) : Prop where
  /-- the memory -/
  mem : ∀ account, ∀ entry ∈ w.mem account, Dated w account entry
  /-- the local copy -/
  cache : ∀ account, ∀ entry ∈ w.cache account, Dated w account entry
  /-- the file -/
  file : ∀ account, ∀ entry ∈ w.file account, Dated w account entry

/-- The table and the counts of its changes are as they were. -/
structure SameTable (w w' : NavWorld) : Prop where
  /-- the table is as it was -/
  table : w'.table = w.table
  /-- no change was counted -/
  revision : w'.revision = w.revision
  /-- outcomes were taken -/
  answers : w'.answers <:+ w.answers

theorem SameTable.refl (w : NavWorld) : SameTable w w := ⟨rfl, rfl, List.suffix_rfl⟩

theorem SameTable.trans {w w' w'' : NavWorld} (h : SameTable w w') (h' : SameTable w' w'') :
    SameTable w w'' := 
  ⟨h'.table.trans h.table, h'.revision.trans h.revision, h'.answers.trans h.answers⟩

section
variable {w w' : NavWorld} {account : String}

theorem Dated.of_same {entry : Entry} (h : Dated w account entry) (hsame : SameTable w w') :
    Dated w' account entry := by
  refine ⟨h.built, ?_, ?_⟩
  · rw [hsame.revision]
    exact h.past
  · rw [hsame.revision, hsame.table]
    exact h.exact

/-- A state whose copies are copies of a sound state over the same table is sound. -/
theorem Sound.of_same (w : NavWorld) (hsame : SameTable w w')
    (hmem : ∀ account, ∀ entry ∈ w'.mem account, Dated w account entry)
    (hcache : ∀ account, ∀ entry ∈ w'.cache account, Dated w account entry)
    (hfile : ∀ account, ∀ entry ∈ w'.file account, Dated w account entry) : Sound w' :=
  ⟨fun a e he => (hmem a e he).of_same hsame, fun a e he => (hcache a e he).of_same hsame,
    fun a e he => (hfile a e he).of_same hsame⟩

theorem Sound.answers (h : Sound w) {answers : List Answer} (hanswers : answers <:+ w.answers) :
    Sound { w with answers := answers } :=
  .of_same w ⟨rfl, rfl, hanswers⟩ h.mem h.cache h.file

/-- Setting the copy of one account to a dated one keeps all dated. -/
theorem dated_update {copies : String → Option Entry} {entry : Option Entry}
    (h : ∀ account, ∀ e ∈ copies account, Dated w account e)
    (hentry : ∀ e ∈ entry, Dated w account e) (other : String) :
    ∀ e ∈ Function.update copies account entry other, Dated w other e := by
  intro e he
  by_cases hother : other = account
  · subst hother
    rw [Function.update_self] at he
    exact hentry e he
  · rw [Function.update_of_ne hother] at he
    exact h other e he

/-- Requests that change no row of another account keep all copies dated: those of the account are
of the past then. -/
theorem Committed.sound {α : Type} {change : List α → NavTable → NavTable} {done : List α}
    (hc : Composes change) (h : Committed account change done w w')
    (hlocal : ∀ other, other ≠ account →
      (change done w.table).freshRows other = w.table.freshRows other) (hw : Sound w) :
    Sound w' := by
  have hdated : ∀ other e, Dated w other e → Dated w' other e := by
    intro other e he
    by_cases hother : other = account
    · subst hother
      refine ⟨he.built, he.past.trans h.counted, fun hstamp => ?_⟩
      have hidle : w'.revision other = w.revision other :=
        le_antisymm (hstamp ▸ he.past) h.counted
      have htable : w'.table = w.table := by rw [h.table, h.idle hidle, hc.nil]
      rw [htable]
      exact he.exact (hstamp.trans hidle)
    · refine ⟨he.built, ?_, ?_⟩
      · rw [h.others other hother]
        exact he.past
      · rw [h.others other hother, h.table, hlocal other hother]
        exact he.exact
  refine ⟨fun a e he => ?_, fun a e he => ?_, fun a e he => ?_⟩
  · rw [h.mem] at he
    exact hdated a e (hw.mem a e he)
  · rw [h.cache] at he
    exact hdated a e (hw.cache a e he)
  · rw [h.file] at he
    exact hdated a e (hw.file a e he)

end

/-! ## Reads -/

section
variable {w : NavWorld} {account : String}

theorem buildNavPayload_ok {rows out : List NavRow} :
    buildNavPayload account rows = .ok out ↔
      IdentifiedRows account rows ∧ sortBy NavRow.date (rows.map NavRow.canonical) = out := by
  unfold buildNavPayload
  split
  · next h => simp [h]
  · next h => simp [h]

/-- What is built from the records of an account is its fresh rows. -/
theorem buildNavIndexPayload_select {table : NavTable} {rows : List NavRow}
    (h : buildNavIndexPayload account (table.select account table.stamped) = .ok rows) :
    rows = table.freshRows account ∧ buildNavPayload account rows = .ok rows := by
  unfold buildNavIndexPayload at h
  split at h
  · obtain ⟨hrows, hsorted⟩ := buildNavPayload_ok.mp h
    have hcanon : ((table.select account table.stamped).map NavRow.canonical).map
        NavRow.canonical = (table.select account table.stamped).map NavRow.canonical := by
      rw [List.map_map]
      exact List.map_congr_left fun row _ => row.canonical_canonical
    rw [hcanon] at hsorted
    obtain rfl : table.freshRows account = rows := hsorted
    refine ⟨rfl, buildNavPayload_ok.mpr ⟨fun row hrow => ?_, table.freshRows_sorted account⟩⟩
    exact hrows row (mem_sortBy.mp hrow)
  · cases h

theorem listRecords_ends (account : String) (withUpdatedAt : Bool) (w : NavWorld) :
    EndsIn (fun records w' => records = w.table.select account withUpdatedAt ∧
        (withUpdatedAt = true → w.table.stamped = true) ∧
        ∃ answers, answers <:+ w.answers ∧ w' = { w with answers := answers })
      (fun e w' => (e.namesUnknownField = true → w.table.stamped = false) ∧
        ∃ answers, answers <:+ w.answers ∧ w' = { w with answers := answers })
      (listRecords account withUpdatedAt w) := by
  unfold listRecords
  rw [ends_bind]
  refine (nextAnswer_ends w).imp ?_ fun _ _ h => h.elim
  rintro answer _ ⟨-, answers, hanswers, rfl⟩
  cases answer with
  | ok =>
    show EndsIn _ _ ((if withUpdatedAt = true ∧ ¬ w.table.stamped = true then _ else _ : NavProg _) _)
    split
    · next h => exact ⟨fun _ => Bool.eq_false_iff.mpr h.2, answers, hanswers, rfl⟩
    · next h => exact ⟨rfl, fun hwith => by simpa [hwith] using h, answers, hanswers, rfl⟩
  | unknownField => exact ⟨nofun, answers, hanswers, rfl⟩
  | refused => exact ⟨nofun, answers, hanswers, rfl⟩
  | lost n => exact ⟨nofun, answers, hanswers, rfl⟩

/-- A read gives the records of the account with the columns the table has. -/
theorem readRecords_ends (account : String) (w : NavWorld) :
    EndsIn (fun records w' => records = w.table.select account w.table.stamped ∧
        ∃ answers, answers <:+ w.answers ∧ w' = { w with answers := answers })
      (fun _ w' => ∃ answers, answers <:+ w.answers ∧ w' = { w with answers := answers })
      (readRecords account w) := by
  unfold readRecords
  rw [ends_rescue]
  refine (listRecords_ends account true w).imp ?_ ?_
  · rintro records w' ⟨rfl, hstamped, hw'⟩
    exact ⟨by rw [hstamped rfl], hw'⟩
  · rintro e _ ⟨hstamped, answers, hanswers, rfl⟩
    by_cases hnames : e.namesUnknownField = true
    · rw [if_pos hnames]
      refine (listRecords_ends account false _).imp ?_ ?_
      · rintro records _ ⟨rfl, -, answers', hanswers', rfl⟩
        exact ⟨by rw [hstamped hnames], answers', hanswers'.trans hanswers, rfl⟩
      · rintro e' _ ⟨-, answers', hanswers', rfl⟩
        exact ⟨answers', hanswers'.trans hanswers, rfl⟩
    · rw [if_neg hnames]
      exact ⟨answers, hanswers, rfl⟩

/-- The entry that a refresh stores. -/
def NavWorld.freshEntry (w : NavWorld) (account : String) : Entry :=
  ⟨w.table.freshRows account, w.revision account⟩

/-- A refresh stores the fresh rows; when it fails the table is as it was and no copy is wrong. -/
theorem refreshNavIndex_ends (account : String) (persistLocal : Bool) (hw : Sound w) :
    EndsIn (fun _ w' => Sound w' ∧ SameTable w w' ∧ w'.mem account = some (w.freshEntry account) ∧
        (persistLocal = true → w'.cache account = some (w.freshEntry account)))
      (fun _ w' => Sound w' ∧ SameTable w w') (refreshNavIndex account persistLocal w) := by
  unfold refreshNavIndex
  rw [ends_bind]
  refine (readRecords_ends account w).imp ?_ ?_
  · rintro records _ ⟨rfl, answers, hanswers, rfl⟩
    rw [ends_bind, ends_rescue]
    cases hbuild : buildNavIndexPayload account (w.table.select account w.table.stamped) with
    | error e =>
      refine ⟨?_, rfl, rfl, hanswers⟩
      refine .of_same w ⟨rfl, rfl, hanswers⟩ (dated_update hw.mem nofun) (dated_update hw.cache nofun)
        (dated_update hw.cache nofun)
    | ok rows =>
      obtain ⟨rfl, hbuilt⟩ := buildNavIndexPayload_select hbuild
      have hfresh : ∀ e ∈ some (w.freshEntry account), Dated w account e := by
        rintro e ⟨rfl⟩
        exact ⟨hbuilt, le_rfl, fun _ => rfl⟩
      cases persistLocal with
      | true =>
        refine ⟨.of_same w ⟨rfl, rfl, hanswers⟩ (dated_update hw.mem hfresh) (dated_update hw.cache hfresh)
          hw.file, ⟨rfl, rfl, hanswers⟩, Function.update_self .., fun _ => Function.update_self ..⟩
      | false =>
        exact ⟨.of_same w ⟨rfl, rfl, hanswers⟩ (dated_update hw.mem hfresh) hw.cache hw.file, ⟨rfl, rfl, hanswers⟩,
          Function.update_self .., nofun⟩
  · rintro e _ ⟨answers, hanswers, rfl⟩
    exact ⟨hw.answers hanswers, rfl, rfl, hanswers⟩

/-- The index of an account in memory. -/
theorem getNavIndex_of_mem {entry : Entry} (h : w.mem account = some entry) :
    getNavIndex account w = (.ok entry.rows, w) := by
  have hloaded : ensureNavIndexLoaded account w = (.ok (), w) := by
    have hread : (Prog.reads (·.mem account) : NavProg (Option Entry)) w = (.ok (some entry), w) := by
      rw [← h]
      rfl
    unfold ensureNavIndexLoaded
    show Prog.andThen (Prog.reads (·.mem account)) _ w = _
    unfold Prog.andThen
    rw [hread]
    rfl
  show Prog.andThen (ensureNavIndexLoaded account) _ w = _
  unfold Prog.andThen
  rw [hloaded]
  show (Except.ok (((w.mem account).map Entry.rows).getD []), w) = _
  rw [h]
  rfl

/-- The index is read from memory, from the local copy or from the table. -/
theorem getNavIndex_ends (account : String) (hw : Sound w) :
    EndsIn (fun rows w' => Sound w' ∧ SameTable w w' ∧ ∃ entry, w'.mem account = some entry ∧
        rows = entry.rows ∧ ((w.mem account = some entry) ∨
          (w.mem account = none ∧ w.cache account = some entry) ∨
          (w.mem account = none ∧ w.cache account = none ∧ entry = w.freshEntry account)))
      (fun _ w' => Sound w' ∧ SameTable w w') (getNavIndex account w) := by
  -- whatever filled the memory, its rows are returned
  suffices hloaded : EndsIn (fun _ w' => Sound w' ∧ SameTable w w' ∧ ∃ entry,
      w'.mem account = some entry ∧ ((w.mem account = some entry) ∨
        (w.mem account = none ∧ w.cache account = some entry) ∨
        (w.mem account = none ∧ w.cache account = none ∧ entry = w.freshEntry account)))
      (fun _ w' => Sound w' ∧ SameTable w w') (ensureNavIndexLoaded account w) by
    unfold getNavIndex
    rw [ends_bind]
    refine hloaded.imp ?_ fun _ _ h => h
    rintro _ w' ⟨hw', hsame, entry, hmem, hfrom⟩
    refine ⟨hw', hsame, entry, hmem, ?_, hfrom⟩
    show ((w'.mem account).map Entry.rows).getD [] = entry.rows
    rw [hmem]
    rfl
  unfold ensureNavIndexLoaded
  rw [ends_bind, ends_reads]
  cases hmem : w.mem account with
  | some entry => exact ⟨hw, .refl w, entry, hmem, .inl rfl⟩
  | none =>
    rw [ends_bind, ends_reads]
    cases hcache : w.cache account with
    | none =>
      refine (refreshNavIndex_ends account true hw).imp ?_ fun _ _ h => h
      rintro _ w' ⟨hw', hsame, hmem', -⟩
      exact ⟨hw', hsame, _, hmem', .inr (.inr ⟨rfl, rfl, rfl⟩)⟩
    | some entry =>
      have hdated := hw.cache account entry hcache
      rw [ends_bind, ends_rescue, hdated.built]
      refine ⟨.of_same w ⟨rfl, rfl, List.suffix_rfl⟩ (dated_update hw.mem ?_) hw.cache hw.file,
        ⟨rfl, rfl, List.suffix_rfl⟩, entry, Function.update_self .., .inr (.inl ⟨rfl, rfl⟩)⟩
      rintro e ⟨rfl⟩
      exact hdated

end

end PortfolioManagement.Nav
