import Mathlib.Data.List.Dedup
import PortfolioManagement.Nav.OtherAccounts

/-!
# The NAV table stays keyed

A table with at most one row for an account and a date keeps that through every run of writes,
whatever comes of their requests, and no call changes a row it may not overwrite. After a call that
succeeds the local copies of its accounts are what a fresh read gives, provided that no record
without a value in a column replaced a row with one.
-/

namespace PortfolioManagement.Nav

open Prog (EndsIn ends_bind ends_pure ends_raise ends_reads ends_alter ends_lift ends_rescue ends_fold)
open Relation (ReflTransGen)

/-- The business key of a record. -/
def NAVHistory.key (nav : NAVHistory) : String × CivilDate := (nav.account, nav.date)

/-! ## The requests of a write and the keys of the table -/

/-- Every row stays, and as it is unless its key is one of the given. -/
def Stays (keys : List (String × CivilDate)) (table table' : NavTable) : Prop :=
  ∀ row ∈ table.rows, ∃ row' ∈ table'.rows, row'.recordId = row.recordId ∧ row'.key = row.key ∧
    (row.key ∉ keys → row' = row)

theorem Stays.refl (keys : List (String × CivilDate)) (table : NavTable) :
    Stays keys table table := fun row hrow => ⟨row, hrow, rfl, rfl, fun _ => rfl⟩

theorem Stays.trans {keys : List (String × CivilDate)} {t t' t'' : NavTable}
    (h : Stays keys t t') (h' : Stays keys t' t'') : Stays keys t t'' := by
  intro row hrow
  obtain ⟨row', hrow', hid, hkey, hsame⟩ := h row hrow
  obtain ⟨row'', hrow'', hid', hkey', hsame'⟩ := h' row' hrow'
  refine ⟨row'', hrow'', hid'.trans hid, hkey'.trans hkey, fun hother => ?_⟩
  rw [hsame' (hkey ▸ hother), hsame hother]

section
variable {account : String} {navs : List NAVHistory} {table table' : NavTable}

/-- The row of a key is read with its date. -/
theorem date_mem_freshRows {row : NavRow} (hrow : row ∈ table.rows) (h : row.account = account) :
    row.date ∈ (table.freshRows account).map NavRow.date :=
  List.mem_map.mpr ⟨_, NavTable.mem_freshRows.mpr ⟨row, hrow, h, rfl⟩, by simp⟩

section
variable (hpart : SentPart account navs table table') (howns : ∀ nav ∈ navs, nav.account = account)
include hpart howns

/-- What was sent keeps a table keyed. -/
theorem SentPart.keyed (hnavs : (navs.map NAVHistory.date).Nodup) (h : table.Keyed) :
    table'.Keyed := by
  obtain ⟨fallback, fallback', done, made, hdone, hmade, rfl⟩ := hpart
  have hupdated : (table.rows.map fun row => row.receive done).map NavRow.key =
      table.rows.map NavRow.key := by
    rw [List.map_map]
    exact List.map_congr_left fun row _ =>
      Prod.ext (row.receive_account done) (row.receive_date done)
  have hcreated : (createdRows table.nextId made).map NavRow.key =
      made.map fun create => (create.account, create.date) := keys_createdRows table.nextId made
  -- a created key is that of a record without a row, and no two of them are the same
  have hkey : ∀ create ∈ made, create.account = account ∧
      create.date ∉ (table.freshRows account).map NavRow.date := by
    intro create hcreate
    obtain ⟨nav, hnav, rfl⟩ := List.mem_map.mp (hmade.subset hcreate)
    rw [sentCreate_account, sentCreate_date]
    exact ⟨howns nav (mem_createdNavs.mp hnav).1, (mem_createdNavs.mp hnav).2⟩
  have hdates : (made.map Create.date).Nodup := by
    refine List.Nodup.sublist (hmade.sublist.map Create.date) ?_
    rw [List.map_map]
    have hdate : Create.date ∘ sentCreate fallback' = NAVHistory.date :=
      funext fun nav => sentCreate_date fallback' nav
    rw [hdate]
    exact List.Nodup.sublist (List.filter_sublist.map _) hnavs
  show ((table.rows.map fun row => row.receive done) ++ createdRows table.nextId made).map
    NavRow.key |>.Nodup
  rw [List.map_append, hupdated, hcreated]
  refine List.nodup_append'.mpr ⟨h, ?_, ?_⟩
  · refine List.Nodup.of_map Prod.snd ?_
    rw [List.map_map]
    exact hdates
  · intro key hold hnew
    obtain ⟨row, hrow, rfl⟩ := List.mem_map.mp hold
    obtain ⟨create, hcreate, hsame⟩ := List.mem_map.mp hnew
    obtain ⟨haccount, hdate⟩ := Prod.mk.inj hsame
    obtain ⟨hown, hfree⟩ := hkey create hcreate
    exact hfree (hdate ▸ date_mem_freshRows hrow (haccount ▸ hown))

/-- What was sent changes rows with the key of a record that has a row. -/
theorem SentPart.stays :
    Stays ((updatedNavs (table.freshRows account) navs).map fun pair => pair.1.key) table
      table' := by
  obtain ⟨fallback, fallback', done, made, hdone, hmade, rfl⟩ := hpart
  intro row hrow
  refine ⟨row.receive done, List.mem_append_left _ (List.mem_map_of_mem hrow),
    row.receive_recordId done, Prod.ext (row.receive_account done) (row.receive_date done),
    fun hother => NavRow.receive_of_not_mem fun hid => hother ?_⟩
  obtain ⟨update, hupdate, hsame⟩ := List.mem_map.mp hid
  obtain ⟨pair, hpair, rfl⟩ := List.mem_map.mp (hdone.subset hupdate)
  rw [sentUpdate_recordId] at hsame
  obtain ⟨hmem, hdate⟩ := row_of_mem_updatedNavs hpair
  obtain ⟨old, hold, haccount, hread⟩ := NavTable.mem_freshRows.mp hmem
  have hrow' : row = old := by
    refine eq_of_key_eq table.nodup hrow hold (hsame.symm.trans ?_)
    rw [← hread, NavRow.canonical_recordId, NavRow.project_recordId]
  refine List.mem_map.mpr ⟨pair, hpair, Prod.ext ?_ ?_⟩
  · exact (howns _ (mem_updatedNavs.mp hpair).1).trans (hrow' ▸ haccount).symm
  · show pair.1.date = row.date
    rw [hrow', ← hdate, ← hread, NavRow.canonical_date, NavRow.project_date]

/-- What was sent leaves the rows of the other accounts. -/
theorem SentPart.freshRows_of_ne {other : String} (hother : other ≠ account) :
    table'.freshRows other = table.freshRows other := by
  obtain ⟨fallback, fallback', done, made, hdone, hmade, rfl⟩ := hpart
  rw [NavTable.freshRows_createAll_of_ne hother, NavTable.freshRows_updateAll_of_ne hother]
  · intro update hupdate row hrow hid
    obtain ⟨pair, hpair, rfl⟩ := List.mem_map.mp (hdone.subset hupdate)
    rw [sentUpdate_recordId] at hid
    exact ownRows_updatedNavs pair hpair row hrow hid
  · intro create hcreate
    obtain ⟨nav, hnav, rfl⟩ := List.mem_map.mp (hmade.subset hcreate)
    rw [sentCreate_account]
    exact howns nav (mem_createdNavs.mp hnav).1

end

theorem sentPart_sentTable (fallback fallback' : Bool) :
    SentPart account navs table (sentTable table account navs fallback fallback') :=
  ⟨fallback, fallback', _, _, List.prefix_rfl, List.prefix_rfl, rfl⟩

end

/-! ## A full write -/

/-- The local copies of an account are what a fresh read gives; the memory is empty. -/
def Refreshed (w : NavWorld) (account : String) : Prop :=
  w.mem account = none ∧ w.file account = w.cache account ∧
    ∃ stamp, w.cache account = some ⟨w.table.freshRows account, stamp⟩

/-- Every record of a write of one account fits the row it replaces, in all columns. -/
def Fitting (w : NavWorld) (mode : WriteMode) (account : String) (navs : List NAVHistory) : Prop :=
  ∀ pair ∈ updatedNavs (w.table.freshRows account) navs,
    Fits (fun _ => true) mode (decide (Answer.unknownField ∈ w.answers)) pair

theorem Fits.of_refused {look : NavColumn → Bool} {mode : WriteMode} {fallback fallback' : Bool}
    {pair : NAVHistory × NavRow} (h : Fits look mode fallback pair)
    (himp : fallback' = true → fallback = true) : Fits look mode fallback' pair := by
  cases mode with
  | replace => exact h
  | upsert => exact fun hrefused => h (himp hrefused)

/-- A complete write of fitting records refreshes the local copies. -/
theorem FullyWritten.refreshed {mode : WriteMode} {account : String} {navs : List NAVHistory}
    {fallback fallback' : Bool} {w w' : NavWorld}
    (h : FullyWritten mode account navs fallback fallback' w w') (hnavs : (navs.map NAVHistory.date).Nodup)
    (howns : ∀ nav ∈ navs, nav.account = account) (hfits : Fitting w mode account navs) :
    Refreshed w' account := by
  obtain ⟨stamp, hcache⟩ := h.cache
  have hrows := @laidOver_eq_fresh w.table account navs (fun _ => true) mode fallback fallback'
    h.dates hnavs howns fun pair hpair =>
      (hfits pair hpair).of_refused fun hrefused => decide_eq_true (h.refused hrefused)
  have hmask : NavRow.mask (fun _ => true) = id := funext mask_all
  rw [hmask, List.map_id, List.map_id, ← h.table] at hrows
  exact ⟨h.mem, h.file, stamp, hrows ▸ hcache⟩

section
variable {account : String} {navs : List NAVHistory}

theorem nodup_navsOf : ((navsOf account navs).map NAVHistory.date).Nodup :=
  nodup_sortBy (nodup_valuesBy _)

theorem account_of_mem_navsOf {nav : NAVHistory} (h : nav ∈ navsOf account navs) :
    nav ∈ navs ∧ nav.account = account := by
  have hmem := mem_of_mem_valuesBy (mem_sortBy.mp h)
  exact ⟨List.mem_of_mem_filter hmem, by simpa using List.of_mem_filter hmem⟩

theorem mem_writtenAccounts :
    account ∈ writtenAccounts navs ↔ ∃ nav ∈ navs, nav.account = account := by
  rw [writtenAccounts, List.mem_insertionSort, List.mem_dedup, List.mem_map]

theorem nodup_writtenAccounts : (writtenAccounts navs).Nodup :=
  (List.perm_insertionSort _ _).nodup_iff.mpr (List.nodup_dedup _)

theorem navsOf_ne_nil (h : account ∈ writtenAccounts navs) : navsOf account navs ≠ [] := by
  obtain ⟨nav, hnav, haccount⟩ := mem_writtenAccounts.mp h
  have hmem : nav ∈ navs.filter fun nav => nav.account = account :=
    List.mem_filter.mpr ⟨hnav, by simpa using haccount⟩
  obtain ⟨last, hlast, -⟩ : ∃ last ∈ valuesBy NAVHistory.date
      (navs.filter fun nav => nav.account = account), last.date = nav.date :=
    exists_mem_valuesBy hmem
  exact List.ne_nil_of_mem (mem_sortBy.mpr hlast)

end

/-- The table is reached by first parts of the requests of writes of single accounts. -/
def WriteSteps (navs : List NAVHistory) : NavTable → NavTable → Prop :=
  ReflTransGen fun table table' => ∃ account, SentPart account (navsOf account navs) table table'

section
variable {navs : List NAVHistory} {table table' : NavTable}

theorem WriteSteps.keyed (h : WriteSteps navs table table') (hkeyed : table.Keyed) :
    table'.Keyed :=
  Prog.path_invariant (fun _ _ ⟨_, hpart⟩ =>
    hpart.keyed (fun _ hnav => (account_of_mem_navsOf hnav).2) nodup_navsOf) h hkeyed

theorem WriteSteps.stays (h : WriteSteps navs table table') :
    Stays (navs.map NAVHistory.key) table table' := by
  induction h with
  | refl => exact .refl _ _
  | tail _ hstep ih =>
    obtain ⟨account, hpart⟩ := hstep
    refine ih.trans fun row hrow => ?_
    obtain ⟨row', hrow', hid, hkey, hsame⟩ :=
      hpart.stays (fun _ hnav => (account_of_mem_navsOf hnav).2) row hrow
    refine ⟨row', hrow', hid, hkey, fun hother => hsame fun hmem => hother ?_⟩
    obtain ⟨pair, hpair, hpairKey⟩ := List.mem_map.mp hmem
    exact List.mem_map.mpr
      ⟨pair.1, (account_of_mem_navsOf (mem_updatedNavs.mp hpair).1).1, hpairKey⟩

end

section
variable {w : NavWorld}

/-- The checks of the records change nothing. -/
theorem validate_ends (navs : List NAVHistory) (w : NavWorld) :
    EndsIn (fun _ w' => w' = w) (fun _ w' => w' = w)
      (Prog.fold navs () (fun _ nav => Prog.lift (validateNavWrite nav)) w : _ × NavWorld) := by
  refine ends_fold (fun _ _ w' => w' = w) (fun nav rest _ w' _ hw' => ?_) rfl
  subst hw'
  rw [ends_lift]
  cases validateNavWrite nav <;> rfl

/-- What is known in the middle of a full write: `rest` are the accounts to come. -/
structure Midway (mode : WriteMode) (navs : List NAVHistory) (w : NavWorld) (rest : List String)
    (acc : List AccountResult × List Preview) (t : NavWorld) : Prop where
  /-- the copies are dated -/
  sound : Sound t
  /-- outcomes were taken -/
  answers : t.answers <:+ w.answers
  /-- requests were sent -/
  steps : WriteSteps navs w.table t.table
  /-- the accounts to come are untouched -/
  untouched : ∀ account ∈ rest, t.table.freshRows account = w.table.freshRows account
  /-- the accounts that were written are refreshed -/
  refreshed : (∀ result ∈ acc.1, result.error = none) →
    (∀ account, Fitting w mode account (navsOf account navs)) →
    ∀ account ∈ writtenAccounts navs, account ∉ rest → Refreshed t account

theorem Refreshed.aside {account other : String} {t t' : NavWorld} (h : Refreshed t other)
    (hother : other ≠ account) (haside : Aside account t t')
    (hfresh : t'.table.freshRows other = t.table.freshRows other) : Refreshed t' other := by
  obtain ⟨hmem, hfile, stamp, hcache⟩ := h
  refine ⟨(haside.mem other hother).trans hmem, ?_, stamp, ?_⟩
  · rw [haside.cache other hother]
    rcases haside.file other hother with h | h
    · exact h.trans hfile
    · exact h
  · rw [haside.cache other hother, hfresh]
    exact hcache

/-- The write of one account keeps what is known in the middle of a full write. -/
theorem Midway.writeOneAccount {mode : WriteMode} {navs : List NAVHistory} {account : String}
    {rest : List String} {acc : List AccountResult × List Preview} {t : NavWorld}
    (h : Midway mode navs w (account :: rest) acc t) (allowPartial : Bool)
    (hmem : account ∈ writtenAccounts navs) (hnew : account ∉ rest) :
    EndsIn (fun acc' t' => Midway mode navs w rest acc' t')
      (fun _ t' => Sound t' ∧ WriteSteps navs w.table t'.table)
      (writeOneAccount mode allowPartial false navs acc account t) := by
  have howns : ∀ nav ∈ navsOf account navs, nav.account = account :=
    fun _ hnav => (account_of_mem_navsOf hnav).2
  have hrun := (writeAccountBatch_ends h.sound (navsOf_ne_nil hmem) nodup_navsOf howns).and
    ((@aside_writeAccountBatch account mode (navsOf account navs)).ends t)
  -- what holds of the accounts to come and of those written after the requests of this one
  have hstep : ∀ {t' : NavWorld}, SentPart account (navsOf account navs) t.table t'.table →
      WriteSteps navs w.table t'.table ∧
        ∀ other ∈ rest, t'.table.freshRows other = w.table.freshRows other := by
    intro t' hpart
    refine ⟨h.steps.tail ⟨account, hpart⟩, fun other hother => ?_⟩
    have hne : other ≠ account := fun heq => hnew (heq ▸ hother)
    exact (hpart.freshRows_of_ne howns hne).trans
      (h.untouched other (List.mem_cons_of_mem _ hother))
  unfold Nav.writeOneAccount
  rw [ends_rescue]
  show EndsIn _ _ ((writeAccountBatch account mode (navsOf account navs) >>= fun result =>
    pure (acc.1 ++ [result], acc.2)) t)
  rw [ends_bind]
  refine hrun.imp ?_ ?_
  · rintro result t' ⟨⟨hsound, hanswers, herror, fallback, fallback', hwritten⟩, haside⟩
    have hpart : SentPart account (navsOf account navs) t.table t'.table :=
      hwritten.table ▸ sentPart_sentTable fallback fallback'
    obtain ⟨hsteps, huntouched⟩ := hstep hpart
    refine ⟨hsound, hanswers.trans h.answers, hsteps, huntouched,
      fun hnone hfits other hwrite hother => ?_⟩
    have hfirst : ∀ r ∈ acc.1, r.error = none := fun r hr => hnone r (List.mem_append_left _ hr)
    by_cases heq : other = account
    · subst heq
      refine hwritten.refreshed nodup_navsOf howns fun pair hpair => ?_
      rw [h.untouched other List.mem_cons_self] at hpair
      refine (hfits other pair hpair).of_refused fun hrefused => ?_
      exact decide_eq_true (h.answers.subset (of_decide_eq_true hrefused))
    · refine (h.refreshed hfirst hfits other hwrite ?_).aside heq haside
        (hpart.freshRows_of_ne howns heq)
      exact fun hin => (List.mem_cons.mp hin).elim heq hother
  · rintro e t' ⟨⟨hsound, hpart⟩, haside⟩
    obtain ⟨hsteps, huntouched⟩ := hstep hpart
    split
    · exact ⟨hsound, hsteps⟩
    · refine ⟨hsound, haside.answers.trans h.answers, hsteps, huntouched, fun hnone => ?_⟩
      have herror := hnone _ (List.mem_append_right _ List.mem_cons_self)
      cases herror

/-- A full write sends parts of the requests of its accounts; when it succeeds without an error and
its records fit, its accounts are refreshed. -/
theorem writeNavFullRecords_ends (mode : WriteMode) (allowPartial : Bool) (navs : List NAVHistory)
    (hw : Sound w) :
    EndsIn (fun result w' => Sound w' ∧ WriteSteps navs w.table w'.table ∧
        (result.errors = [] → (∀ account, Fitting w mode account (navsOf account navs)) →
          ∀ account ∈ writtenAccounts navs, Refreshed w' account))
      (fun _ w' => Sound w' ∧ WriteSteps navs w.table w'.table)
      (writeNavFullRecords navs mode allowPartial false w) := by
  unfold writeNavFullRecords
  rw [ends_bind]
  refine (validate_ends navs w).imp ?_ fun _ w' hsame => by rw [hsame]; exact ⟨hw, .refl⟩
  intro _ w' hsame
  rw [hsame, ends_bind]
  have hstart : Midway mode navs w (writtenAccounts navs) ([], []) w :=
    ⟨hw, List.suffix_rfl, .refl, fun _ _ => rfl, fun _ _ account hin hout => absurd hin hout⟩
  refine (ends_fold (fun rest acc t => Midway mode navs w rest acc t) ?_ hstart).imp ?_
    fun _ _ h => h
  · intro account rest acc t hsuffix h
    have hnodup := List.Nodup.sublist hsuffix.sublist nodup_writtenAccounts
    exact h.writeOneAccount allowPartial (hsuffix.subset List.mem_cons_self)
      (List.nodup_cons.mp hnodup).1
  · rintro ⟨accounts, previews⟩ t h
    refine ⟨h.sound, h.steps, fun hnone hfits account hin => ?_⟩
    refine h.refreshed (fun result hresult => ?_) hfits account hin List.not_mem_nil
    have hskip := List.filterMap_eq_nil_iff.mp hnone result hresult
    cases herror : result.error with
    | none => rfl
    | some e =>
      rw [herror] at hskip
      cases hskip

/-- A preview reads the account and changes nothing in the table. -/
theorem previewAccount_ends (account : String) (navs : List NAVHistory) (hw : Sound w) :
    EndsIn (fun out w' => Sound w' ∧ SameTable w w' ∧
        w'.cache account = some (w.freshEntry account) ∧
        ((w.table.freshRows account).map NavRow.date).Nodup ∧
        out.2 = navs.map fun nav =>
          ⟨account, nav.date, rowOn (w.table.freshRows account) nav.date, navToDict nav⟩)
      (fun _ w' => Sound w' ∧ SameTable w w') (previewAccount account navs w) := by
  unfold previewAccount
  rw [ends_bind]
  refine (existingRowsForWrite_ends account hw).imp ?_ fun _ _ h => h
  rintro _ w' ⟨hw', hsame, rfl, hcache, hdates⟩
  exact ⟨hw', hsame, hcache, hdates, rfl⟩

/-- A dry run changes nothing in the table. -/
theorem dryRun_ends (mode : WriteMode) (allowPartial : Bool) (navs : List NAVHistory)
    (hw : Sound w) :
    EndsIn (fun _ w' => Sound w' ∧ SameTable w w') (fun _ w' => Sound w' ∧ SameTable w w')
      (writeNavFullRecords navs mode allowPartial true w) := by
  unfold writeNavFullRecords
  rw [ends_bind]
  refine (validate_ends navs w).imp ?_ fun _ w' hsame => by rw [hsame]; exact ⟨hw, .refl w⟩
  intro _ w' hsame
  rw [hsame, ends_bind]
  refine (ends_fold (fun _ _ t => Sound t ∧ SameTable w t) ?_ ⟨hw, .refl w⟩).imp
    (fun _ _ h => h) fun _ _ h => h
  rintro account rest acc t - ⟨ht, hsame⟩
  unfold writeOneAccount
  rw [ends_rescue]
  show EndsIn _ _ ((previewAccount account (navsOf account navs) >>= fun out =>
    pure (acc.1 ++ [out.1], acc.2 ++ out.2)) t)
  rw [ends_bind]
  refine (previewAccount_ends account _ ht).imp ?_ ?_
  · rintro out t' ⟨ht', hsame', -⟩
    exact ⟨ht', hsame.trans hsame'⟩
  · rintro e t' ⟨ht', hsame'⟩
    split
    · exact ⟨ht', hsame.trans hsame'⟩
    · exact ⟨ht', hsame.trans hsame'⟩

/-! ## The write of one record -/

theorem writtenAccounts_singleton (nav : NAVHistory) : writtenAccounts [nav] = [nav.account] := by
  simp [writtenAccounts]

theorem navsOf_singleton (nav : NAVHistory) : navsOf nav.account [nav] = [nav] := by
  simp [navsOf, datedNavs, valuesBy, gather, Items.set, Items.update, sortBy]

/-- The preview of one record gives the row of its date. -/
theorem previewOne_ends (nav : NAVHistory) (hw : Sound w) :
    EndsIn (fun result w' => Sound w' ∧ SameTable w w' ∧
        w'.cache nav.account = some (w.freshEntry nav.account) ∧
        ((w.table.freshRows nav.account).map NavRow.date).Nodup ∧
        result.previews.head?.bind (·.existingRow) =
          rowOn (w.table.freshRows nav.account) nav.date)
      (fun _ w' => Sound w' ∧ SameTable w w') (writeNavFullRecords [nav] .replace false true w) := by
  unfold writeNavFullRecords
  rw [ends_bind]
  refine (validate_ends [nav] w).imp ?_ fun _ w' hsame => by rw [hsame]; exact ⟨hw, .refl w⟩
  intro _ w' hsame
  rw [hsame, ends_bind, writtenAccounts_singleton]
  show EndsIn _ _ ((writeOneAccount .replace false true [nav] ([], []) nav.account >>= fun acc =>
    pure acc) w)
  rw [ends_bind]
  unfold writeOneAccount
  rw [ends_rescue, navsOf_singleton]
  show EndsIn _ _ ((previewAccount nav.account [nav] >>= fun out =>
    pure ([] ++ [out.1], [] ++ out.2)) w)
  rw [ends_bind]
  refine (previewAccount_ends nav.account [nav] hw).imp ?_ fun _ _ h => h
  rintro out t ⟨ht, hsame, hcache, hdates, hout⟩
  refine ⟨ht, hsame, hcache, hdates, ?_⟩
  show ([] ++ out.2).head?.bind _ = _
  rw [hout]
  rfl

/-- The write of one record sends a part of its request, none that changes a row unless it may
overwrite; when it succeeds and its record fits, its account is refreshed. -/
theorem writeNavRecord_ends (nav : NAVHistory) (overwriteExisting dryRun : Bool) (hw : Sound w) :
    EndsIn (fun _ w' => Sound w' ∧ SentPart nav.account [nav] w.table w'.table ∧
        Stays (if overwriteExisting && !dryRun then [nav.key] else []) w.table w'.table ∧
        (dryRun = false → Fitting w .replace nav.account [nav] → Refreshed w' nav.account))
      (fun _ w' => Sound w' ∧ SentPart nav.account [nav] w.table w'.table ∧
        Stays (if overwriteExisting && !dryRun then [nav.key] else []) w.table w'.table)
      (writeNavRecord nav overwriteExisting dryRun w) := by
  have howns : ∀ n ∈ [nav], n.account = nav.account := by simp
  have hnavs : ([nav].map NAVHistory.date).Nodup := List.nodup_singleton _
  -- a state over the same table
  have hidle : ∀ {w' : NavWorld}, SameTable w w' → SentPart nav.account [nav] w.table w'.table ∧
      Stays (if overwriteExisting && !dryRun then [nav.key] else []) w.table w'.table := by
    intro w' hsame
    rw [hsame.table]
    exact ⟨.refl _ _ _, .refl _ _⟩
  unfold writeNavRecord
  rw [ends_bind]
  refine (previewOne_ends nav hw).imp ?_ fun _ w' h => ⟨h.1, hidle h.2⟩
  rintro result w₁ ⟨hw₁, hsame, hcache, hdates, hexisting⟩
  rw [hexisting]
  by_cases hrefuse : (rowOn (w.table.freshRows nav.account) nav.date).isSome ∧ ¬ overwriteExisting
  · rw [if_pos hrefuse]
    exact ⟨hw₁, hidle hsame⟩
  · rw [if_neg hrefuse]
    cases dryRun with
    | true => exact ⟨hw₁, (hidle hsame).1, (hidle hsame).2, nofun⟩
    | false =>
      -- a row that is changed has the key of the record, which may be overwritten then
      have hstays : ∀ {w' : NavWorld}, SentPart nav.account [nav] w.table w'.table →
          Stays (if overwriteExisting && !false then [nav.key] else []) w.table w'.table := by
        intro w' hpart row hrow
        obtain ⟨row', hrow', hid, hkey, hsame⟩ := hpart.stays howns row hrow
        refine ⟨row', hrow', hid, hkey, fun hother => hsame fun hmem => hother ?_⟩
        obtain ⟨pair, hpair, hpairKey⟩ := List.mem_map.mp hmem
        obtain ⟨hin, hon⟩ := mem_updatedNavs.mp hpair
        rw [List.mem_singleton.mp hin] at hon hpairKey
        have hoverwrite : overwriteExisting = true := by
          by_contra h
          exact hrefuse ⟨by rw [hon]; rfl, h⟩
        rw [hoverwrite, ← hpairKey]
        exact List.mem_cons_self
      show EndsIn _ _ ((executeSingleNavWrite nav (rowOn (w.table.freshRows nav.account) nav.date)
        .replace >>= fun row => applyNavRowsToLocalCache nav.account [row] _) w₁)
      have hexecute := executeSingleNavWrite_ends nav hw₁
      rw [hsame.table] at hexecute
      rw [ends_bind]
      refine hexecute.imp ?_ ?_
      · rintro row w₂ ⟨hw₂, fallback, fallback', hsent, hrow⟩
        have htable : w₂.table = sentTable w.table nav.account [nav] fallback fallback' := by
          rw [hsent.table, hsame.table]
        have hpart : SentPart nav.account [nav] w.table w₂.table :=
          htable ▸ sentPart_sentTable fallback fallback'
        have hbase : w₂.cache nav.account = some (w.freshEntry nav.account) := by
          rw [hsent.cache, hcache]
        have hidentified : IdentifiedRows nav.account (w.table.freshRows nav.account) :=
          (buildNavPayload_ok.mp (hw₁.cache nav.account _ hcache).built).1
        have haccount := hsent.account
        rw [hsame.table] at haccount
        have hlater : (w.freshEntry nav.account).stamp < w₂.revision nav.account := by
          have hcounted := hsent.counted
          rw [hsame.revision] at hcounted
          exact hcounted
        rw [hrow]
        refine (applyNavRows_ends hw₂ hbase (appliedRows_ne_nil (List.cons_ne_nil _ _))
          (identifiedRows_appliedRows howns hidentified haccount) hlater fun hexact => ?_).imp ?_
            fun _ _ h => h.elim
        · rw [htable]
          refine dictToNav_of_mask (laidOver_eq_fresh hdates hnavs howns fun pair hpair => ?_)
          obtain ⟨hin, hon⟩ := mem_updatedNavs.mp hpair
          have hnav : pair.1 = nav := List.mem_singleton.mp hin
          refine fits_of_covers (.inr ?_)
          rw [hnav] at hon ⊢
          exact of_decide_eq_true hexact pair.2 hon
        · rintro _ w₃ ⟨hw₃, hsame', hmem, hfile, hcopy⟩
          rw [hsame'.table]
          refine ⟨hw₃, hpart, hstays hpart, fun _ hfits => ?_⟩
          have hwritten : FullyWritten .replace nav.account [nav] fallback fallback' w w₃ :=
            ⟨hdates, fun h => hsame.answers.subset (hsent.refused h), hsame'.table.trans htable,
              hmem, hfile, hcopy⟩
          exact hwritten.refreshed hnavs howns hfits
      · rintro e w₂ ⟨hw₂, hpart⟩
        exact ⟨hw₂, hpart, hstays hpart⟩

end

end PortfolioManagement.Nav
