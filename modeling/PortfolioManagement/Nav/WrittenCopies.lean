import PortfolioManagement.Nav.WriteLaws

/-!
# Local copies after a write

The rows that a write lays over the local copy, and when the copy holds what a fresh read gives:
where every record has a value wherever the row it replaces has one, or the mode keeps the old
values.
-/

namespace PortfolioManagement.Nav

open Prog (EndsIn ends_bind ends_pure ends_raise ends_reads ends_alter ends_lift ends_rescue ends_fold)

/-! ## The records of a write -/

section
variable {existingRows : List NavRow} {navs : List NAVHistory}

theorem rowOn_mem {date : CivilDate} {row : NavRow} (h : rowOn existingRows date = some row) :
    row ∈ existingRows ∧ row.date = date := by
  rw [rowOn, lookup_gather] at h
  have hmem := List.mem_of_getLast? h
  exact ⟨List.mem_of_mem_filter hmem, by simpa using List.of_mem_filter hmem⟩

theorem rowOn_eq_none {date : CivilDate} :
    rowOn existingRows date = none ↔ date ∉ existingRows.map NavRow.date := by
  rw [rowOn, lookup_gather, List.getLast?_eq_none_iff, List.filter_eq_nil_iff]
  simp

theorem mem_updatedNavs {pair : NAVHistory × NavRow} :
    pair ∈ updatedNavs existingRows navs ↔
      pair.1 ∈ navs ∧ rowOn existingRows pair.1.date = some pair.2 := by
  rw [updatedNavs, List.mem_filterMap]
  constructor
  · rintro ⟨nav, hnav, hpair⟩
    obtain ⟨row, hrow, rfl⟩ := Option.map_eq_some_iff.mp hpair
    exact ⟨hnav, hrow⟩
  · rintro ⟨hnav, hrow⟩
    exact ⟨pair.1, hnav, by rw [hrow]; rfl⟩

theorem mem_createdNavs {nav : NAVHistory} :
    nav ∈ createdNavs existingRows navs ↔
      nav ∈ navs ∧ nav.date ∉ existingRows.map NavRow.date := by
  rw [createdNavs, List.mem_filter, Option.isNone_iff_eq_none, rowOn_eq_none]

/-- The records that have a row, in their order. -/
theorem fst_updatedNavs : (updatedNavs existingRows navs).map Prod.fst =
    navs.filter fun nav => (rowOn existingRows nav.date).isSome := by
  induction navs with
  | nil => rfl
  | cons nav navs ih =>
    rw [updatedNavs, List.filterMap_cons, List.filter_cons]
    cases hrow : rowOn existingRows nav.date with
    | none => exact ih
    | some row => exact congrArg (nav :: ·) ih

/-- A pair of a write: its row is a row that was read, with the date of the record. -/
theorem row_of_mem_updatedNavs {pair : NAVHistory × NavRow}
    (h : pair ∈ updatedNavs existingRows navs) :
    pair.2 ∈ existingRows ∧ pair.2.date = pair.1.date := rowOn_mem (mem_updatedNavs.mp h).2

/-- The dates of the records with a row and of those without. -/
theorem dates_updatedNavs : (updatedNavs existingRows navs).map (fun pair => pair.2.date) =
    (navs.filter fun nav => (rowOn existingRows nav.date).isSome).map NAVHistory.date := by
  rw [← fst_updatedNavs, List.map_map]
  exact List.map_congr_left fun pair hpair => (row_of_mem_updatedNavs hpair).2

/-- Records with distinct dates keep them when they are split. -/
theorem nodup_split (h : (navs.map NAVHistory.date).Nodup) :
    ((updatedNavs existingRows navs).map (fun pair => pair.2.date) ++
      (createdNavs existingRows navs).map NAVHistory.date).Nodup := by
  rw [dates_updatedNavs]
  refine List.nodup_append'.mpr ⟨List.Nodup.sublist (List.filter_sublist.map _) h,
    List.Nodup.sublist (List.filter_sublist.map _) h, ?_⟩
  intro date hupdated hcreated
  obtain ⟨nav, hnav, rfl⟩ := List.mem_map.mp hupdated
  obtain ⟨nav', hnav', hdate⟩ := List.mem_map.mp hcreated
  have hsome : (rowOn existingRows nav.date).isSome = true := by
    simpa using List.of_mem_filter hnav
  have hnone : (rowOn existingRows nav'.date).isNone = true := by
    simpa using List.of_mem_filter hnav'
  rw [hdate, Option.isNone_iff_eq_none] at hnone
  rw [hnone] at hsome
  cases hsome

end

section
variable {table : NavTable} {account : String} {navs : List NAVHistory}

/-- The rows of the pairs of a write are rows of the account. -/
theorem ownRows_updatedNavs :
    OwnRows account table (updatedNavs (table.freshRows account) navs) := by
  intro pair hpair row hrow hid
  obtain ⟨old, hold, haccount, hread⟩ := NavTable.mem_freshRows.mp (row_of_mem_updatedNavs hpair).1
  rw [← hread, NavRow.canonical_recordId, NavRow.project_recordId] at hid
  rw [eq_of_key_eq table.nodup hrow hold hid]
  exact haccount

/-- The pairs of a write have distinct records. -/
theorem nodup_recordId_updatedNavs (h : (navs.map NAVHistory.date).Nodup) :
    ((updatedNavs (table.freshRows account) navs).map fun pair => pair.2.recordId).Nodup := by
  have hdates : ((updatedNavs (table.freshRows account) navs).map
      fun pair => pair.2.date).Nodup := (List.nodup_append'.mp (nodup_split h)).1
  refine List.Nodup.map_on ?_ (List.Nodup.of_map _ hdates)
  intro pair hpair pair' hpair' hid
  have hrow : pair.2 = pair'.2 := eq_of_key_eq (table.nodup_recordId_freshRows account)
    (row_of_mem_updatedNavs hpair).1 (row_of_mem_updatedNavs hpair').1 hid
  exact eq_of_key_eq hdates hpair hpair' (congrArg NavRow.date hrow)

end

/-! ## Rows for the local copy -/

/-- The local row of a pair fits the columns that are looked at: a replacing record has a value
wherever the old row has one; a keeping one fell back only over a row without the time of its
update. -/
def Fits (look : NavColumn → Bool) (mode : WriteMode) (fallback : Bool)
    (pair : NAVHistory × NavRow) : Prop :=
  match mode with
  | .replace => ∀ column, look column → navToDict pair.1 column = none →
      pair.2.cells column = none
  | .upsert => fallback → look .updatedAt → pair.2.cells .updatedAt = none

/-- The columns of a record: all but `updated_at`. -/
def recordColumns (column : NavColumn) : Bool := column ≠ .updatedAt

theorem fits_of_covers {mode : WriteMode} {fallback : Bool} {pair : NAVHistory × NavRow}
    (h : mode = .upsert ∨ Covers pair.1 pair.2) : Fits recordColumns mode fallback pair := by
  cases mode with
  | replace =>
    intro column hlook
    have hcovers : Covers pair.1 pair.2 := h.resolve_left nofun
    exact hcovers column column.mem_all (by simpa [recordColumns] using hlook)
  | upsert => exact fun _ hlook => absurd hlook (by decide)

section
variable {look : NavColumn → Bool} {mode : WriteMode} {fallback : Bool}
  {pair : NAVHistory × NavRow}

@[simp] theorem localRow_recordId : (localRow mode fallback pair).recordId = pair.2.recordId := by
  cases mode <;> cases fallback <;> rfl

@[simp] theorem localRow_account : (localRow mode fallback pair).account = pair.1.account := by
  cases mode <;> cases fallback <;> rfl

@[simp] theorem localRow_date : (localRow mode fallback pair).date = pair.1.date := by
  cases mode <;> cases fallback <;> rfl

@[simp] theorem sentUpdate_updatedAt : (sentUpdate fallback pair).fields .updatedAt = none := by
  cases fallback <;> rfl

/-- A replacing row holds the fields of the record. -/
theorem navToCacheRow_cells (recordId : Nat) (nav : NAVHistory) (column : NavColumn) :
    (navToCacheRow recordId nav none).cells column = navToDict nav column := by
  show (if column = .updatedAt then none else navToDict nav column) = _
  split
  · next h => rw [h, navToDict_updatedAt]
  · rfl

/-- A fitting local row holds the field that was sent or else what the old row holds. -/
theorem Fits.cells (h : Fits look mode fallback pair) (column : NavColumn) (hlook : look column) :
    (localRow mode fallback pair).cells column =
      ((sentUpdate fallback pair).fields column <|> pair.2.cells column) := by
  obtain ⟨nav, old⟩ := pair
  -- the row before a fallback
  have hrow : ∀ column, (updatedRow mode (nav, old)).cells column =
      match mode with
      | .replace => navToDict nav column
      | .upsert => (navToDict nav column <|> old.cells column) := by
    intro column
    cases mode with
    | replace => exact navToCacheRow_cells _ _ _
    | upsert => exact congrArg (· <|> old.cells column) (navToCacheRow_cells _ _ _)
  have hcovered : mode = .replace → navToDict nav column = none → old.cells column = none := by
    rintro rfl hnone
    exact h column hlook hnone
  cases fallback with
  | false =>
    show (updatedRow mode (nav, old)).cells column = (navToDict nav column <|> old.cells column)
    rw [hrow]
    cases mode with
    | upsert => rfl
    | replace =>
      show navToDict nav column = _
      cases hcell : navToDict nav column with
      | some cell => rfl
      | none => exact (hcovered rfl hcell).symm
  | true =>
    show (if column = .updatedAt then none else if column = .details then old.cells .details
      else (updatedRow mode (nav, old)).cells column) =
        ((if column = .details then none else navToDict nav column) <|> old.cells column)
    rw [hrow]
    by_cases hstamp : column = .updatedAt
    · subst hstamp
      have hold : old.cells .updatedAt = none := by
        cases mode with
        | replace => exact hcovered rfl rfl
        | upsert => exact h rfl hlook
      rw [if_pos rfl, hold]
      rfl
    · rw [if_neg hstamp]
      by_cases hdetails : column = .details
      · subst hdetails
        rfl
      · rw [if_neg hdetails, if_neg hdetails]
        cases mode with
        | upsert => rfl
        | replace =>
          show navToDict nav column = _
          cases hcell : navToDict nav column with
          | some cell => rfl
          | none => exact (hcovered rfl hcell).symm

end

/-- The created local rows hold what the created records hold. -/
theorem holdsCreated_createdCacheRows (stamped fallback : Bool) (look : NavColumn → Bool) (n : Nat)
    (navs : List NAVHistory) :
    List.Forall₂ (HoldsCreated stamped look) (createdRows n (navs.map (sentCreate fallback)))
      (createdCacheRows (!fallback) (List.range' n navs.length) navs) := by
  induction navs generalizing n with
  | nil => exact .nil
  | cons nav navs ih =>
    refine .cons ⟨?_, ?_, ?_, fun column _ => ?_⟩ (ih (n + 1))
    · cases fallback <;> rfl
    · cases fallback <;> rfl
    · cases fallback <;> rfl
    · cases fallback <;> cases stamped <;> cases column <;> rfl

section
variable (table : NavTable) (account : String) (navs : List NAVHistory) (mode : WriteMode)
  (fallback fallback' : Bool)

/-- The table after all requests of a write of one account, each stage with or without the
details. -/
def sentTable : NavTable :=
  (table.updateAll ((updatedNavs (table.freshRows account) navs).map
    (sentUpdate fallback))).createAll ((createdNavs (table.freshRows account) navs).map
      (sentCreate fallback'))

/-- The rows that a write of one account applies to the local copy. -/
def appliedRows : List NavRow :=
  (updatedNavs (table.freshRows account) navs).map (localRow mode fallback) ++
    createdCacheRows (!fallback') (List.range' table.nextId
      (createdNavs (table.freshRows account) navs).length)
      (createdNavs (table.freshRows account) navs)

end

/-- Rows laid over the rows of a local copy, as `_apply_nav_rows_to_local_cache` leaves them. -/
def laidOver (base rows : List NavRow) : List NavRow :=
  sortBy NavRow.date
    ((sortBy NavRow.date (valuesBy NavRow.date (base ++ rows))).map NavRow.canonical)

/-- What a complete write lays over the rows that were read holds what a fresh read gives, in the
columns in which its rows fit. -/
theorem laidOver_eq_fresh {table : NavTable} {account : String} {navs : List NAVHistory}
    {look : NavColumn → Bool} {mode : WriteMode} {fallback fallback' : Bool}
    (hdates : ((table.freshRows account).map NavRow.date).Nodup)
    (hnavs : (navs.map NAVHistory.date).Nodup) (howns : ∀ nav ∈ navs, nav.account = account)
    (hfits : ∀ pair ∈ updatedNavs (table.freshRows account) navs, Fits look mode fallback pair) :
    (laidOver (table.freshRows account)
        (appliedRows table account navs mode fallback fallback')).map (NavRow.mask look) =
      ((sentTable table account navs fallback fallback').freshRows account).map
        (NavRow.mask look) := by
  unfold laidOver appliedRows sentTable
  have hcreated : ∀ nav ∈ createdNavs (table.freshRows account) navs,
      nav.account = account ∧ nav.date ∉ (table.freshRows account).map NavRow.date :=
    fun nav hnav => ⟨howns nav (mem_createdNavs.mp hnav).1, (mem_createdNavs.mp hnav).2⟩
  generalize hpairs : updatedNavs (table.freshRows account) navs = pairs at hfits ⊢
  generalize hnews : createdNavs (table.freshRows account) navs = news at hcreated ⊢
  have hmade := holdsCreated_createdCacheRows table.stamped fallback' look table.nextId news
  have hsplit : (pairs.map (fun pair => pair.2.date) ++ news.map NAVHistory.date).Nodup := by
    rw [← hpairs, ← hnews]
    exact nodup_split hnavs
  have hids : (pairs.map fun pair => pair.2.recordId).Nodup := by
    rw [← hpairs]
    exact nodup_recordId_updatedNavs hnavs
  have hrow : ∀ pair ∈ pairs, pair.2 ∈ table.freshRows account ∧ pair.2.date = pair.1.date ∧
      pair.1.account = account := by
    intro pair hpair
    rw [← hpairs] at hpair
    exact ⟨(row_of_mem_updatedNavs hpair).1, (row_of_mem_updatedNavs hpair).2,
      howns _ (mem_updatedNavs.mp hpair).1⟩
  have hfst : pairs.map (sentUpdate fallback) =
      (pairs.map fun pair => (sentUpdate fallback pair, localRow mode fallback pair)).map
        Prod.fst := by
    rw [List.map_map]
    rfl
  have hsnd : pairs.map (localRow mode fallback) =
      (pairs.map fun pair => (sentUpdate fallback pair, localRow mode fallback pair)).map
        Prod.snd := by
    rw [List.map_map]
    rfl
  rw [hfst, hsnd]
  refine laid_rows_eq_fresh hdates ?_ ?_ ?_ ?_ ?_ hmade ?_
  · rw [List.map_map]
    have hid : ((fun item : Update × NavRow => item.1.recordId) ∘
        fun pair => (sentUpdate fallback pair, localRow mode fallback pair)) =
          fun pair => pair.2.recordId := funext fun pair => sentUpdate_recordId fallback pair
    rw [hid]
    exact hids
  · intro item hitem
    obtain ⟨pair, hpair, rfl⟩ := List.mem_map.mp hitem
    exact sentUpdate_updatedAt
  · intro item hitem
    obtain ⟨pair, hpair, rfl⟩ := List.mem_map.mp hitem
    obtain ⟨hmem, hdate, haccount⟩ := hrow pair hpair
    refine ⟨pair.2, hmem, sentUpdate_recordId _ _, localRow_recordId,
      localRow_account.trans haccount, localRow_date.trans hdate.symm, fun column hlook => ?_⟩
    exact congrArg column.read ((hfits pair hpair).cells column hlook)
  · intro create hcreate
    obtain ⟨nav, hnav, rfl⟩ := List.mem_map.mp hcreate
    rw [sentCreate_account]
    exact (hcreated nav hnav).1
  · intro create hcreate
    obtain ⟨nav, hnav, rfl⟩ := List.mem_map.mp hcreate
    rw [sentCreate_date]
    exact (hcreated nav hnav).2
  · have hmadeDates := map_eq_of_forall₂ hmade (f := NavRow.date) (g := NavRow.date)
      fun _ _ h => h.2.2.1.symm
    rw [← hsnd, List.map_append, List.map_map, ← hmadeDates, dates_createdRows, List.map_map]
    have hlocal : pairs.map (NavRow.date ∘ localRow mode fallback) =
        pairs.map fun pair => pair.2.date :=
      List.map_congr_left fun pair hpair => localRow_date.trans (hrow pair hpair).2.1.symm
    have hsent : news.map (Create.date ∘ sentCreate fallback') = news.map NAVHistory.date :=
      List.map_congr_left fun nav _ => sentCreate_date _ _
    rw [hlocal, hsent]
    exact hsplit

theorem mask_all (row : NavRow) : row.mask (fun _ => true) = row := rfl

/-- Rows that agree in the columns of a record hold the same records. -/
theorem dictToNav_of_mask {rows rows' : List NavRow}
    (h : rows.map (NavRow.mask recordColumns) = rows'.map (NavRow.mask recordColumns)) :
    rows.map dictToNav = rows'.map dictToNav := by
  have hmask : ∀ row : NavRow, dictToNav (row.mask recordColumns) = dictToNav row := fun _ => rfl
  have hmap : ∀ l : List NavRow, l.map dictToNav = (l.map (NavRow.mask recordColumns)).map
      dictToNav := by
    intro l
    rw [List.map_map]
    exact List.map_congr_left fun row _ => (hmask row).symm
  rw [hmap rows, h, ← hmap]

/-! ## Applying rows -/

section
variable {w : NavWorld} {account : String}

theorem identifiedRows_laidOver {base rows : List NavRow} (hbase : IdentifiedRows account base)
    (hrows : IdentifiedRows account rows) :
    IdentifiedRows account (sortBy NavRow.date (valuesBy NavRow.date (base ++ rows))) := by
  intro row hrow
  rcases List.mem_append.mp (mem_of_mem_valuesBy (mem_sortBy.mp hrow)) with h | h
  · exact hbase row h
  · exact hrows row h

/-- Applied rows are laid over the local copy, which is stamped as told, and the memory is
forgotten. -/
theorem applyNavRows_ends {base : Entry} {rows : List NavRow} {exact : Bool} (hw : Sound w)
    (hbase : w.cache account = some base) (hne : rows ≠ [])
    (hrows : IdentifiedRows account rows) (hlater : base.stamp < w.revision account)
    (hexact : exact = true →
      (laidOver base.rows rows).map dictToNav = (w.table.freshRows account).map dictToNav) :
    EndsIn (fun _ w' => Sound w' ∧ SameTable w w' ∧ w'.mem account = none ∧
        w'.file account = w'.cache account ∧
        ∃ stamp, w'.cache account = some ⟨laidOver base.rows rows, stamp⟩)
      (fun _ _ => False) (applyNavRowsToLocalCache account rows exact w) := by
  have hdated := hw.cache account base hbase
  have hidentified := identifiedRows_laidOver (buildNavPayload_ok.mp hdated.built).1 hrows
  have hbuild : buildNavPayload account
      (sortBy NavRow.date (valuesBy NavRow.date (base.rows ++ rows))) =
        .ok (laidOver base.rows rows) := buildNavPayload_ok.mpr ⟨hidentified, rfl⟩
  have hsorted : sortBy NavRow.date ((laidOver base.rows rows).map NavRow.canonical) =
      laidOver base.rows rows := by
    have hcanon : ∀ row : NavRow, NavRow.date row.canonical = NavRow.date row := fun _ => rfl
    rw [laidOver, map_sortBy hcanon, List.map_map, sortBy_sortBy]
    exact congrArg _ (List.map_congr_left fun row _ => row.canonical_canonical)
  -- a copy that is not exact keeps a stamp of the past
  have hentry : ∀ raw : List NavRow, raw = laidOver base.rows rows → Dated w account
      ⟨raw, if exact then w.revision account else base.stamp⟩ := by
    rintro raw rfl
    refine ⟨buildNavPayload_ok.mpr ⟨?_, hsorted⟩, ?_, ?_⟩
    · intro row hrow
      obtain ⟨old, hold, rfl⟩ := List.mem_map.mp (mem_sortBy.mp hrow)
      exact hidentified old hold
    · cases exact with
      | true => exact le_rfl
      | false => exact hdated.past
    · intro hstamp
      cases exact with
      | true => exact hexact rfl
      | false => exact absurd hstamp (Nat.ne_of_lt hlater)
  unfold applyNavRowsToLocalCache
  rw [if_neg hne, ends_bind, ends_reads, ends_bind, ends_reads, hbase]
  show EndsIn _ _ ((setAccount account _ true >>= fun _ => _) w)
  rw [ends_bind]
  show EndsIn _ _ ((Prog.lift (buildNavPayload account (sortBy NavRow.date
    (valuesBy NavRow.date (base.rows ++ rows)))) >>= fun _ => _) _)
  rw [ends_bind, hbuild]
  have hcopies : ∀ a, ∀ e ∈ Function.update (Function.update w.cache account
      (some ⟨sortBy NavRow.date (valuesBy NavRow.date (base.rows ++ rows)),
        if exact then w.revision account else base.stamp⟩)) account
      (some ⟨laidOver base.rows rows, if exact then w.revision account else base.stamp⟩) a,
      Dated w a e := by
    rw [Function.update_idem]
    refine dated_update hw.cache ?_
    rintro e ⟨rfl⟩
    exact hentry _ rfl
  exact ⟨.of_same w ⟨rfl, rfl, List.suffix_rfl⟩ (dated_update hw.mem nofun) hcopies hcopies,
    ⟨rfl, rfl, List.suffix_rfl⟩, Function.update_self .., rfl, _, Function.update_self ..⟩

end

/-! ## Whole writes -/

/-- All requests of a write of one account were carried out and its rows applied. -/
structure FullyWritten (mode : WriteMode) (account : String) (navs : List NAVHistory)
    (fallback fallback' : Bool) (w w' : NavWorld) : Prop where
  /-- the rows had distinct dates -/
  dates : ((w.table.freshRows account).map NavRow.date).Nodup
  /-- the updates were sent without the details only after they were refused -/
  refused : fallback = true → .unknownField ∈ w.answers
  /-- the table received the requests -/
  table : w'.table = sentTable w.table account navs fallback fallback'
  /-- the memory is forgotten -/
  mem : w'.mem account = none
  /-- the local copy is on disk -/
  file : w'.file account = w'.cache account
  /-- the local copy -/
  cache : ∃ stamp, w'.cache account = some ⟨laidOver (w.table.freshRows account)
    (appliedRows w.table account navs mode fallback fallback'), stamp⟩

/-- A first part of the requests of a write of one account was sent. -/
def SentPart (account : String) (navs : List NAVHistory) (table table' : NavTable) : Prop :=
  ∃ fallback fallback' done made,
    done <+: (updatedNavs (table.freshRows account) navs).map (sentUpdate fallback) ∧
    made <+: (createdNavs (table.freshRows account) navs).map (sentCreate fallback') ∧
    table' = (table.updateAll done).createAll made

theorem SentPart.refl (account : String) (navs : List NAVHistory) (table : NavTable) :
    SentPart account navs table table :=
  ⟨false, false, [], [], List.nil_prefix, List.nil_prefix, by simp⟩

section
variable {w : NavWorld} {account : String} {navs : List NAVHistory} {mode : WriteMode}

/-- The rows that a write applies are rows of its account. -/
theorem identifiedRows_appliedRows {table : NavTable} {fallback fallback' : Bool}
    (howns : ∀ nav ∈ navs, nav.account = account)
    (hupdated : IdentifiedRows account (table.freshRows account))
    (hcreated : createdNavs (table.freshRows account) navs ≠ [] → strip account ≠ "") :
    IdentifiedRows account (appliedRows table account navs mode fallback fallback') := by
  intro row hrow
  rcases List.mem_append.mp hrow with hrow | hrow
  · obtain ⟨pair, hpair, rfl⟩ := List.mem_map.mp hrow
    have hown : (localRow mode fallback pair).account = account :=
      localRow_account.trans (howns _ (mem_updatedNavs.mp hpair).1)
    have hold := hupdated pair.2 (row_of_mem_updatedNavs hpair).1
    rw [hown]
    exact ⟨hold.2 ▸ hold.1, rfl⟩
  · have hmade := holdsCreated_createdCacheRows table.stamped fallback' (fun _ => true)
      table.nextId (createdNavs (table.freshRows account) navs)
    obtain ⟨new, hnew, -, haccount, -⟩ := forall₂_mem_right hmade hrow
    have hkey := List.mem_map_of_mem hnew (f := fun row : NavRow => (row.account, row.date))
    rw [keys_createdRows] at hkey
    obtain ⟨create, hcreate, hpair⟩ := List.mem_map.mp hkey
    obtain ⟨nav, hnav, rfl⟩ := List.mem_map.mp hcreate
    have hown : row.account = account := by
      rw [haccount, ← (Prod.mk.inj hpair).1, sentCreate_account]
      exact howns nav (mem_createdNavs.mp hnav).1
    rw [hown]
    exact ⟨hcreated (List.ne_nil_of_mem hnav), rfl⟩

/-- A write of records applies rows. -/
theorem appliedRows_ne_nil {table : NavTable} {fallback fallback' : Bool} (h : navs ≠ []) :
    appliedRows table account navs mode fallback fallback' ≠ [] := by
  obtain ⟨nav, hnav⟩ := List.exists_mem_of_ne_nil navs h
  intro hnil
  obtain ⟨hupdated, hcreated⟩ := List.append_eq_nil_iff.mp hnil
  cases hrow : rowOn (table.freshRows account) nav.date with
  | some row =>
    have hmem : (nav, row) ∈ updatedNavs (table.freshRows account) navs :=
      mem_updatedNavs.mpr ⟨hnav, hrow⟩
    rw [List.map_eq_nil_iff.mp hupdated] at hmem
    cases hmem
  | none =>
    have hmem : nav ∈ createdNavs (table.freshRows account) navs :=
      mem_createdNavs.mpr ⟨hnav, rowOn_eq_none.mp hrow⟩
    have hmade := holdsCreated_createdCacheRows table.stamped fallback' (fun _ => true)
      table.nextId (createdNavs (table.freshRows account) navs)
    rw [hcreated] at hmade
    have hlength := hmade.length_eq
    rw [← List.length_map (f := NavRow.date), dates_createdRows, List.length_map,
      List.length_map] at hlength
    rw [List.eq_nil_of_length_eq_zero hlength] at hmem
    cases hmem

/-- The write of an account in batches sends all of its requests and applies its rows, or raises
after it sent a first part of them. -/
theorem writeAccountBatch_ends (hw : Sound w) (hne : navs ≠ [])
    (hnavs : (navs.map NAVHistory.date).Nodup) (howns : ∀ nav ∈ navs, nav.account = account) :
    EndsIn (fun result w' => Sound w' ∧ w'.answers <:+ w.answers ∧ result.error = none ∧
        ∃ fallback fallback', FullyWritten mode account navs fallback fallback' w w')
      (fun _ w' => Sound w' ∧ SentPart account navs w.table w'.table)
      (writeAccountBatch account mode navs w) := by
  unfold writeAccountBatch
  rw [ends_bind]
  refine (existingRowsForWrite_ends account hw).imp ?_ ?_
  · rintro _ w₁ ⟨hw₁, hsame, rfl, hcache, hdates⟩
    have hidentified : IdentifiedRows account (w.table.freshRows account) :=
      (buildNavPayload_ok.mp (hw₁.cache account _ hcache).built).1
    have hlocal : OwnRows account w₁.table (updatedNavs (w.table.freshRows account) navs) := by
      rw [hsame.table]
      exact ownRows_updatedNavs
    rw [ends_bind]
    refine (updateStage_ends mode hlocal hw₁).imp ?_ ?_
    · rintro ⟨ids, updateRows⟩ w₂ ⟨hw₂, fallback, hsent, hrows, hrefused⟩
      obtain rfl : updateRows = _ := hrows
      rw [ends_bind]
      refine (createStage_ends ids _ (fun nav hnav => howns nav (mem_createdNavs.mp hnav).1)
        hw₂).imp ?_ ?_
      · rintro createRows w₃ ⟨hw₃, fallback', hmade, rfl, haccount⟩
        have htable : w₃.table = sentTable w.table account navs fallback fallback' := by
          rw [hmade.table, hsent.table, hsame.table]
          rfl
        have hid : w₂.table.nextId = w.table.nextId := by
          rw [hsent.table, hsame.table]
          rfl
        have hbase : w₃.cache account = some (w.freshEntry account) := by
          rw [hmade.cache, hsent.cache, hcache]
        have happlied := @appliedRows_ne_nil account navs mode w.table fallback fallback' hne
        -- a request was sent, so the rows of the account changed since they were read
        have hlater : (w.freshEntry account).stamp < w₃.revision account := by
          have hrevision : w₁.revision account = w.revision account := by rw [hsame.revision]
          have hcounted := hsent.counted
          have hcounted' := hmade.counted
          have hle : w.revision account ≤ w₃.revision account := by omega
          refine lt_of_le_of_ne hle fun heq => happlied ?_
          have hsame : w.revision account = w₃.revision account := heq
          have hidle := List.map_eq_nil_iff.mp (hsent.idle (by omega))
          have hidle' := List.map_eq_nil_iff.mp (hmade.idle (by omega))
          rw [appliedRows, hidle, hidle']
          rfl
        rw [hid, ends_bind]
        refine (applyNavRows_ends hw₃ hbase happlied
          (identifiedRows_appliedRows howns hidentified haccount) hlater fun hexact => ?_).imp ?_ ?_
        · rw [htable]
          refine dictToNav_of_mask (laidOver_eq_fresh hdates hnavs howns fun pair hpair => ?_)
          refine fits_of_covers ?_
          rcases of_decide_eq_true hexact with h | h
          · exact .inl h
          · exact .inr (h pair hpair)
        · rintro _ w₄ ⟨hw₄, hsame', hmem, hfile, hcopy⟩
          refine ⟨hw₄, ?_, rfl, fallback, fallback', hdates,
            fun h => hsame.answers.subset (hrefused h), hsame'.table.trans htable, hmem, hfile,
            hcopy⟩
          exact hsame'.answers.trans (hmade.answers.trans (hsent.answers.trans hsame.answers))
        · exact fun _ _ h => h.elim
      · rintro e w₃ ⟨hw₃, fallback', made, hbegins, htable⟩
        refine ⟨hw₃, fallback, fallback', _, made, List.prefix_rfl, hbegins, ?_⟩
        rw [htable, hsent.table, hsame.table]
    · rintro e w₂ ⟨hw₂, fallback, done, hbegins, htable⟩
      refine ⟨hw₂, fallback, false, done, [], hbegins, List.nil_prefix, ?_⟩
      rw [htable, hsame.table, NavTable.createAll_nil]
  · rintro e w₁ ⟨hw₁, hsame⟩
    refine ⟨hw₁, ?_⟩
    rw [hsame.table]
    exact .refl account navs w.table

end

end PortfolioManagement.Nav
