import PortfolioManagement.Nav.OwnWrites
import PortfolioManagement.Nav.RepairedHistory

/-!
# The repair of a table

`repair_nav_history_metrics` patches the records of its updates one after another. A patch sends the
fields that have a value; the request is a list of cells under the record's id, so the table after a
run is the table that received some of the requests, and all of them when the run returns. The
records read back are the repaired records of the history.
-/

namespace PortfolioManagement.Nav

open Ledger (LedgerSource)
open Prog (EndsIn ends_of_snd ends_require ends_bind ends_pure ends_raise ends_reads ends_alter ends_fold)

/-! ## The requests -/

/-- The columns a repair may write. -/
def repairedColumns : List NavColumn := [.pnl, .mtdNavChange, .mtdPnl, .ytdNavChange, .ytdPnl]

/-- The fields as the patch receives them. -/
def RepairFields.items (fields : RepairFields) : Items NavColumn (Option Cell) :=
  (fields.pnl.map fun pnl => (NavColumn.pnl, pnl.map Cell.number)).toList ++
    [(.mtdNavChange, fields.mtdNavChange.map .number), (.mtdPnl, fields.mtdPnl.map .number),
      (.ytdNavChange, fields.ytdNavChange.map .number), (.ytdPnl, fields.ytdPnl.map .number)]

/-- The cells of the request. -/
def RepairFields.cells (fields : RepairFields) : Cells := fun column => (fields.items.lookup column).join

/-- The record a text names. -/
def rowId (recordId : Option String) : Nat := Nat.ofDigitChars 10 (recordId.getD "").toList 0

/-- The request of an update. -/
def RepairUpdate.request (update : RepairUpdate) : Update :=
  ⟨rowId update.recordId, update.fields.cells⟩

/-- `repair_nav_history_metrics` after the audit, and the updates it lists. -/
def repairNavHistory (items : List AccuracyItem) (dryRun : Bool) : NavProg (List RepairUpdate) := do
  let updates := repairUpdates items
  if dryRun then pure updates
  else
    Prog.fold updates () fun _ update =>
      patchNavDerivedFields (rowId update.recordId) update.fields.items false
    pure updates

theorem rowId_toString (n : Nat) : rowId (some (toString n)) = n := by
  rw [rowId, Option.getD_some, Nat.toString_eq_ofList_toDigits, String.toList_ofList,
    Nat.ofDigitChars_ten_toDigits]

namespace RepairFields

variable (fields : RepairFields)

theorem cells_pnl : fields.cells .pnl = fields.pnl.join.map .number := by
  obtain ⟨_ | _ | _, _, _, _, _⟩ := fields <;> rfl

theorem cells_mtdNavChange : fields.cells .mtdNavChange = fields.mtdNavChange.map .number := by
  obtain ⟨_ | _, _, _, _, _⟩ := fields <;> rfl

theorem cells_mtdPnl : fields.cells .mtdPnl = fields.mtdPnl.map .number := by
  obtain ⟨_ | _, _, _, _, _⟩ := fields <;> rfl

theorem cells_ytdNavChange : fields.cells .ytdNavChange = fields.ytdNavChange.map .number := by
  obtain ⟨_ | _, _, _, _, _⟩ := fields <;> rfl

theorem cells_ytdPnl : fields.cells .ytdPnl = fields.ytdPnl.map .number := by
  obtain ⟨_ | _, _, _, _, _⟩ := fields <;> rfl

/-- Other columns are not written. -/
theorem cells_of_not_mem {column : NavColumn} (h : column ∉ repairedColumns) :
    fields.cells column = none := by
  obtain ⟨_ | _, _, _, _, _⟩ := fields <;> cases column <;> first | rfl | exact absurd (by decide) h

end RepairFields

/-- A cell after a value was sent, read as a number. -/
theorem number?_orElse (value : Option Int) (cell : Option Cell) :
    ((value.map Cell.number <|> cell).bind Cell.number?) = value.or (cell.bind Cell.number?) := by
  cases value <;> rfl

/-- The record of a row that received the request is the repaired record. -/
theorem dictToNav_write (fields : RepairFields) (row : NavRow) :
    dictToNav (row.write fields.cells) = fields.patch (dictToNav row) := by
  have hother : ∀ column ∉ repairedColumns,
      (row.write fields.cells).cells column = row.cells column := by
    intro column hcolumn
    show (fields.cells column <|> row.cells column) = row.cells column
    rw [fields.cells_of_not_mem hcolumn]
    rfl
  have hpnl : (row.write fields.cells).cells .pnl =
      (fields.pnl.join.map .number <|> row.cells .pnl) := by rw [← fields.cells_pnl]; rfl
  have hmtdNavChange : (row.write fields.cells).cells .mtdNavChange =
      (fields.mtdNavChange.map .number <|> row.cells .mtdNavChange) := by
    rw [← fields.cells_mtdNavChange]; rfl
  have hmtdPnl : (row.write fields.cells).cells .mtdPnl =
      (fields.mtdPnl.map .number <|> row.cells .mtdPnl) := by rw [← fields.cells_mtdPnl]; rfl
  have hytdNavChange : (row.write fields.cells).cells .ytdNavChange =
      (fields.ytdNavChange.map .number <|> row.cells .ytdNavChange) := by
    rw [← fields.cells_ytdNavChange]; rfl
  have hytdPnl : (row.write fields.cells).cells .ytdPnl =
      (fields.ytdPnl.map .number <|> row.cells .ytdPnl) := by rw [← fields.cells_ytdPnl]; rfl
  simp only [dictToNav, RepairFields.patch, hpnl, hmtdNavChange, hmtdPnl, hytdNavChange, hytdPnl,
    number?_orElse, NavRow.write_recordId, NavRow.write_account, NavRow.write_date]
  simp (disch := decide) only [hother]

/-- A row that already holds what is sent is not changed. -/
theorem write_eq_self {fields : RepairFields} {row : NavRow}
    (h : fields.patch (dictToNav row) = dictToNav row) : row.write fields.cells = row := by
  have hcell : ∀ {value : Option Int} {cell : Option Cell},
      value.or (cell.bind Cell.number?) = cell.bind Cell.number? →
        (value.map Cell.number <|> cell) = cell := by
    rintro (_ | v) (_ | ⟨_ | _ | _⟩) hsame
    · rfl
    · rfl
    · rfl
    · rfl
    · cases hsame
    · cases hsame
      rfl
    · cases hsame
    · cases hsame
  refine congrArg (NavRow.mk row.recordId row.account row.date) (funext fun column => ?_)
  by_cases hcolumn : column ∈ repairedColumns
  · simp only [repairedColumns, List.mem_cons, List.not_mem_nil, or_false] at hcolumn
    rcases hcolumn with rfl | rfl | rfl | rfl | rfl
    · rw [fields.cells_pnl]
      exact hcell (congrArg NAVHistory.pnl h)
    · rw [fields.cells_mtdNavChange]
      exact hcell (congrArg NAVHistory.mtdNavChange h)
    · rw [fields.cells_mtdPnl]
      exact hcell (congrArg NAVHistory.mtdPnl h)
    · rw [fields.cells_ytdNavChange]
      exact hcell (congrArg NAVHistory.ytdNavChange h)
    · rw [fields.cells_ytdPnl]
      exact hcell (congrArg NAVHistory.ytdPnl h)
  · rw [fields.cells_of_not_mem hcolumn]
    rfl

/-! ## The history of a table -/

/-- The records `get_nav_history` gives for fresh rows. -/
def NavTable.history (table : NavTable) (account : String) (startDate : CivilDate) : List NAVHistory :=
  sortBy NAVHistory.date (((table.freshRows account).map dictToNav).filter fun nav => startDate ≤ nav.date)

section
variable {table : NavTable} {account : String} {startDate : CivilDate}

theorem NavTable.history_eq (table : NavTable) (account : String) (startDate : CivilDate) :
    table.history account startDate = sortNavs
      ((sortNavs ((table.rows.filter (·.account = account)).map dictToNav)).filter
        fun nav => startDate ≤ nav.date) := by
  have hread : ∀ row : NavRow, dictToNav ((row.project table.stamped).canonical) = dictToNav row := by
    intro row
    rw [NavRow.dictToNav_canonical, NavRow.project]
    split
    · rfl
    · rfl
  have hsorted : (table.freshRows account).map dictToNav =
      sortNavs ((table.rows.filter (·.account = account)).map dictToNav) := by
    rw [NavTable.freshRows_eq]
    refine (List.map_insertionSort _ (fun a b : NAVHistory => a.date ≤ b.date) dictToNav _
      fun a _ b _ => Iff.rfl).trans ?_
    rw [List.map_map]
    exact congrArg sortNavs (List.map_congr_left fun row _ => hread row)
  rw [NavTable.history, hsorted]
  rfl

/-- The records of the history are read from the rows of the account. -/
theorem NavTable.mem_history {n : NAVHistory} (h : n ∈ table.history account startDate) :
    ∃ row ∈ table.rows, row.account = account ∧ dictToNav row = n := by
  rw [NavTable.history_eq] at h
  have hmem := List.mem_of_mem_filter (mem_sortNavs.mp h)
  obtain ⟨row, hrow, rfl⟩ := List.mem_map.mp (mem_sortNavs.mp hmem)
  obtain ⟨hrow, haccount⟩ := List.mem_filter.mp hrow
  exact ⟨row, hrow, of_decide_eq_true haccount, rfl⟩

theorem NavTable.nodup_history {κ κ' : Type} {key : NAVHistory → κ} {rowKey : NavRow → κ'}
    (hkey : ∀ a b : NavRow, a.account = account → b.account = account →
      key (dictToNav a) = key (dictToNav b) → rowKey a = rowKey b)
    (hrows : (table.rows.map rowKey).Nodup) :
    ((table.history account startDate).map key).Nodup := by
  have hperm : ∀ navs : List NAVHistory, (sortNavs navs).Perm navs :=
    fun navs => List.perm_insertionSort _ navs
  have hread : (((table.rows.filter (·.account = account)).map dictToNav).map key).Nodup := by
    rw [List.map_map]
    refine List.Nodup.map_on ?_ ((List.Nodup.of_map _ hrows).filter _)
    intro a ha b hb hsame
    obtain ⟨ha, haccount⟩ := List.mem_filter.mp ha
    obtain ⟨hb, hbaccount⟩ := List.mem_filter.mp hb
    exact eq_of_key_eq hrows ha hb
      (hkey a b (of_decide_eq_true haccount) (of_decide_eq_true hbaccount) hsame)
  rw [NavTable.history_eq]
  refine ((hperm _).map key).nodup_iff.mpr ?_
  exact ((((hperm _).map key).nodup_iff).mpr hread).sublist (List.filter_sublist.map key)

theorem NavTable.nodup_recordId_history :
    ((table.history account startDate).map (·.recordId)).Nodup := by
  refine NavTable.nodup_history (fun a b _ _ hsame => ?_) table.nodup
  have h := congrArg rowId (show some (toString a.recordId) = some (toString b.recordId) from hsame)
  rwa [rowId_toString, rowId_toString] at h

theorem NavTable.nodup_date_history (hkeyed : table.Keyed) :
    ((table.history account startDate).map (·.date)).Nodup :=
  NavTable.nodup_history (fun _ _ ha hb hsame => Prod.ext (ha.trans hb.symm) hsame) hkeyed

/-- The record of a row that received the request of an update is the patched record. -/
theorem dictToNav_receive {update : RepairUpdate} {id : Nat} (hid : update.recordId = some (toString id))
    (row : NavRow) : dictToNav (row.receive [update.request]) = update.patch (dictToNav row) := by
  have hrequest : update.request.recordId = id := by
    rw [RepairUpdate.request, hid, rowId_toString]
  show dictToNav (if update.request.recordId = row.recordId then _ else _) =
    if some (toString row.recordId) = update.recordId then _ else _
  rw [hrequest, hid]
  by_cases hsame : id = row.recordId
  · rw [if_pos hsame, if_pos (by rw [hsame])]
    exact dictToNav_write update.fields row
  · rw [if_neg hsame, if_neg fun heq => hsame ?_]
    have h := congrArg rowId heq
    rw [rowId_toString, rowId_toString] at h
    exact h.symm

/-- The updates name records. -/
def Named (updates : List RepairUpdate) : Prop :=
  ∀ update ∈ updates, ∃ id : Nat, update.recordId = some (toString id)

/-- The history after requests is the repaired history. -/
theorem NavTable.history_updateAll {updates : List RepairUpdate} (hnamed : Named updates)
    (table : NavTable) : (table.updateAll (updates.map RepairUpdate.request)).history account startDate =
      (table.history account startDate).map (repairedRow updates) := by
  induction updates generalizing table with
  | nil =>
    rw [List.map_nil, NavTable.updateAll_nil]
    exact (List.map_id _).symm
  | cons update rest ih =>
    obtain ⟨id, hid⟩ := hnamed update List.mem_cons_self
    have hfirst : (table.updateAll [update.request]).history account startDate =
        (table.history account startDate).map update.patch := by
      have hf := update.keepsBasis_patch
      have hrows : ((table.rows.map (·.receive [update.request])).filter (·.account = account)).map
          dictToNav = ((table.rows.filter (·.account = account)).map dictToNav).map update.patch := by
        rw [List.filter_map, List.map_map, List.map_map]
        have hfilter : ((fun row : NavRow => decide (row.account = account)) ∘
            fun row : NavRow => row.receive [update.request]) = fun row => decide (row.account = account) :=
          funext fun row => by simp
        rw [hfilter]
        exact List.map_congr_left fun row _ => dictToNav_receive hid row
      rw [NavTable.history_eq, NavTable.history_eq]
      show sortNavs ((sortNavs (((table.rows.map _).filter _).map dictToNav)).filter _) = _
      rw [hrows, hf.sortNavs, KeepsBasis.filter_map _ fun n => by rw [hf.date], hf.sortNavs]
    have happend : table.updateAll ((update :: rest).map RepairUpdate.request) =
        (table.updateAll [update.request]).updateAll (rest.map RepairUpdate.request) :=
      NavTable.updateAll_append [update.request] _ table
    rw [happend, ih (fun u hu => hnamed u (List.mem_cons_of_mem _ hu)), hfirst, List.map_map]
    rfl

end

/-! ## The run -/

/-- One patch sends its request, or fails before or after the row was changed. -/
theorem patchNavFields_ends (recordId : Nat) (fields : Items NavColumn (Option Cell))
    (allowed : List NavColumn) (w : NavWorld) :
    EndsIn (fun _ w' => w'.table =
        w.table.updateAll [⟨recordId, fun column => (fields.lookup column).join⟩])
      (fun _ w' => ∃ done, done <+: [⟨recordId, fun column => (fields.lookup column).join⟩] ∧
        w'.table = w.table.updateAll done)
      (patchNavFields recordId fields false allowed w) := by
  have hnone : ∃ done, done <+: [(⟨recordId, fun column => (fields.lookup column).join⟩ : Update)] ∧
      w.table = w.table.updateAll done := ⟨[], List.nil_prefix, w.table.updateAll_nil.symm⟩
  unfold patchNavFields
  rw [ends_bind, ends_require]
  refine ⟨fun _ => ?_, fun _ => hnone⟩
  show EndsIn _ _ ((if _ then _ else _ : NavProg Unit) w)
  rw [if_neg Bool.false_ne_true, ends_bind, ends_require]
  refine ⟨fun _ => ?_, fun _ => hnone⟩
  show EndsIn _ _ ((Prog.reads NavWorld.table >>= fun table => _) w)
  rw [ends_bind, ends_reads]
  cases hrecord : w.table.record recordId with
  | none =>
    show EndsIn _ _ ((nextAnswer >>= fun _ => (Prog.raise (.client false []) : NavProg Unit)) w)
    rw [ends_bind]
    refine (nextAnswer_ends w).imp ?_ fun _ _ h => h.elim
    rintro answer _ ⟨-, answers, -, rfl⟩
    exact hnone
  | some row =>
    show EndsIn _ _ ((updateRecord row.account recordId _ >>= fun _ => clearMemory) w)
    rw [ends_bind]
    refine (updateRecord_ends row.account recordId _ w).imp ?_ ?_
    · intro _ w' hsent
      exact hsent.table
    · rintro e w' ⟨done, hdone, hsent, -⟩
      exact ⟨done, hdone, hsent.table⟩

/-- A run that returns has sent the requests of its updates; one that fails has sent the first ones. -/
theorem repairNavHistory_ends (items : List AccuracyItem) (w : NavWorld) :
    EndsIn (fun updates w' => updates = repairUpdates items ∧
        w'.table = w.table.updateAll ((repairUpdates items).map RepairUpdate.request))
      (fun _ w' => ∃ done, done <+: (repairUpdates items).map RepairUpdate.request ∧
        w'.table = w.table.updateAll done)
      (repairNavHistory items false w) := by
  unfold repairNavHistory
  rw [if_neg Bool.false_ne_true, ends_bind]
  refine (ends_fold (I := fun rest _ t => ∃ done, done ++ rest = repairUpdates items ∧
    t.table = w.table.updateAll (done.map RepairUpdate.request)) ?_
      ⟨[], rfl, w.table.updateAll_nil.symm⟩).imp ?_ fun _ _ h => h
  · rintro update rest _ t - ⟨done, hsplit, htable⟩
    have hsplit' : (done ++ [update]) ++ rest = repairUpdates items := by
      rw [List.append_assoc]
      exact hsplit
    refine (patchNavFields_ends (rowId update.recordId) update.fields.items derivedPatchFields t).imp
      ?_ ?_
    · intro _ t' hpatch
      refine ⟨done ++ [update], hsplit', ?_⟩
      rw [List.map_append, NavTable.updateAll_append, ← htable]
      exact hpatch
    · rintro e t' ⟨sent, hsent, hpatch⟩
      refine ⟨done.map RepairUpdate.request ++ sent, ?_, ?_⟩
      · have hsent' : sent <+: (update :: rest).map RepairUpdate.request :=
          hsent.trans (List.prefix_append [update.request] (rest.map RepairUpdate.request))
        rw [← hsplit, List.map_append]
        exact (List.prefix_append_right_inj _).mpr hsent'
      · rw [NavTable.updateAll_append, ← htable]
        exact hpatch
  · rintro _ t ⟨done, hsplit, htable⟩
    rw [List.append_nil] at hsplit
    subst hsplit
    exact ⟨rfl, htable⟩

end PortfolioManagement.Nav
