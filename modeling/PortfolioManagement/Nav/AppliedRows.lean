import PortfolioManagement.Lib.Lists
import PortfolioManagement.Nav.Table

/-!
# Rows applied by hand

After a write the local copy of an account is not read again: rows computed from the records are
laid over the rows that were read before. Here is when the result holds what a fresh read would
give, column by column: an applied row must hold in a column the field that was sent or else what
the old row held.
-/

namespace PortfolioManagement.Nav

/-! ## Fresh rows under requests -/

/-- The row as a read of the table projects it. -/
def NavRow.project (stamped : Bool) (row : NavRow) : NavRow :=
  if stamped then row else row.withoutUpdatedAt

@[simp] theorem NavRow.project_recordId (stamped : Bool) (row : NavRow) :
    (row.project stamped).recordId = row.recordId := by
  unfold project
  split <;> rfl

@[simp] theorem NavRow.project_account (stamped : Bool) (row : NavRow) :
    (row.project stamped).account = row.account := by
  unfold project
  split <;> rfl

@[simp] theorem NavRow.project_date (stamped : Bool) (row : NavRow) :
    (row.project stamped).date = row.date := by
  unfold project
  split <;> rfl

/-- A field that was sent is read back, a column that was not sent holds what it held. -/
theorem NavColumn.read_orElse (column : NavColumn) (field cell : Option Cell) :
    column.read (field <|> column.read cell) = column.read (field <|> cell) := by
  cases field with
  | some v => rfl
  | none => exact column.read_read cell

theorem NavRow.ext_cells {row row' : NavRow} (hid : row.recordId = row'.recordId)
    (haccount : row.account = row'.account) (hdate : row.date = row'.date)
    (hcells : ∀ column, row.cells column = row'.cells column) : row = row' := by
  obtain ⟨id, account, date, cells⟩ := row
  obtain ⟨id', account', date', cells'⟩ := row'
  obtain rfl : id = id' := hid
  obtain rfl : account = account' := haccount
  obtain rfl : date = date' := hdate
  exact congrArg _ (funext hcells)

/-- The field that requests send to a column of a record. -/
def sentField (updates : List Update) (recordId : Nat) (column : NavColumn) : Option Cell :=
  updates.foldl (fun field update =>
    if update.recordId = recordId then update.fields column <|> field else field) none

theorem NavRow.receive_cells (row : NavRow) (updates : List Update) (column : NavColumn) :
    (row.receive updates).cells column =
      (sentField updates row.recordId column <|> row.cells column) := by
  induction updates using List.reverseRecOn with
  | nil => rfl
  | append_singleton updates update ih =>
    rw [receive_append, sentField, List.foldl_append, ← sentField]
    show NavRow.cells (ite _ _ _) column = (ite _ _ _ <|> _)
    rw [receive_recordId]
    split
    · show (_ <|> (row.receive updates).cells column) = _
      rw [ih]
      cases update.fields column <;> rfl
    · exact ih

theorem sentField_updatedAt {updates : List Update} {recordId : Nat}
    (h : ∀ update ∈ updates, update.fields .updatedAt = none) :
    sentField updates recordId .updatedAt = none := by
  induction updates using List.reverseRecOn with
  | nil => rfl
  | append_singleton updates update ih =>
    have hrest := ih fun u hu => h u (List.mem_append_left _ hu)
    rw [sentField, List.foldl_append, ← sentField, hrest, List.foldl_cons, List.foldl_nil,
      h update (List.mem_append_right _ List.mem_cons_self)]
    split <;> rfl

/-- Reading a row that received requests is reading the row, which receives them then, when no
request has the column `updated_at`. -/
theorem NavRow.canonical_project_receive {updates : List Update}
    (hstamp : ∀ update ∈ updates, update.fields .updatedAt = none) (stamped : Bool)
    (row : NavRow) :
    ((row.receive updates).project stamped).canonical =
      ((row.project stamped).canonical.receive updates).canonical := by
  refine ext_cells (by simp) (by simp) (by simp) fun column => ?_
  rw [canonical_cells, canonical_cells, receive_cells, canonical_cells, canonical_recordId,
    project_recordId, NavColumn.read_orElse]
  cases stamped with
  | true => exact congrArg column.read (row.receive_cells updates column)
  | false =>
    show column.read (if column = .updatedAt then none else (row.receive updates).cells column) =
      column.read (_ <|> if column = .updatedAt then none else row.cells column)
    by_cases hcolumn : column = .updatedAt
    · rw [if_pos hcolumn, if_pos hcolumn, hcolumn, sentField_updatedAt hstamp]
      rfl
    · rw [if_neg hcolumn, if_neg hcolumn, receive_cells]

namespace NavTable

variable {table : NavTable} {account : String}

theorem freshRows_eq (table : NavTable) (account : String) :
    table.freshRows account = sortBy NavRow.date ((table.rows.filter (·.account = account)).map
      fun row => (row.project table.stamped).canonical) := by
  rw [freshRows, select, List.map_map]
  rfl

theorem mem_freshRows {row : NavRow} :
    row ∈ table.freshRows account ↔
      ∃ old ∈ table.rows, old.account = account ∧ (old.project table.stamped).canonical = row := by
  rw [freshRows_eq, mem_sortBy, List.mem_map]
  constructor
  · rintro ⟨old, hold, rfl⟩
    exact ⟨old, List.mem_of_mem_filter hold, by simpa using List.of_mem_filter hold, rfl⟩
  · rintro ⟨old, hold, haccount, rfl⟩
    exact ⟨old, List.mem_filter.mpr ⟨hold, by simpa using haccount⟩, rfl⟩

theorem account_of_mem_freshRows {row : NavRow} (h : row ∈ table.freshRows account) :
    row.account = account := by
  obtain ⟨old, -, hold, rfl⟩ := mem_freshRows.mp h
  simpa using hold

theorem canonical_of_mem_freshRows {row : NavRow} (h : row ∈ table.freshRows account) :
    row.canonical = row := by
  obtain ⟨old, -, -, rfl⟩ := mem_freshRows.mp h
  exact NavRow.canonical_canonical _

theorem freshRows_sorted (table : NavTable) (account : String) :
    sortBy NavRow.date ((table.freshRows account).map NavRow.canonical) =
      table.freshRows account := by
  have hmap : (table.freshRows account).map NavRow.canonical = table.freshRows account := by
    conv_rhs => rw [← List.map_id (table.freshRows account)]
    exact List.map_congr_left fun row hrow => canonical_of_mem_freshRows hrow
  rw [hmap, freshRows, sortBy_sortBy]

theorem nodup_recordId_freshRows (table : NavTable) (account : String) :
    ((table.freshRows account).map NavRow.recordId).Nodup := by
  rw [freshRows_eq]
  refine ((perm_sortBy _).map NavRow.recordId).nodup_iff.mpr ?_
  rw [List.map_map]
  have hids : NavRow.recordId ∘ (fun row => (row.project table.stamped).canonical) =
      NavRow.recordId := funext fun row => by simp
  rw [hids]
  exact List.Nodup.sublist (List.filter_sublist.map _) table.nodup

/-- Requests to rows of one account leave the rows of the others as they are. -/
theorem freshRows_updateAll_of_ne {updates : List Update} {other : String} (hother : other ≠ account)
    (hlocal : ∀ update ∈ updates, ∀ row ∈ table.rows, row.recordId = update.recordId →
      row.account = account) :
    (table.updateAll updates).freshRows other = table.freshRows other := by
  have hrows : ((table.rows.map fun row => row.receive updates).filter (·.account = other)) =
      table.rows.filter (·.account = other) := by
    rw [List.filter_map]
    have hfilter : ((fun row : NavRow => decide (row.account = other)) ∘
        fun row : NavRow => row.receive updates) = fun row => decide (row.account = other) :=
      funext fun row => by simp
    rw [hfilter]
    conv_rhs => rw [← List.map_id (table.rows.filter _)]
    refine List.map_congr_left fun row hrow => NavRow.receive_of_not_mem fun hid => ?_
    obtain ⟨update, hupdate, hsame⟩ := List.mem_map.mp hid
    have haccount := hlocal update hupdate row (List.mem_of_mem_filter hrow) hsame.symm
    have hown : row.account = other := by simpa using List.of_mem_filter hrow
    exact hother (hown.symm.trans haccount)
  rw [freshRows_eq, freshRows_eq]
  show sortBy _ (((table.rows.map fun row => row.receive updates).filter _).map _) = _
  rw [hrows]
  rfl

/-- Creations in one account leave the rows of the others as they are. -/
theorem freshRows_createAll_of_ne {creates : List Create} {other : String}
    (hother : other ≠ account) (hlocal : ∀ create ∈ creates, create.account = account) :
    (table.createAll creates).freshRows other = table.freshRows other := by
  have hnone : (createdRows table.nextId creates).filter (·.account = other) = [] := by
    refine List.filter_eq_nil_iff.mpr fun row hrow h => ?_
    have hkey := List.mem_map_of_mem hrow (f := fun row : NavRow => (row.account, row.date))
    rw [keys_createdRows] at hkey
    obtain ⟨create, hcreate, hpair⟩ := List.mem_map.mp hkey
    have hown : row.account = other := by simpa using h
    exact hother (hown.symm.trans ((Prod.mk.inj hpair).1.symm.trans (hlocal create hcreate)))
  rw [freshRows_eq, freshRows_eq]
  show sortBy _ (((table.rows ++ _).filter _).map _) = _
  rw [List.filter_append, hnone, List.append_nil]
  rfl

section
variable {updates : List Update} {creates : List Create}
  (hstamp : ∀ update ∈ updates, update.fields .updatedAt = none)
include hstamp

/-- The rows of an account after updates and creations: the rows that were there, with the fields
they received, and the created ones. -/
theorem mem_freshRows_after {row : NavRow} :
    row ∈ ((table.updateAll updates).createAll creates).freshRows account ↔
      (∃ old ∈ table.freshRows account, (old.receive updates).canonical = row) ∨
      ∃ new ∈ createdRows table.nextId creates, new.account = account ∧
        (new.project table.stamped).canonical = row := by
  rw [mem_freshRows]
  constructor
  · rintro ⟨old, hold, haccount, rfl⟩
    rcases List.mem_append.mp hold with hold | hnew
    · obtain ⟨first, hfirst, rfl⟩ := List.mem_map.mp hold
      rw [NavRow.receive_account] at haccount
      exact .inl ⟨_, mem_freshRows.mpr ⟨first, hfirst, haccount, rfl⟩,
        (NavRow.canonical_project_receive hstamp _ first).symm⟩
    · exact .inr ⟨old, hnew, haccount, rfl⟩
  · rintro (⟨old, hold, rfl⟩ | ⟨new, hnew, haccount, rfl⟩)
    · obtain ⟨first, hfirst, haccount, rfl⟩ := mem_freshRows.mp hold
      refine ⟨first.receive updates, List.mem_append_left _ (List.mem_map_of_mem hfirst), ?_,
        NavRow.canonical_project_receive hstamp _ first⟩
      rw [NavRow.receive_account]
      exact haccount
    · exact ⟨new, List.mem_append_right _ hnew, haccount, rfl⟩

end

/-- The dates of an account after updates and creations. -/
theorem dates_after (table : NavTable) (updates : List Update) (creates : List Create) :
    ((((table.updateAll updates).createAll creates).freshRows account).map NavRow.date).Perm
      ((table.freshRows account).map NavRow.date ++
        (creates.filter fun create => create.account = account).map Create.date) := by
  have hdates : ∀ (t : NavTable), ((t.freshRows account).map NavRow.date).Perm
      ((t.rows.filter (·.account = account)).map NavRow.date) := by
    intro t
    rw [freshRows_eq]
    refine ((perm_sortBy _).map NavRow.date).trans ?_
    rw [List.map_map]
    exact List.Perm.of_eq (List.map_congr_left fun row _ => by simp)
  have hcreated : ∀ n, ((createdRows n creates).filter (·.account = account)).map NavRow.date =
      (creates.filter fun create => create.account = account).map Create.date := by
    intro n
    induction creates generalizing n with
    | nil => rfl
    | cons create creates ih =>
      rw [createdRows, List.filter_cons, List.filter_cons]
      split
      · rw [List.map_cons, List.map_cons, ih]
      · exact ih _
  have hupdated : ((table.rows.map (·.receive updates)).filter (·.account = account)).map
      NavRow.date = (table.rows.filter (·.account = account)).map NavRow.date := by
    rw [List.filter_map, List.map_map]
    have hfilter : ((fun row : NavRow => decide (row.account = account)) ∘
        fun row : NavRow => row.receive updates) = fun row => decide (row.account = account) :=
      funext fun row => by simp
    rw [hfilter]
    exact List.map_congr_left fun row _ => row.receive_date updates
  refine (hdates _).trans ?_
  show ((((table.rows.map fun row => row.receive updates) ++ _).filter _).map _).Perm _
  rw [List.filter_append, List.map_append, hupdated, hcreated]
  exact (hdates table).symm.append_right _

end NavTable

/-! ## Rows laid over others -/

/-- The columns of a row that are looked at. -/
def NavRow.mask (look : NavColumn → Bool) (row : NavRow) : NavRow :=
  { row with cells := fun column => if look column then row.cells column else none }

theorem NavRow.mask_eq {look : NavColumn → Bool} {row row' : NavRow}
    (hid : row.recordId = row'.recordId) (haccount : row.account = row'.account)
    (hdate : row.date = row'.date)
    (hcells : ∀ column, look column → row.cells column = row'.cells column) :
    row.mask look = row'.mask look := by
  refine ext_cells hid haccount hdate fun column => ?_
  show (if look column then _ else none) = if look column then _ else none
  split
  · next h => exact hcells column h
  · rfl

theorem NavRow.receive_of_mem {updates : List Update} {update : Update} {row : NavRow}
    (hnodup : (updates.map Update.recordId).Nodup) (hmem : update ∈ updates)
    (hid : update.recordId = row.recordId) : row.receive updates = row.write update.fields := by
  induction updates generalizing row with
  | nil => cases hmem
  | cons first updates ih =>
    rw [List.map_cons, List.nodup_cons] at hnodup
    show NavRow.receive (ite _ _ _) updates = _
    rcases List.mem_cons.mp hmem with rfl | hmem
    · rw [if_pos hid]
      refine NavRow.receive_of_not_mem ?_
      rw [write_recordId, ← hid]
      exact hnodup.1
    · have hne : first.recordId ≠ row.recordId := fun h =>
        hnodup.1 (h ▸ hid ▸ List.mem_map_of_mem hmem)
      rw [if_neg hne]
      exact ih hnodup.2 hmem hid

section
variable {table : NavTable} {account : String} {look : NavColumn → Bool}

/-- A local row that holds, in the columns that are looked at, what the record of a request holds
after it. -/
def HoldsUpdate (table : NavTable) (account : String) (look : NavColumn → Bool)
    (item : Update × NavRow) : Prop :=
  ∃ old ∈ table.freshRows account, item.1.recordId = old.recordId ∧
    item.2.recordId = old.recordId ∧ item.2.account = account ∧ item.2.date = old.date ∧
    ∀ column, look column →
      column.read (item.2.cells column) = column.read (item.1.fields column <|> old.cells column)

/-- A local row that holds, in the columns that are looked at, what a created record holds. -/
def HoldsCreated (stamped : Bool) (look : NavColumn → Bool) (new row : NavRow) : Prop :=
  row.recordId = new.recordId ∧ row.account = new.account ∧ row.date = new.date ∧
    ∀ column, look column → column.read (row.cells column) =
      column.read ((new.project stamped).cells column)

/-- A row that an applied row replaces is, after the requests and in the columns that are looked at,
the applied row. -/
theorem HoldsUpdate.mask_eq {applied : List (Update × NavRow)} {item : Update × NavRow}
    {old : NavRow} (hids : (applied.map fun item => item.1.recordId).Nodup)
    (happlied : ∀ item ∈ applied, HoldsUpdate table account look item) (hitem : item ∈ applied)
    (hold : old ∈ table.freshRows account) (hid : item.1.recordId = old.recordId) :
    (old.receive (applied.map Prod.fst)).canonical.mask look = item.2.canonical.mask look := by
  obtain ⟨old', hold', hfst, hsnd, haccount, hdate, hcells⟩ := happlied item hitem
  have hsame : old' = old :=
    eq_of_key_eq (table.nodup_recordId_freshRows account) hold' hold (hfst.symm.trans hid)
  subst hsame
  have hids' : ((applied.map Prod.fst).map Update.recordId).Nodup := by
    rw [List.map_map]
    exact hids
  rw [NavRow.receive_of_mem hids' (List.mem_map_of_mem hitem) hid]
  refine NavRow.mask_eq hsnd.symm ?_ hdate.symm fun column hlook => ?_
  · exact (NavTable.account_of_mem_freshRows hold).trans haccount.symm
  · rw [NavRow.canonical_cells, NavRow.canonical_cells]
    exact (hcells column hlook).symm

theorem HoldsCreated.mask_eq {stamped : Bool} {new row : NavRow}
    (h : HoldsCreated stamped look new row) :
    (new.project stamped).canonical.mask look = row.canonical.mask look := by
  obtain ⟨hid, haccount, hdate, hcells⟩ := h
  refine NavRow.mask_eq (by simpa using hid.symm) (by simpa using haccount.symm)
    (by simpa using hdate.symm) fun column hlook => ?_
  rw [NavRow.canonical_cells, NavRow.canonical_cells]
  exact (hcells column hlook).symm

/-- The rows that were read, with the applied rows laid over them, hold what a fresh read gives
after the requests, in the columns in which every applied row holds it. -/
theorem laid_rows_eq_fresh {applied : List (Update × NavRow)} {made : List Create}
    {madeRows : List NavRow} (hdates : ((table.freshRows account).map NavRow.date).Nodup)
    (hids : (applied.map fun item => item.1.recordId).Nodup)
    (hstamp : ∀ item ∈ applied, item.1.fields .updatedAt = none)
    (happlied : ∀ item ∈ applied, HoldsUpdate table account look item)
    (hmade : ∀ create ∈ made, create.account = account)
    (hnew : ∀ create ∈ made, create.date ∉ (table.freshRows account).map NavRow.date)
    (hmadeRows : List.Forall₂ (HoldsCreated table.stamped look) (createdRows table.nextId made)
      madeRows)
    (hrows : ((applied.map Prod.snd ++ madeRows).map NavRow.date).Nodup) :
    (sortBy NavRow.date ((sortBy NavRow.date (valuesBy NavRow.date
        (table.freshRows account ++ (applied.map Prod.snd ++ madeRows)))).map
          NavRow.canonical)).map (NavRow.mask look) =
      (((table.updateAll (applied.map Prod.fst)).createAll made).freshRows account).map
        (NavRow.mask look) := by
  have hstamp' : ∀ update ∈ applied.map Prod.fst, update.fields .updatedAt = none := by
    intro update hupdate
    obtain ⟨item, hitem, rfl⟩ := List.mem_map.mp hupdate
    exact hstamp item hitem
  have hmask : ∀ row : NavRow, NavRow.date (row.mask look) = NavRow.date row := fun _ => rfl
  have hmadeDates : (createdRows table.nextId made).map NavRow.date = madeRows.map NavRow.date :=
    map_eq_of_forall₂ hmadeRows fun _ _ h => h.2.2.1.symm
  -- a created row has the date and the account of its request
  have hnewKeys : ∀ new ∈ createdRows table.nextId made,
      new.account = account ∧ new.date ∉ (table.freshRows account).map NavRow.date := by
    intro new hmem
    have hkey := List.mem_map_of_mem hmem (f := fun row : NavRow => (row.account, row.date))
    rw [keys_createdRows] at hkey
    obtain ⟨create, hcreate, hpair⟩ := List.mem_map.mp hkey
    obtain ⟨haccount, hdate⟩ := Prod.mk.inj hpair
    exact ⟨haccount ▸ hmade create hcreate, hdate ▸ hnew create hcreate⟩
  have hfresh : ∀ t : NavTable, (t.freshRows account).map (NavRow.mask look) =
      sortBy NavRow.date ((t.freshRows account).map (NavRow.mask look)) := by
    intro t
    rw [← map_sortBy hmask, NavTable.freshRows, sortBy_sortBy]
  rw [hfresh, map_sortBy hmask, List.map_map]
  have hcanon : ∀ row : NavRow,
      NavRow.date ((NavRow.mask look ∘ NavRow.canonical) row) = NavRow.date row := fun _ => rfl
  rw [map_sortBy hcanon, sortBy_sortBy]
  refine sortBy_congr ?_ ?_ fun x => ?_
  · rw [List.map_map]
    exact nodup_valuesBy _
  · rw [List.map_map]
    refine (NavTable.dates_after table _ made).nodup_iff.mpr ?_
    rw [List.filter_eq_self.mpr fun create hcreate => by simpa using hmade create hcreate]
    refine List.nodup_append'.mpr ⟨hdates, ?_, ?_⟩
    · rw [← dates_createdRows table.nextId, hmadeDates]
      rw [List.map_append] at hrows
      exact (List.nodup_append'.mp hrows).2.1
    · intro date hold hcreated
      obtain ⟨create, hcreate, rfl⟩ := List.mem_map.mp hcreated
      exact hnew create hcreate hold
  · constructor
    · intro hx
      obtain ⟨row, hrow, rfl⟩ := List.mem_map.mp hx
      refine List.mem_map.mpr ?_
      rcases (mem_valuesBy_append hdates hrows).mp hrow with hrow | ⟨hrow, hother⟩
      · rcases List.mem_append.mp hrow with hrow | hrow
        · obtain ⟨item, hitem, rfl⟩ := List.mem_map.mp hrow
          obtain ⟨old, hold, hfst, -⟩ := happlied item hitem
          exact ⟨_, (NavTable.mem_freshRows_after hstamp').mpr (.inl ⟨old, hold, rfl⟩),
            HoldsUpdate.mask_eq hids happlied hitem hold hfst⟩
        · obtain ⟨new, hmem, hholds⟩ := forall₂_mem_right hmadeRows hrow
          exact ⟨_, (NavTable.mem_freshRows_after hstamp').mpr
            (.inr ⟨new, hmem, (hnewKeys new hmem).1, rfl⟩), hholds.mask_eq⟩
      · -- no request addresses the row: its date is not among those of the applied rows
        have hid : row.recordId ∉ (applied.map Prod.fst).map Update.recordId := by
          rw [List.map_map]
          intro hmem
          obtain ⟨item, hitem, hsame⟩ := List.mem_map.mp hmem
          obtain ⟨old, hold, hfst, -, -, hdate, -⟩ := happlied item hitem
          have heq : old = row := eq_of_key_eq (table.nodup_recordId_freshRows account) hold hrow
            (hfst.symm.trans hsame)
          refine hother (List.mem_map.mpr ⟨item.2, ?_, hdate.trans (congrArg NavRow.date heq)⟩)
          exact List.mem_append_left _ (List.mem_map_of_mem hitem)
        refine ⟨_, (NavTable.mem_freshRows_after hstamp').mpr (.inl ⟨row, hrow, rfl⟩), ?_⟩
        rw [NavRow.receive_of_not_mem hid]
        rfl
    · intro hx
      obtain ⟨row, hrow, rfl⟩ := List.mem_map.mp hx
      refine List.mem_map.mpr ?_
      rcases (NavTable.mem_freshRows_after hstamp').mp hrow with ⟨old, hold, rfl⟩ | ⟨new, hmem, -, rfl⟩
      · by_cases hitem : ∃ item ∈ applied, item.1.recordId = old.recordId
        · obtain ⟨item, hitem, hid⟩ := hitem
          refine ⟨item.2, (mem_valuesBy_append hdates hrows).mpr (.inl ?_),
            (HoldsUpdate.mask_eq hids happlied hitem hold hid).symm⟩
          exact List.mem_append_left _ (List.mem_map_of_mem hitem)
        · have hid : old.recordId ∉ (applied.map Prod.fst).map Update.recordId := by
            rw [List.map_map]
            intro hmem
            obtain ⟨item, hmem, hid⟩ := List.mem_map.mp hmem
            exact hitem ⟨item, hmem, hid⟩
          have hother : old.date ∉ (applied.map Prod.snd ++ madeRows).map NavRow.date := by
            rw [List.map_append, List.mem_append, not_or, ← hmadeDates]
            constructor
            · intro hmem
              obtain ⟨row, hrow, hdate⟩ := List.mem_map.mp hmem
              obtain ⟨item, hmem, rfl⟩ := List.mem_map.mp hrow
              obtain ⟨old', hold', hfst, -, -, hdate', -⟩ := happlied item hmem
              have heq : old' = old := eq_of_key_eq hdates hold' hold (hdate'.symm.trans hdate)
              exact hitem ⟨item, hmem, hfst.trans (congrArg NavRow.recordId heq)⟩
            · intro hmem
              obtain ⟨new, hmem, hdate⟩ := List.mem_map.mp hmem
              exact (hnewKeys new hmem).2 (hdate ▸ List.mem_map_of_mem hold)
          rw [NavRow.receive_of_not_mem hid]
          exact ⟨old, (mem_valuesBy_append hdates hrows).mpr (.inr ⟨hold, hother⟩), rfl⟩
      · obtain ⟨row, hrow, hholds⟩ := forall₂_mem_left hmadeRows hmem
        exact ⟨row, (mem_valuesBy_append hdates hrows).mpr (.inl (List.mem_append_right _ hrow)),
          hholds.mask_eq.symm⟩

end

end PortfolioManagement.Nav
