import PortfolioManagement.Lib.Keyed
import PortfolioManagement.Nav.Record

/-!
# The remote NAV table

A row of `nav_history` has a record id, an account, a date and the cells of its other columns. The
repository writes the fields of a record that are not `None` (no column of the table may be
cleared) and reads a row back through `_dict_to_nav`. What a fresh read of an account gives is
`freshRows`.
-/

namespace PortfolioManagement.Nav

/-! ## Cells -/

/-- The columns of `nav_history` other than the date and the account. -/
inductive NavColumn
  | totalValue
  | shares
  | nav
  | cashValue
  | stockValue
  | fundValue
  | cnStockValue
  | usStockValue
  | hkStockValue
  | stockWeight
  | cashWeight
  | cashFlow
  | shareChange
  | mtdNavChange
  | ytdNavChange
  | pnl
  | mtdPnl
  | ytdPnl
  | details
  | updatedAt
deriving DecidableEq

/-- All columns. -/
def NavColumn.all : List NavColumn :=
  [.totalValue, .shares, .nav, .cashValue, .stockValue, .fundValue, .cnStockValue, .usStockValue,
    .hkStockValue, .stockWeight, .cashWeight, .cashFlow, .shareChange, .mtdNavChange, .ytdNavChange,
    .pnl, .mtdPnl, .ytdPnl, .details, .updatedAt]

theorem NavColumn.mem_all (column : NavColumn) : column ∈ all := by
  cases column <;> decide

/-- What a cell holds once `_from_feishu_fields` has read it. -/
inductive Cell
  | number (n : Int)
  | details (d : NavDetails)
  | text (s : String)
deriving DecidableEq

namespace Cell

/-- The number of a cell. -/
def number? : Cell → Option Int
  | number n => some n
  | _ => none

/-- The details of a cell. -/
def details? : Cell → Option NavDetails
  | details d => some d
  | _ => none

/-- The text of a cell. -/
def text? : Cell → Option String
  | text s => some s
  | _ => none

end Cell

/-- The cells of a row or of a request; a column without a value is `none`. -/
abbrev Cells := NavColumn → Option Cell

/-- What a column reads from its cell; a row without a total has the total 0. -/
def NavColumn.read : NavColumn → Option Cell → Option Cell
  | .totalValue, cell => some (.number ((cell.bind Cell.number?).getD 0))
  | .details, cell => (cell.bind Cell.details?).map .details
  | .updatedAt, cell => (cell.bind Cell.text?).map .text
  | _, cell => (cell.bind Cell.number?).map .number

theorem NavColumn.read_read (column : NavColumn) (cell : Option Cell) :
    column.read (column.read cell) = column.read cell := by
  cases column <;> rcases cell with _ | ⟨_ | _ | _⟩ <;> rfl

/-- `_nav_to_dict`. -/
def navToDict (nav : NAVHistory) : Cells
  | .totalValue => some (.number nav.totalValue)
  | .shares => nav.shares.map .number
  | .nav => nav.nav.map .number
  | .cashValue => nav.cashValue.map .number
  | .stockValue => nav.stockValue.map .number
  | .fundValue => nav.fundValue.map .number
  | .cnStockValue => nav.cnStockValue.map .number
  | .usStockValue => nav.usStockValue.map .number
  | .hkStockValue => nav.hkStockValue.map .number
  | .stockWeight => nav.stockWeight.map .number
  | .cashWeight => nav.cashWeight.map .number
  | .cashFlow => nav.cashFlow.map .number
  | .shareChange => nav.shareChange.map .number
  | .mtdNavChange => nav.mtdNavChange.map .number
  | .ytdNavChange => nav.ytdNavChange.map .number
  | .pnl => nav.pnl.map .number
  | .mtdPnl => nav.mtdPnl.map .number
  | .ytdPnl => nav.ytdPnl.map .number
  | .details => nav.details.map .details
  | .updatedAt => none

@[simp] theorem navToDict_updatedAt (nav : NAVHistory) : navToDict nav .updatedAt = none := rfl

/-- The fields of a record are read as they are written. -/
theorem read_navToDict (nav : NAVHistory) (column : NavColumn) :
    column.read (navToDict nav column) = navToDict nav column := by
  have hnumber : ∀ x : Option Int, ((x.map Cell.number).bind Cell.number?).map Cell.number =
      x.map Cell.number := by
    rintro (_ | _) <;> rfl
  have hdetails : ((nav.details.map Cell.details).bind Cell.details?).map Cell.details =
      nav.details.map Cell.details := by
    cases nav.details <;> rfl
  cases column
  case totalValue => rfl
  case details => exact hdetails
  case updatedAt => rfl
  all_goals exact hnumber _

/-! ## Rows -/

/-- A row of the table or of a local copy. -/
structure NavRow where
  /-- `record_id` -/
  recordId : Nat
  /-- `account` -/
  account : String
  /-- `date` -/
  date : CivilDate
  /-- the other columns -/
  cells : Cells

/-- `_dict_to_nav`. -/
def dictToNav (row : NavRow) : NAVHistory :=
  let number (column : NavColumn) : Option Int := (row.cells column).bind Cell.number?
  { recordId := some (toString row.recordId)
    date := row.date
    account := row.account
    totalValue := (number .totalValue).getD 0
    cashValue := number .cashValue
    stockValue := number .stockValue
    fundValue := number .fundValue
    cnStockValue := number .cnStockValue
    usStockValue := number .usStockValue
    hkStockValue := number .hkStockValue
    stockWeight := number .stockWeight
    cashWeight := number .cashWeight
    shares := number .shares
    nav := number .nav
    cashFlow := number .cashFlow
    shareChange := number .shareChange
    mtdNavChange := number .mtdNavChange
    ytdNavChange := number .ytdNavChange
    pnl := number .pnl
    mtdPnl := number .mtdPnl
    ytdPnl := number .ytdPnl
    details := (row.cells .details).bind Cell.details? }

/-- `_nav_to_cache_row`. -/
def navToCacheRow (recordId : Nat) (nav : NAVHistory) (updatedAt : Option String) : NavRow where
  recordId := recordId
  account := nav.account
  date := nav.date
  cells column := if column = .updatedAt then updatedAt.map .text else navToDict nav column

namespace NavRow

/-- A row as the canonical read keeps it. -/
def canonical (row : NavRow) : NavRow :=
  navToCacheRow row.recordId (dictToNav row) ((row.cells .updatedAt).bind Cell.text?)

/-- A canonical row holds in each column what the column reads. -/
theorem canonical_eq (row : NavRow) :
    row.canonical = { row with cells := fun column => column.read (row.cells column) } := by
  refine congrArg (fun cells => NavRow.mk row.recordId row.account row.date cells) (funext ?_)
  intro column
  cases column <;> rfl

@[simp] theorem canonical_recordId (row : NavRow) : row.canonical.recordId = row.recordId := rfl
@[simp] theorem canonical_account (row : NavRow) : row.canonical.account = row.account := rfl
@[simp] theorem canonical_date (row : NavRow) : row.canonical.date = row.date := rfl

theorem canonical_cells (row : NavRow) (column : NavColumn) :
    row.canonical.cells column = column.read (row.cells column) := by rw [canonical_eq]

@[simp] theorem canonical_canonical (row : NavRow) : row.canonical.canonical = row.canonical := by
  rw [canonical_eq row.canonical, canonical_eq row]
  exact congrArg (NavRow.mk row.recordId row.account row.date)
    (funext fun column => column.read_read _)

/-- A record read from a row does not depend on whether the row was read before. -/
theorem dictToNav_canonical (row : NavRow) : dictToNav row.canonical = dictToNav row := by
  have hnumber : ∀ x : Option Cell,
      (((x.bind Cell.number?).map Cell.number).bind Cell.number?) = x.bind Cell.number? := by
    rintro (_ | ⟨_ | _ | _⟩) <;> rfl
  have hdetails : ∀ x : Option Cell,
      (((x.bind Cell.details?).map Cell.details).bind Cell.details?) = x.bind Cell.details? := by
    rintro (_ | ⟨_ | _ | _⟩) <;> rfl
  rw [canonical_eq]
  simp only [dictToNav, NavColumn.read, hnumber, hdetails]
  rfl

/-- A row that received the fields of a request. -/
def write (row : NavRow) (fields : Cells) : NavRow :=
  { row with cells := fun column => fields column <|> row.cells column }

@[simp] theorem write_recordId (row : NavRow) (fields : Cells) :
    (row.write fields).recordId = row.recordId := rfl
@[simp] theorem write_account (row : NavRow) (fields : Cells) :
    (row.write fields).account = row.account := rfl
@[simp] theorem write_date (row : NavRow) (fields : Cells) :
    (row.write fields).date = row.date := rfl

/-- The columns of a row that a fallback read without `updated_at` returns. -/
def withoutUpdatedAt (row : NavRow) : NavRow :=
  { row with cells := fun column => if column = .updatedAt then none else row.cells column }

end NavRow

/-! ## The table -/

/-- A request to change a row. -/
structure Update where
  /-- `record_id` -/
  recordId : Nat
  /-- `fields` without the date and the account, which stay as they are -/
  fields : Cells

/-- A request to create a row. -/
structure Create where
  /-- `account` -/
  account : String
  /-- `date` -/
  date : CivilDate
  /-- the other fields -/
  fields : Cells

/-- The row of a record that an update request addresses. -/
def NavRow.receive (row : NavRow) (updates : List Update) : NavRow :=
  updates.foldl (fun row update =>
    if update.recordId = row.recordId then row.write update.fields else row) row

/-- The remote table. -/
@[ext]
structure NavTable where
  /-- the rows -/
  rows : List NavRow
  /-- the id of the next record -/
  nextId : Nat
  /-- the table has the column `updated_at` -/
  stamped : Bool
  /-- ids are given out once -/
  issued : ∀ row ∈ rows, row.recordId < nextId
  /-- record ids are unique -/
  nodup : (rows.map NavRow.recordId).Nodup

@[simp] theorem NavRow.receive_nil (row : NavRow) : row.receive [] = row := rfl

theorem NavRow.receive_append (row : NavRow) (updates updates' : List Update) :
    row.receive (updates ++ updates') = (row.receive updates).receive updates' :=
  List.foldl_append

theorem NavRow.receive_keys (row : NavRow) (updates : List Update) :
    (row.receive updates).recordId = row.recordId ∧
      (row.receive updates).account = row.account ∧ (row.receive updates).date = row.date := by
  induction updates using List.reverseRecOn with
  | nil => exact ⟨rfl, rfl, rfl⟩
  | append_singleton updates update ih =>
    rw [receive_append]
    show NavRow.recordId (ite _ _ _) = _ ∧ NavRow.account (ite _ _ _) = _ ∧
      NavRow.date (ite _ _ _) = _
    split
    · exact ih
    · exact ih

@[simp] theorem NavRow.receive_recordId (row : NavRow) (updates : List Update) :
    (row.receive updates).recordId = row.recordId := (row.receive_keys updates).1
@[simp] theorem NavRow.receive_account (row : NavRow) (updates : List Update) :
    (row.receive updates).account = row.account := (row.receive_keys updates).2.1
@[simp] theorem NavRow.receive_date (row : NavRow) (updates : List Update) :
    (row.receive updates).date = row.date := (row.receive_keys updates).2.2

/-- A row that no request addresses stays as it is. -/
theorem NavRow.receive_of_not_mem {row : NavRow} {updates : List Update}
    (h : row.recordId ∉ updates.map Update.recordId) : row.receive updates = row := by
  induction updates with
  | nil => rfl
  | cons update updates ih =>
    rw [List.map_cons, List.mem_cons, not_or] at h
    show NavRow.receive (ite _ _ _) updates = row
    rw [if_neg (Ne.symm h.1)]
    exact ih h.2

/-- The records of creation requests, with ids from `n` on. -/
def createdRows (n : Nat) : List Create → List NavRow
  | [] => []
  | create :: creates =>
    ⟨n, create.account, create.date, create.fields⟩ :: createdRows (n + 1) creates

theorem createdRows_append (n : Nat) (creates creates' : List Create) :
    createdRows n (creates ++ creates') =
      createdRows n creates ++ createdRows (n + creates.length) creates' := by
  induction creates generalizing n with
  | nil => simp [createdRows]
  | cons create creates ih =>
    rw [List.cons_append, createdRows, createdRows, ih, List.cons_append, List.length_cons,
      Nat.add_right_comm, Nat.add_assoc]

theorem recordId_createdRows (n : Nat) (creates : List Create) :
    (createdRows n creates).map NavRow.recordId = List.range' n creates.length := by
  induction creates generalizing n with
  | nil => rfl
  | cons create creates ih => rw [createdRows, List.map_cons, ih, List.length_cons, List.range'_succ]

/-- The date and the account of created rows are those of their requests. -/
theorem keys_createdRows (n : Nat) (creates : List Create) :
    (createdRows n creates).map (fun row => (row.account, row.date)) =
      creates.map fun create => (create.account, create.date) := by
  induction creates generalizing n with
  | nil => rfl
  | cons create creates ih => rw [createdRows, List.map_cons, List.map_cons, ih]

theorem dates_createdRows (n : Nat) (creates : List Create) :
    (createdRows n creates).map NavRow.date = creates.map Create.date := by
  have h := congrArg (List.map Prod.snd) (keys_createdRows n creates)
  rw [List.map_map, List.map_map] at h
  exact h

namespace NavTable

/-- The rows after a list of update requests. -/
def updateAll (updates : List Update) (table : NavTable) : NavTable where
  rows := table.rows.map (·.receive updates)
  nextId := table.nextId
  stamped := table.stamped
  issued := by
    intro row hrow
    obtain ⟨old, hold, rfl⟩ := List.mem_map.mp hrow
    rw [NavRow.receive_recordId]
    exact table.issued old hold
  nodup := by
    rw [List.map_map]
    have hids : NavRow.recordId ∘ (·.receive updates) = NavRow.recordId :=
      funext fun row => row.receive_recordId updates
    rw [hids]
    exact table.nodup

/-- The rows after a list of creation requests. -/
def createAll (creates : List Create) (table : NavTable) : NavTable where
  rows := table.rows ++ createdRows table.nextId creates
  nextId := table.nextId + creates.length
  stamped := table.stamped
  issued := by
    intro row hrow
    rcases List.mem_append.mp hrow with hrow | hrow
    · exact Nat.lt_add_right _ (table.issued row hrow)
    · have hid := List.mem_map_of_mem hrow (f := NavRow.recordId)
      rw [recordId_createdRows, List.mem_range'_1] at hid
      exact hid.2
  nodup := by
    rw [List.map_append, recordId_createdRows]
    refine List.nodup_append'.mpr ⟨table.nodup, List.nodup_range', ?_⟩
    intro id hold hnew
    obtain ⟨row, hrow, rfl⟩ := List.mem_map.mp hold
    exact absurd (List.mem_range'_1.mp hnew).1 (not_le.mpr (table.issued row hrow))

/-- The rows after a deletion. -/
def delete (recordId : Nat) (table : NavTable) : NavTable where
  rows := table.rows.filter (·.recordId ≠ recordId)
  nextId := table.nextId
  stamped := table.stamped
  issued := fun row hrow => table.issued row (List.mem_of_mem_filter hrow)
  nodup := List.Nodup.sublist (List.filter_sublist.map _) table.nodup

@[simp] theorem updateAll_nil (table : NavTable) : table.updateAll [] = table := by
  refine NavTable.ext ?_ rfl rfl
  exact (List.map_congr_left fun row _ => row.receive_nil).trans (List.map_id _)

theorem updateAll_append (updates updates' : List Update) (table : NavTable) :
    table.updateAll (updates ++ updates') = (table.updateAll updates).updateAll updates' := by
  refine NavTable.ext ?_ rfl rfl
  show table.rows.map _ = (table.rows.map _).map _
  rw [List.map_map]
  exact List.map_congr_left fun row _ => row.receive_append updates updates'

@[simp] theorem createAll_nil (table : NavTable) : table.createAll [] = table :=
  NavTable.ext (List.append_nil _) rfl rfl

theorem createAll_append (creates creates' : List Create) (table : NavTable) :
    table.createAll (creates ++ creates') = (table.createAll creates).createAll creates' := by
  refine NavTable.ext ?_ ?_ rfl
  · show table.rows ++ _ = (table.rows ++ _) ++ _
    rw [createdRows_append, List.append_assoc]
    rfl
  · show table.nextId + (creates ++ creates').length = table.nextId + creates.length + _
    rw [List.length_append, Nat.add_assoc]

/-- The record of an id. -/
def record (table : NavTable) (recordId : Nat) : Option NavRow :=
  table.rows.find? (·.recordId = recordId)

/-- The rows of an account, with the requested columns. -/
def select (table : NavTable) (account : String) (withUpdatedAt : Bool) : List NavRow :=
  (table.rows.filter (·.account = account)).map fun row =>
    if withUpdatedAt then row else row.withoutUpdatedAt

/-- The rows a fresh read of an account gives, in the order of their dates. -/
def freshRows (table : NavTable) (account : String) : List NavRow :=
  sortBy NavRow.date ((table.select account table.stamped).map NavRow.canonical)

end NavTable

/-- The account and the date of a row: its business key. -/
def NavRow.key (row : NavRow) : String × CivilDate := (row.account, row.date)

/-- The table holds at most one row for an account and a date. -/
def NavTable.Keyed (table : NavTable) : Prop := (table.rows.map NavRow.key).Nodup

end PortfolioManagement.Nav
