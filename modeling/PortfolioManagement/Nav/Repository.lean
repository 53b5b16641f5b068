import Mathlib.Logic.Function.Basic
import PortfolioManagement.Lib.Program
import PortfolioManagement.Nav.Invariants
import PortfolioManagement.Nav.Table

/-!
# The NAV history repository

`NavHistoryRepository` keeps the rows of an account in three places beside the remote table: the
index in memory, the process's copy of `nav_index_cache.json` and that file. Reads are served from
memory, which is filled from the local copy when that holds the account and from the remote table
otherwise. Writes read the account first, send their requests and bring the local copy up to date by
hand.

Every request to the remote has an outcome: it is carried out, it is refused because it names a
column the table does not have, it is refused for another reason, or its answer is lost after some
of its rows were changed.
-/

namespace PortfolioManagement.Nav

/-! ## The state -/

/-- The outcome of a request. -/
inductive Answer
  /-- the request is carried out -/
  | ok
  /-- refused with `FieldNameNotFound` -/
  | unknownField
  /-- refused -/
  | refused
  /-- an error after the first row of the request and the given number of further rows were
  changed -/
  | lost (further : Nat)
deriving DecidableEq

/-- The rows of an account in a local copy. -/
structure Entry where
  /-- `nav_history` -/
  rows : List NavRow
  /-- how many requests had changed the rows of the account when the copy was made; the code does
  not keep this -/
  stamp : Nat

/-- What a repository works on. -/
structure NavWorld where
  /-- the remote table -/
  table : NavTable
  /-- the outcomes of the requests to come; further requests are carried out -/
  answers : List Answer
  /-- `_nav_index_mem_cache` -/
  mem : String → Option Entry
  /-- `LocalNavIndexCache`; an entry that is empty or of an older format is `none` -/
  cache : String → Option Entry
  /-- `nav_index_cache.json` -/
  file : String → Option Entry
  /-- how many requests have changed the rows of an account; the code does not keep this -/
  revision : String → Nat

/-- The facts of a `FeishuBatchWriteError` that the repository raises. -/
structure BatchReport where
  /-- `account` -/
  account : String
  /-- `failed_operation` -/
  failedOperation : String
  /-- `unconfirmed_outcome` is `unknown` -/
  unknown : Bool
  /-- the record ids of the confirmed updates -/
  confirmedUpdates : List Nat
  /-- the record ids of the confirmed creations -/
  confirmedCreates : List Nat
  /-- `partial_write_possible` -/
  partialWritePossible : Bool
  /-- the status of `cache_rebuild` is `rebuilt_from_fresh_read` -/
  rebuilt : Bool
deriving DecidableEq

/-- What the repository raises. -/
inductive NavError
  /-- `ValueError` -/
  | value (text : String)
  /-- `NavHistoryReadIntegrityError` -/
  | readIntegrity (account : String)
  /-- the client's error: whether its text has `FieldNameNotFound`, and `confirmed_results` -/
  | client (unknownField : Bool) (confirmed : List Nat)
  /-- `RuntimeError`: a write without the required finality was refused -/
  | failedClosed (operation : String)
  /-- `FeishuBatchWriteError` with its scopes -/
  | batch (report : BatchReport)
deriving DecidableEq

/-- `'FieldNameNotFound' in str(e)`. -/
def NavError.namesUnknownField : NavError → Bool
  | client unknownField _ => unknownField
  | _ => false

/-- `getattr(e, 'confirmed_results', None) or []`. -/
def NavError.confirmedResults : NavError → List Nat
  | client _ confirmed => confirmed
  | _ => []

/-- The error carries `confirmed_scopes`. -/
def NavError.hasScopes : NavError → Bool
  | batch _ => true
  | _ => false

/-- Programs of the repository. -/
abbrev NavProg := Prog NavWorld NavError

open Prog (raise rescue reads alter lift require fold)

/-! ## Requests -/

/-- The outcome of the next request. -/
def nextAnswer : NavProg Answer := fun w =>
  match w.answers with
  | [] => (.ok .ok, w)
  | a :: rest => (.ok a, { w with answers := rest })

/-- The rows of an account are changed. -/
def NavWorld.commit (account : String) (change : NavTable → NavTable) (w : NavWorld) : NavWorld :=
  { w with
    table := change w.table
    revision := Function.update w.revision account (w.revision account + 1) }

/-- One request to change rows of an account; `confirmed` are the results of the requests before
it. -/
def request {α : Type} (account : String) (change : List α → NavTable → NavTable) (rows : List α)
    (confirmed : List Nat) : NavProg Unit := do
  match ← nextAnswer with
  | .ok => alter (NavWorld.commit account (change rows))
  | .unknownField => raise (.client true confirmed)
  | .refused => raise (.client false confirmed)
  | .lost n =>
    alter (NavWorld.commit account (change (rows.take (n + 1))))
    raise (.client false confirmed)

/-- `list_records`. -/
def listRecords (account : String) (withUpdatedAt : Bool) : NavProg (List NavRow) := do
  match ← nextAnswer with
  | .ok =>
    let table ← reads NavWorld.table
    if withUpdatedAt ∧ ¬ table.stamped then raise (.client true [])
    else pure (table.select account withUpdatedAt)
  | _ => raise (.client false [])

/-- `batch_size`. -/
def batchSize : Nat := 500

/-- The requests of a batch, `batch_size` rows each, and their results. The first argument bounds
the number of requests. -/
def requestChunks {α : Type} (account : String) (change : List α → NavTable → NavTable)
    (results : List α → NavTable → List Nat) : Nat → List α → List Nat → NavProg (List Nat)
  | 0, _, confirmed => pure confirmed
  | _ + 1, [], confirmed => pure confirmed
  | n + 1, row :: rest, confirmed => do
    let chunk := (row :: rest).take batchSize
    let ids ← reads fun w => results chunk w.table
    request account change chunk confirmed
    requestChunks account change results n ((row :: rest).drop batchSize) (confirmed ++ ids)

/-- `batch_update_records`. -/
def batchUpdateRecords (account : String) (updates : List Update) : NavProg (List Nat) :=
  requestChunks account NavTable.updateAll (fun chunk _ => chunk.map Update.recordId)
    updates.length updates []

/-- The fields `validate_write_fields` requires of a new row, in its order. -/
def missingField (create : Create) : Option String :=
  if strip create.account = "" then some "account"
  else if create.fields .nav = none then some "nav"
  else if create.fields .shares = none then some "shares"
  else if create.fields .totalValue = none then some "total_value"
  else none

/-- `validate_write_fields` of a new row. -/
def validateCreate (row : String) (create : Create) : Except NavError Unit :=
  match missingField create with
  | some field =>
    .error (.value ("table=nav_history operation=create" ++ row ++ ": 缺少必填字段: " ++ field))
  | none => .ok ()

/-- The checks of a batch of new rows, from row `n` on. -/
def validateCreates (n : Nat) : List Create → Except NavError Unit
  | [] => .ok ()
  | create :: rest => do
    validateCreate (" row_index=" ++ toString n) create
    validateCreates (n + 1) rest

/-- `batch_create_records`. -/
def batchCreateRecords (account : String) (creates : List Create) : NavProg (List Nat) := do
  lift (validateCreates 0 creates)
  requestChunks account NavTable.createAll (fun chunk table => List.range' table.nextId chunk.length)
    creates.length creates []

/-- `update_record`. -/
def updateRecord (account : String) (recordId : Nat) (fields : Cells) : NavProg Unit :=
  request account NavTable.updateAll [⟨recordId, fields⟩] []

/-- `create_record`. -/
def createRecord (create : Create) : NavProg Nat := do
  lift (validateCreate "" create)
  let recordId ← reads (·.table.nextId)
  request create.account NavTable.createAll [create] []
  pure recordId

/-! ## The index -/

/-- `_validate_nav_source_identity` of every row. -/
def IdentifiedRows (account : String) (rows : List NavRow) : Prop :=
  ∀ row ∈ rows, strip row.account ≠ "" ∧ row.account = account

instance (account : String) (rows : List NavRow) : Decidable (IdentifiedRows account rows) :=
  inferInstanceAs (Decidable (∀ row ∈ rows, strip row.account ≠ "" ∧ row.account = account))

/-- `_build_nav_payload_from_cache_rows`. -/
def buildNavPayload (account : String) (rows : List NavRow) : Except NavError (List NavRow) :=
  if IdentifiedRows account rows then .ok (sortBy NavRow.date (rows.map NavRow.canonical))
  else .error (.readIntegrity account)

/-- `_build_nav_index_payload`. -/
def buildNavIndexPayload (account : String) (records : List NavRow) :
    Except NavError (List NavRow) :=
  if IdentifiedRows account records then buildNavPayload account (records.map NavRow.canonical)
  else .error (.readIntegrity account)

/-- `_invalidate_nav_index`. -/
def invalidateNavIndex (account : String) : NavProg Unit :=
  alter fun w => { w with mem := Function.update w.mem account none }

/-- `set_account(account, entry, _flush=flush)`. -/
def setAccount (account : String) (entry : Option Entry) (flush : Bool) : NavProg Unit :=
  alter fun w =>
    { w with
      cache := Function.update w.cache account entry
      file := if flush then Function.update w.cache account entry else w.file }

/-- `_clear_nav_index_authority`. -/
def clearNavIndexAuthority (account : String) : NavProg Unit := do
  invalidateNavIndex account
  setAccount account none true

/-- `_store_nav_index_payload`. -/
def storeNavIndexPayload (account : String) (rows : List NavRow) (persistLocal : Bool) :
    NavProg Unit := do
  let stamp ← reads (·.revision account)
  alter fun w => { w with mem := Function.update w.mem account (some ⟨rows, stamp⟩) }
  if persistLocal then setAccount account (some ⟨rows, stamp⟩) false

/-- The read of an account, without `updated_at` when the table does not have it. -/
def readRecords (account : String) : NavProg (List NavRow) :=
  rescue (listRecords account true) fun e =>
    if e.namesUnknownField then listRecords account false else raise e

/-- `preload_nav_index` with `force_refresh`. -/
def refreshNavIndex (account : String) (persistLocal : Bool) : NavProg Unit := do
  let records ← readRecords account
  let rows ← rescue (lift (buildNavIndexPayload account records)) fun e => do
    clearNavIndexAuthority account
    raise e
  storeNavIndexPayload account rows persistLocal

/-- `_ensure_nav_index_loaded`. -/
def ensureNavIndexLoaded (account : String) : NavProg Unit := do
  match ← reads (·.mem account) with
  | some _ => pure ()
  | none =>
    match ← reads (·.cache account) with
    | some entry =>
      let rows ← rescue (lift (buildNavPayload account entry.rows)) fun e => do
        clearNavIndexAuthority account
        raise e
      alter fun w => { w with mem := Function.update w.mem account (some ⟨rows, entry.stamp⟩) }
    | none => refreshNavIndex account true

/-- `get_nav_index`: its complete rows. -/
def getNavIndex (account : String) : NavProg (List NavRow) := do
  ensureNavIndexLoaded account
  reads fun w => ((w.mem account).map Entry.rows).getD []

/-- `_get_indexed_navs`. -/
def getIndexedNavs (account : String) : NavProg (List NAVHistory) := do
  let navs := (← getNavIndex account).map dictToNav
  if navs ≠ [] then pure navs
  else
    refreshNavIndex account true
    return (← getNavIndex account).map dictToNav

/-- `get_nav_history`: the records from `startDate` on. -/
def getNavHistory (account : String) (startDate : CivilDate) (fresh : Bool) :
    NavProg (List NAVHistory) := do
  if fresh then refreshNavIndex account false
  let navs := (← getNavIndex account).map dictToNav
  let navs ←
    if navs = [] ∧ ¬ fresh then do
      refreshNavIndex account true
      let rows ← getNavIndex account
      pure (rows.map dictToNav)
    else pure navs
  return sortBy NAVHistory.date (navs.filter fun nav => startDate ≤ nav.date)

/-- `get_latest_nav`. -/
def getLatestNav (account : String) : NavProg (Option NAVHistory) :=
  return (← getIndexedNavs account).getLast?

/-- `get_nav_on_date`. -/
def getNavOnDate (account : String) (date : CivilDate) : NavProg (Option NAVHistory) :=
  return ((← getIndexedNavs account).filter fun nav => nav.date = date).head?

/-- `_apply_nav_rows_to_local_cache`. Whether the rows hold what the table holds is given, to stamp
the copy. -/
def applyNavRowsToLocalCache (account : String) (rows : List NavRow) (exact : Bool) :
    NavProg Unit := do
  if rows = [] then pure ()
  else
    let base ← reads (·.cache account)
    let merged := valuesBy NavRow.date (((base.map Entry.rows).getD []) ++ rows)
    let stamp ← reads fun w =>
      if exact then w.revision account else ((base.map Entry.stamp).getD 0)
    setAccount account (some ⟨sortBy NavRow.date merged, stamp⟩) true
    let rebuilt ← lift (buildNavPayload account (sortBy NavRow.date merged))
    setAccount account (some ⟨rebuilt, stamp⟩) true
    invalidateNavIndex account

/-! ## Full writes -/

/-- `mode`. -/
inductive WriteMode
  | replace
  | upsert
deriving DecidableEq

/-- `_validate_nav_write`. -/
def validateNavWrite (nav : NAVHistory) : Except NavError Unit :=
  let fail (reason : String) : Except NavError Unit :=
    .error (.value ("nav_history write validation failed: " ++ reason))
  if nav.account = "" then fail "account is required"
  else if ¬ 0 < nav.totalValue then fail "total_value must be > 0"
  else if isClosed nav then
    match nav.shares with
    | none => fail "shares is required when status=CLOSED"
    | some shares => if shares ≠ 0 then fail "shares must be 0 when status=CLOSED" else .ok ()
  else
    match nav.shares, nav.nav with
    | none, _ => fail "shares is required"
    | some _, none => fail "nav is required"
    | some shares, some value =>
      if ¬ 0 < shares then fail "shares must be > 0"
      else if ¬ 0 < value then fail "nav must be > 0"
      else .ok ()

/-- `_fields_contain_finality`. -/
def fieldsContainFinality (fields : Cells) : Bool :=
  ((fields .details).bind Cell.details?).any (·.finality.isSome)

/-- `_fail_closed_if_finality_would_be_dropped`. -/
def failClosed (payloads : List Cells) (operation : String) : NavProg Unit :=
  if payloads.any fieldsContainFinality then raise (.failedClosed operation) else pure ()

/-- The fields without the details. -/
def dropDetails (fields : Cells) : Cells := fun column =>
  if column = .details then none else fields column

/-- The local row after an update: the row of the record, and what the old row held where the
record has nothing when the mode keeps it. -/
def mergedRow (mode : WriteMode) (existing row : NavRow) : NavRow :=
  match mode with
  | .replace => row
  | .upsert => { row with cells := fun column => row.cells column <|> existing.cells column }

/-- A row whose details were not written keeps those of the old row. -/
def keptDetails (existing : Option NavRow) (row : NavRow) : NavRow :=
  { row with
    cells := fun column =>
      if column = .details then existing.bind (·.cells .details) else row.cells column }

/-- A row that the fallback of a batch update leaves: `updated_at` and the details are reset. -/
def fallbackRow (existing row : NavRow) : NavRow :=
  { keptDetails (some existing) row with
    cells := fun column =>
      if column = .updatedAt then none else (keptDetails (some existing) row).cells column }

/-- The record has a value wherever the row it replaces has one, `updated_at` apart. -/
def Covers (nav : NAVHistory) (existing : NavRow) : Prop :=
  ∀ column ∈ NavColumn.all, column ≠ .updatedAt → navToDict nav column = none →
    existing.cells column = none

instance (nav : NAVHistory) (existing : NavRow) : Decidable (Covers nav existing) :=
  inferInstanceAs (Decidable (∀ column ∈ NavColumn.all, _ → _ → _))

/-- A preview of one write. -/
structure Preview where
  /-- `account` -/
  account : String
  /-- `date` -/
  date : CivilDate
  /-- `existing_row` -/
  existingRow : Option NavRow
  /-- `fields` -/
  fields : Cells

/-- `existing`. -/
def Preview.existing (preview : Preview) : Bool := preview.existingRow.isSome

/-- `_execute_single_nav_write` without `dry_run`: the row for the local copy. -/
def executeSingleNavWrite (nav : NAVHistory) (existing : Option NavRow) (mode : WriteMode) :
    NavProg NavRow := do
  let fields := navToDict nav
  let send (fields : Cells) : NavProg Nat :=
    match existing with
    | some row => do
      updateRecord nav.account row.recordId fields
      pure row.recordId
    | none => createRecord ⟨nav.account, nav.date, fields⟩
  let sent ← rescue (do pure (← send fields, false)) fun e =>
    if e.namesUnknownField then do
      failClosed [fields] (if existing.isSome then "update" else "create")
      pure (← send (dropDetails fields), true)
    else raise e
  let row := navToCacheRow sent.1 nav none
  let row := if sent.2 then keptDetails existing row else row
  match existing with
  | some old => pure (mergedRow mode old row)
  | none => pure row

/-- A text in the form of `repr`. -/
def quoted (s : String) : String := "'" ++ s ++ "'"

/-- The rows of a date that share it with another row. -/
def duplicateGroups (rows : List NavRow) : List (CivilDate × List NavRow) :=
  ((valuesBy NavRow.date rows).map fun row =>
    (row.date, rows.filter fun other => other.date = row.date)).filter fun group =>
      1 < group.2.length

/-- `_duplicate_error_message`. -/
def duplicateErrorMessage (account : String) (groups : List (CivilDate × List NavRow)) : String :=
  let parts := (groups.take 5).map fun group =>
    "account=" ++ account ++ ", date=" ++ group.1.isoformat ++ ", record_ids=[" ++
      ", ".intercalate (group.2.map fun row => quoted (toString row.recordId)) ++ "]"
  "nav_history duplicate account/date records exist; repair before NAV write: " ++
    "; ".intercalate parts ++
    (if groups.length ≤ 5 then "" else "; ... +" ++ toString (groups.length - 5) ++ " more")

/-- `_stage_aware_batch_error`: the report; the local copies are rebuilt from a fresh read. -/
def stageAwareBatchError (account operation : String) (unknown : Bool) (updates creates : List Nat)
    (updateRows createRows : Nat) : NavProg BatchReport := do
  let rebuilt ← rescue
    (do
      clearNavIndexAuthority account
      refreshNavIndex account true
      pure true)
    fun _ => do
      invalidateNavIndex account
      pure false
  pure
    { account := account
      failedOperation := operation
      unknown := unknown
      confirmedUpdates := updates
      confirmedCreates := creates
      partialWritePossible := updates ≠ [] ∨ creates ≠ [] ∨
        (unknown ∧ (updates.length < updateRows ∨ creates.length < createRows))
      rebuilt := rebuilt }

/-- Raise the error of a failed stage. -/
def raiseBatchError {α : Type} (account operation : String) (unknown : Bool)
    (updates creates : List Nat) (updateRows createRows : Nat) : NavProg α := do
  raise (.batch (← stageAwareBatchError account operation unknown updates creates updateRows
    createRows))

/-- The row of a date among the rows of an account: the last one. -/
def rowOn (existingRows : List NavRow) (date : CivilDate) : Option NavRow :=
  (gather NavRow.date existingRows).lookup date

section
variable (existingRows : List NavRow)

/-- The records of a batch that have a row, with it. -/
def updatedNavs (navs : List NAVHistory) : List (NAVHistory × NavRow) :=
  navs.filterMap fun nav => (rowOn existingRows nav.date).map fun row => (nav, row)

/-- The records of a batch that have no row. -/
def createdNavs (navs : List NAVHistory) : List NAVHistory :=
  navs.filter fun nav => (rowOn existingRows nav.date).isNone

end

/-- The update request of a record. -/
def updatePayload (pair : NAVHistory × NavRow) : Update := ⟨pair.2.recordId, navToDict pair.1⟩

/-- The request without the details. -/
def Update.withoutDetails (update : Update) : Update :=
  { update with fields := dropDetails update.fields }

/-- The creation request of a record. -/
def createPayload (nav : NAVHistory) : Create := ⟨nav.account, nav.date, navToDict nav⟩

/-- The request without the details. -/
def Create.withoutDetails (create : Create) : Create :=
  { create with fields := dropDetails create.fields }

/-- The local row of an updated record. -/
def updatedRow (mode : WriteMode) (pair : NAVHistory × NavRow) : NavRow :=
  mergedRow mode pair.2 (navToCacheRow pair.2.recordId pair.1 none)

/-- The local rows of created records. -/
def createdCacheRows (withDetails : Bool) (ids : List Nat) (navs : List NAVHistory) : List NavRow :=
  (ids.zip navs).map fun item =>
    let row := navToCacheRow item.1 item.2 none
    if withDetails then row else keptDetails none row

/-- The update stage of a batch: the confirmed ids and the local rows. -/
def updateStage (account : String) (mode : WriteMode) (pairs : List (NAVHistory × NavRow)) :
    NavProg (List Nat × List NavRow) :=
  if pairs = [] then pure ([], [])
  else
    rescue
      (do
        let ids ← batchUpdateRecords account (pairs.map updatePayload)
        pure (ids, pairs.map (updatedRow mode)))
      fun e =>
        if e.namesUnknownField ∧ e.confirmedResults = [] then do
          failClosed (pairs.map fun pair => navToDict pair.1) "batch update"
          rescue
            (do
              let ids ← batchUpdateRecords account
                (pairs.map fun pair => (updatePayload pair).withoutDetails)
              pure (ids, pairs.map fun pair => fallbackRow pair.2 (updatedRow mode pair)))
            fun e => raiseBatchError account "update" (¬ e.namesUnknownField) e.confirmedResults []
              pairs.length 0
        else raiseBatchError account "update" (¬ e.namesUnknownField) e.confirmedResults []
          pairs.length 0

/-- The creation stage of a batch, after `updated` updates: the local rows. -/
def createStage (account : String) (updated : List Nat) (updateRows : Nat)
    (navs : List NAVHistory) : NavProg (List NavRow) :=
  if navs = [] then pure []
  else
    rescue
      (do
        let ids ← batchCreateRecords account (navs.map createPayload)
        pure (createdCacheRows true ids navs))
      fun e =>
        if e.namesUnknownField ∧ e.confirmedResults = [] then do
          rescue (failClosed (navs.map navToDict) "batch create") fun e =>
            if updated ≠ [] then
              raiseBatchError account "create" false updated [] updateRows navs.length
            else raise e
          rescue
            (do
              let ids ← batchCreateRecords account
                (navs.map fun nav => (createPayload nav).withoutDetails)
              pure (createdCacheRows false ids navs))
            fun e => raiseBatchError account "create" (¬ e.namesUnknownField) updated
              e.confirmedResults updateRows navs.length
        else raiseBatchError account "create" (¬ e.namesUnknownField) updated e.confirmedResults
          updateRows navs.length

/-- The result for one account. -/
structure AccountResult where
  /-- the account -/
  account : String
  /-- `updated` -/
  updated : Nat
  /-- `created` -/
  created : Nat
  /-- `total` -/
  total : Nat
  /-- `error` -/
  error : Option NavError

/-- The records of an account in the order of their dates, the last one of each date. -/
def datedNavs (navs : List NAVHistory) : List NAVHistory :=
  sortBy NAVHistory.date (valuesBy NAVHistory.date navs)

/-- The rows of an account, read and checked before a write. -/
def existingRowsForWrite (account : String) : NavProg (List NavRow) := do
  refreshNavIndex account true
  let existingRows ← getNavIndex account
  let duplicates := duplicateGroups existingRows
  if duplicates ≠ [] then raise (.value (duplicateErrorMessage account duplicates))
  else pure existingRows

/-- The batch write of one account. -/
def writeAccountBatch (account : String) (mode : WriteMode) (navs : List NAVHistory) :
    NavProg AccountResult := do
  let existingRows ← existingRowsForWrite account
  let pairs := updatedNavs existingRows navs
  let created := createdNavs existingRows navs
  let (ids, updateRows) ← updateStage account mode pairs
  let createRows ← createStage account ids pairs.length created
  applyNavRowsToLocalCache account (updateRows ++ createRows)
    (mode = .upsert ∨ ∀ pair ∈ pairs, Covers pair.1 pair.2)
  pure ⟨account, pairs.length, created.length, navs.length, none⟩

/-- The previews of one account. -/
def previewAccount (account : String) (navs : List NAVHistory) :
    NavProg (AccountResult × List Preview) := do
  let existingRows ← existingRowsForWrite account
  let previews := navs.map fun nav =>
    (⟨account, nav.date, rowOn existingRows nav.date, navToDict nav⟩ : Preview)
  let updated := (previews.filter (·.existing)).length
  pure (⟨account, updated, previews.length - updated, navs.length, none⟩, previews)

/-- The result of a full write. -/
structure WriteResult where
  /-- `total` -/
  total : Nat
  /-- `accounts`, with the errors of those that failed -/
  accounts : List AccountResult
  /-- `previews` -/
  previews : List Preview

/-- `errors`. -/
def WriteResult.errors (result : WriteResult) : List (String × NavError) :=
  result.accounts.filterMap fun item => item.error.map fun e => (item.account, e)

/-- The accounts of a list of records, in order. -/
def writtenAccounts (navs : List NAVHistory) : List String :=
  ((navs.map NAVHistory.account).dedup).insertionSort (· ≤ ·)

/-- The records of one account. -/
def navsOf (account : String) (navs : List NAVHistory) : List NAVHistory :=
  datedNavs (navs.filter fun nav => nav.account = account)

/-- The loop body of a full write: the errors of an account end the call unless partial results are
allowed and the error does not report a partial write. -/
def writeOneAccount (mode : WriteMode) (allowPartial dryRun : Bool) (navs : List NAVHistory)
    (acc : List AccountResult × List Preview) (account : String) :
    NavProg (List AccountResult × List Preview) :=
  let own := navsOf account navs
  rescue
    (if dryRun then do
      let (result, previews) ← previewAccount account own
      pure (acc.1 ++ [result], acc.2 ++ previews)
    else do
      let result ← writeAccountBatch account mode own
      pure (acc.1 ++ [result], acc.2))
    fun e =>
      if ¬ allowPartial ∨ e.hasScopes then raise e
      else pure (acc.1 ++ [⟨account, 0, 0, own.length, some e⟩], acc.2)

/-- `_write_nav_full_records` as its callers use it: with the batch requests unless it is a dry
run. -/
def writeNavFullRecords (navs : List NAVHistory) (mode : WriteMode) (allowPartial dryRun : Bool) :
    NavProg WriteResult := do
  fold navs () fun _ nav => lift (validateNavWrite nav)
  let (accounts, previews) ← fold (writtenAccounts navs) ([], [])
    (writeOneAccount mode allowPartial dryRun navs)
  pure ⟨navs.length, accounts, previews⟩

/-- `write_nav_records`. -/
def writeNavRecords (navs : List NAVHistory) (mode : WriteMode) (allowPartial dryRun : Bool) :
    NavProg WriteResult :=
  writeNavFullRecords navs mode allowPartial dryRun

/-- `write_nav_record`. -/
def writeNavRecord (nav : NAVHistory) (overwriteExisting dryRun : Bool) : NavProg Unit := do
  let result ← writeNavFullRecords [nav] .replace false true
  let existing := result.previews.head?.bind (·.existingRow)
  if existing.isSome ∧ ¬ overwriteExisting then
    raise (.value ("nav_history 已存在同日记录，拒绝覆盖: account=" ++ nav.account ++ ", date=" ++
      nav.date.isoformat))
  else if dryRun then pure ()
  else
    let row ← executeSingleNavWrite nav existing .replace
    applyNavRowsToLocalCache nav.account [row] (∀ old ∈ existing, Covers nav old)

/-! ## Patches and deletions -/

/-- `NAV_DERIVED_PATCH_FIELDS`. -/
def derivedPatchFields : List NavColumn :=
  [.stockWeight, .cashWeight, .shares, .nav, .cashFlow, .shareChange, .pnl, .mtdNavChange,
    .ytdNavChange, .mtdPnl, .ytdPnl]

/-- `NAV_MAINTENANCE_PATCH_FIELDS`. -/
def maintenancePatchFields : List NavColumn := .details :: derivedPatchFields

/-- Forget the index in memory, of all accounts. -/
def clearMemory : NavProg Unit := alter fun w => { w with mem := fun _ => none }

/-- `_patch_nav_fields`; the values are taken as they are after rounding. -/
def patchNavFields (recordId : Nat) (fields : Items NavColumn (Option Cell)) (dryRun : Bool)
    (allowed : List NavColumn) : NavProg Unit := do
  require (∀ item ∈ fields, item.1 ∈ allowed) (.value "update_nav_fields: illegal field(s)")
  let payload : Cells := fun column => (fields.lookup column).join
  if dryRun then pure ()
  else
    require (∃ column ∈ NavColumn.all, payload column ≠ none)
      (.value "table=nav_history operation=update: fields must not be empty")
    match (← reads NavWorld.table).record recordId with
    | none =>
      let _ ← nextAnswer
      raise (.client false [])
    | some row =>
      updateRecord row.account recordId payload
      clearMemory

/-- `patch_nav_derived_fields`. -/
def patchNavDerivedFields (recordId : Nat) (fields : Items NavColumn (Option Cell))
    (dryRun : Bool) : NavProg Unit := patchNavFields recordId fields dryRun derivedPatchFields

/-- `patch_nav_details`. -/
def patchNavDetails (recordId : Nat) (details : NavDetails) (dryRun : Bool) : NavProg Unit :=
  patchNavFields recordId [(.details, some (.details details))] dryRun [.details]

/-- `delete_nav_by_record_id`. -/
def deleteNavByRecordId (recordId : Nat) : NavProg Unit := do
  match (← reads NavWorld.table).record recordId with
  | none =>
    let _ ← nextAnswer
    raise (.client false [])
  | some row =>
    request row.account (fun ids table => ids.foldl (fun table id => table.delete id) table)
      [recordId] []
    clearMemory

end PortfolioManagement.Nav
