import PortfolioManagement.Lib.Program
import PortfolioManagement.Effect.Source

/-!
# The effect store

The SQLite store of the effect workflow: versions of effects per record, events, holding
fingerprints, scan runs and receipts. A version's source and mode never change; its state and the
other columns do. The version table keeps its rows newest first and carries the order of ids and
versions with it, so that "the latest version of a record" is the first row found.
-/

namespace PortfolioManagement

/-! ## Effects -/

/-- What identifies a chain of versions. -/
structure EffectKey where
  /-- the kind of effect -/
  kind : EffectKind
  /-- the record the effect is about -/
  recordId : String
deriving DecidableEq, Repr

/-- `confirmation_json`. -/
inductive Confirmation
  | operator (runId : Option String)
  | automaticPolicy
deriving DecidableEq

/-- The columns of a version that `update_effect` may change. -/
structure EffectColumns where
  /-- `state` -/
  state : EffectState
  /-- `target_source` -/
  targetSource : Option TargetSource := none
  /-- `before_json` -/
  before : Option (List HoldingPayload) := none
  /-- `targets_json` -/
  targets : Option (List HoldingState) := none
  /-- `preview_hash` -/
  previewHash : Option PreviewHash := none
  /-- `warnings_json` -/
  warnings : Option (List String) := none
  /-- `confirmation_json` -/
  confirmation : Option Confirmation := none
  /-- `compensation_task_id` -/
  compensationTaskId : Option Nat := none
  /-- `last_error` -/
  lastError : Option String := none
deriving DecidableEq

/-- A row of `cash_flow_effects`. -/
structure Effect where
  /-- `effect_id` -/
  id : Nat
  /-- `effect_kind` -/
  kind : EffectKind
  /-- `version` -/
  version : Nat
  /-- `source_json` -/
  source : Source
  /-- `mode` -/
  mode : EffectMode
  /-- the columns that change -/
  columns : EffectColumns
deriving DecidableEq

namespace Effect

/-- `record_id`. -/
def recordId (e : Effect) : String := e.source.recordId

/-- The chain the version belongs to. -/
def key (e : Effect) : EffectKey := ⟨e.kind, e.recordId⟩

/-- `state`. -/
def state (e : Effect) : EffectState := e.columns.state

/-- `source_hash`. -/
def sourceHash (e : Effect) : SourceHash := PortfolioManagement.sourceHash e.source

/-- The `account` column. -/
def account (e : Effect) : String := textOr e.source.account

/-- The `flow_date` column; a blank text is no date. -/
def flowDate (e : Effect) : Option Date := e.source.flowDate

/-- `targets or []`. -/
def targetsOrEmpty (e : Effect) : List HoldingState := e.columns.targets.getD []

/-- The effect with its changeable columns rewritten. -/
def withColumns (e : Effect) (f : EffectColumns → EffectColumns) : Effect :=
  { e with columns := f e.columns }

@[simp] theorem id_withColumns (e : Effect) (f : EffectColumns → EffectColumns) :
    (e.withColumns f).id = e.id := rfl

@[simp] theorem key_withColumns (e : Effect) (f : EffectColumns → EffectColumns) :
    (e.withColumns f).key = e.key := rfl

@[simp] theorem version_withColumns (e : Effect) (f : EffectColumns → EffectColumns) :
    (e.withColumns f).version = e.version := rfl

@[simp] theorem source_withColumns (e : Effect) (f : EffectColumns → EffectColumns) :
    (e.withColumns f).source = e.source := rfl

@[simp] theorem mode_withColumns (e : Effect) (f : EffectColumns → EffectColumns) :
    (e.withColumns f).mode = e.mode := rfl

@[simp] theorem kind_withColumns (e : Effect) (f : EffectColumns → EffectColumns) :
    (e.withColumns f).kind = e.kind := rfl

@[simp] theorem state_withColumns (e : Effect) (f : EffectColumns → EffectColumns) :
    (e.withColumns f).state = (f e.columns).state := rfl

end Effect

/-- The version table, newest row first. -/
structure EffectTable where
  /-- the rows -/
  rows : List Effect
  /-- the next effect id -/
  nextId : Nat
  /-- ids are below the next one -/
  fresh : ∀ e ∈ rows, e.id < nextId
  /-- newer rows have greater ids -/
  ids : rows.Pairwise fun a b => b.id < a.id
  /-- within a chain newer rows have greater versions -/
  versions : rows.Pairwise fun a b => a.key = b.key → b.version < a.version

namespace EffectTable

/-- The table of a new store. -/
def empty : EffectTable := ⟨[], 1, by simp, .nil, .nil⟩

/-- `get_effect`. -/
def get (t : EffectTable) (id : Nat) : Option Effect := t.rows.find? fun e => e.id = id

/-- The versions of a chain, newest first. -/
def chain (t : EffectTable) (k : EffectKey) : List Effect := t.rows.filter fun e => e.key = k

/-- `get_latest_for_record`: the first row of the chain has its greatest version. -/
def latest (t : EffectTable) (k : EffectKey) : Option Effect := t.rows.find? fun e => e.key = k

/-- `get_previous_applied`: the newest applied row of the chain below a version. -/
def previousApplied (t : EffectTable) (id : Nat) : Option Effect :=
  match t.get id with
  | none => none
  | some current =>
    t.rows.find? fun e =>
      e.key = current.key && e.version < current.version && e.state = .applied

/-- The order of `list_effects`: flow date, kind, record, version. -/
def listOrder (a b : Effect) : Prop :=
  let date (e : Effect) := (e.flowDate.map Nat.succ).getD 0
  date a < date b ∨ date a = date b ∧ (a.kind.text < b.kind.text ∨ a.kind.text = b.kind.text ∧
    (a.recordId < b.recordId ∨ a.recordId = b.recordId ∧ a.version ≤ b.version))

instance : DecidableRel listOrder := fun a b => by unfold listOrder; infer_instance

/-- `list_effects(latest_only=True)`. -/
def listLatest (t : EffectTable) : List Effect :=
  (t.rows.filter fun e => t.latest e.key = some e).insertionSort listOrder

/-- `UPDATE cash_flow_effects` of one row. -/
def modify (t : EffectTable) (id : Nat) (f : EffectColumns → EffectColumns) : EffectTable where
  rows := t.rows.map fun e => if e.id = id then e.withColumns f else e
  nextId := t.nextId
  fresh := by
    intro e he
    obtain ⟨a, ha, rfl⟩ := List.mem_map.mp he
    have := t.fresh a ha
    split <;> simpa using this
  ids := by
    refine List.pairwise_map.mpr (t.ids.imp ?_)
    intro a b hab
    split <;> split <;> simpa using hab
  versions := by
    refine List.pairwise_map.mpr (t.versions.imp ?_)
    intro a b hab
    split <;> split <;> simpa using hab

/-- The version a new row of a chain gets. -/
def nextVersion (t : EffectTable) (k : EffectKey) : Nat :=
  match t.latest k with
  | some latest => latest.version + 1
  | none => 1

theorem key_of_latest {t : EffectTable} {k : EffectKey} {e : Effect} (h : t.latest k = some e) :
    e.key = k := by
  simpa using List.find?_some h

theorem mem_of_latest {t : EffectTable} {k : EffectKey} {e : Effect} (h : t.latest k = some e) :
    e ∈ t.rows :=
  List.mem_of_find?_eq_some h

/-- The latest row has the greatest version of its chain. -/
theorem version_le_of_latest {t : EffectTable} {k : EffectKey} {e a : Effect}
    (h : t.latest k = some e) (ha : a ∈ t.rows) (hk : a.key = k) : a.version ≤ e.version := by
  obtain ⟨hek, newer, older, hrows, hnewer⟩ := List.find?_eq_some_iff_append.mp h
  have hv := t.versions
  rw [hrows] at ha hv
  rcases List.mem_append.mp ha with hmem | hmem
  · exact absurd (by simpa using hnewer a hmem) (not_not_intro hk)
  rcases List.mem_cons.mp hmem with rfl | hmem
  · exact Nat.le_refl _
  · have hpair := (List.pairwise_cons.mp (List.pairwise_append.mp hv).2.1).1 a hmem
    exact Nat.le_of_lt (hpair (by rw [hk]; simpa using hek))

/-- A chain with a row has a latest row. -/
theorem latest_isSome_of_mem {t : EffectTable} {a : Effect} (ha : a ∈ t.rows) :
    ∃ e, t.latest a.key = some e := by
  cases h : t.latest a.key with
  | some e => exact ⟨e, rfl⟩
  | none => exact absurd (decide_eq_true rfl) (List.find?_eq_none.mp h a ha)

/-- A new row's version is greater than those of its chain. -/
theorem version_lt_nextVersion {t : EffectTable} {a : Effect} (ha : a ∈ t.rows) :
    a.version < t.nextVersion a.key := by
  obtain ⟨e, he⟩ := latest_isSome_of_mem ha
  unfold nextVersion
  rw [he]
  exact Nat.lt_succ_of_le (version_le_of_latest he ha rfl)

/-- The row a new version of a chain gets. -/
def newRow (t : EffectTable) (kind : EffectKind) (source : Source) (mode : EffectMode)
    (state : EffectState) : Effect :=
  ⟨t.nextId, kind, t.nextVersion ⟨kind, source.recordId⟩, source, mode, { state := state }⟩

/-- `INSERT INTO cash_flow_effects` of a new version. -/
def insert (t : EffectTable) (kind : EffectKind) (source : Source) (mode : EffectMode)
    (state : EffectState) : EffectTable where
  rows := t.newRow kind source mode state :: t.rows
  nextId := t.nextId + 1
  fresh := by
    intro e he
    rcases List.mem_cons.mp he with rfl | he
    · exact Nat.lt_succ_self _
    · exact Nat.lt_succ_of_lt (t.fresh e he)
  ids := List.pairwise_cons.mpr ⟨fun e he => t.fresh e he, t.ids⟩
  versions := by
    refine List.pairwise_cons.mpr ⟨fun e he hk => ?_, t.versions⟩
    show e.version < t.nextVersion ⟨kind, source.recordId⟩
    rw [show (⟨kind, source.recordId⟩ : EffectKey) = e.key from hk]
    exact version_lt_nextVersion he

/-- The row a new version of a chain supersedes: its latest row, when that is unresolved. -/
def supersededBy (t : EffectTable) (k : EffectKey) : Option Effect :=
  (t.latest k).filter fun e => e.state ∈ EffectState.unresolved

/-- The rows `create_version` writes: the new version, and `superseded` for the row below it. -/
def push (t : EffectTable) (kind : EffectKind) (source : Source) (mode : EffectMode)
    (state : EffectState) : EffectTable :=
  match t.supersededBy ⟨kind, source.recordId⟩ with
  | some latest => (t.insert kind source mode state).modify latest.id
      fun c => { c with state := .superseded }
  | none => t.insert kind source mode state

end EffectTable

/-! ## Events, fingerprints, scan runs and receipts -/

/-- The event types of `create_version`. -/
inductive CreationEvent
  | discovered
  | deletionDiscovered
  | sourceChanged
  | sourceChangedBlocked
  | manualBaselineAutoAccepted
  | externalHoldingChange
deriving DecidableEq, Repr

/-- An event with its payload. -/
inductive EventBody
  | created (type : CreationEvent) (source : SourceHash) (mode : EffectMode) (kind : EffectKind)
  | superseded (supersededBy : Nat)
  | scheduledActivated
  | blocked (error : String)
  | previewBlocked (error : String)
  | previewed (hash : PreviewHash) (externalAction : Option ExternalAction)
      (historicalApply : Bool)
  | previewInvalidated (provided current : PreviewHash)
  | recordOnlyConfirmed (hash : PreviewHash)
  | applying (hash : PreviewHash) (targetCount : Nat) (accounts : List String)
  | compensationCreated (taskId : Nat) (error : String) (targetCount : Nat)
  | applied (hash : PreviewHash) (alreadyApplied : Bool) (targetCount : Nat)
  | compensationRetryFailed (error : Option String)
  | compensationResolved (taskId : Nat)
  | resolvedByObservation
  | manualBaselineAutoAccepted (identity : String)
  | manualBaselineConfirmed (identity : String)
  | sourceChangeDeferred (old new : SourceHash)
  | authoritativeSourceChanged (old new : SourceHash) (correction : Nat)
deriving DecidableEq

/-- A row of `cash_flow_effect_events`. -/
structure Event where
  /-- the effect -/
  effectId : Nat
  /-- what happened -/
  body : EventBody
deriving DecidableEq

/-- A row of `cash_holding_fingerprints`. -/
structure Fingerprint where
  /-- `holding_identity` -/
  identity : String
  /-- `holding_record_id` -/
  recordId : Option Nat
  /-- `last_confirmed_amount` -/
  lastConfirmedAmount : Option Cents
  /-- `last_confirmed_hash` -/
  lastConfirmedHash : Option HoldingHash
  /-- `last_observed_amount` -/
  lastObservedAmount : Cents
  /-- `last_observed_hash` -/
  lastObservedHash : HoldingHash
  /-- `confirmed_by_effect_id` -/
  confirmedBy : Option Nat
deriving DecidableEq

/-- The status of a scan run. -/
inductive ScanStatus
  | running
  | completed
  | failed
deriving DecidableEq, Repr

/-- What `_commit_scan` digests: the raw rows by record id and the CASH holdings by record id. -/
abbrev ScanDigest := Digest (List CashFlow × List HoldingPayload)

/-- The counts of a completed scan. -/
structure ScanCounts where
  /-- new records -/
  added : Nat := 0
  /-- changed versions -/
  changed : Nat := 0
  /-- disappeared records -/
  deleted : Nat := 0
  /-- rows that do not validate -/
  blocked : Nat := 0
deriving DecidableEq

/-- A row of `cash_flow_scan_runs`. -/
structure ScanRun where
  /-- `scan_run_id` -/
  id : Nat
  /-- `scope` -/
  scope : String
  /-- `status` -/
  status : ScanStatus
  /-- `source_record_count` -/
  sourceRecordCount : Option Nat := none
  /-- `source_digest` -/
  sourceDigest : Option ScanDigest := none
  /-- the four counts -/
  counts : ScanCounts := {}
  /-- `error` -/
  error : Option String := none
deriving DecidableEq

/-- The receipt keys the effect service enqueues. -/
inductive ReceiptKey
  | scanRecovered (run : Nat)
  | scanError (run : Nat)
  | discovery (digest : ScanDigest)
  | stale (effect : Nat) (provided current : PreviewHash)
  | recordOnly (effect : Nat) (hash : PreviewHash)
  | compensation (effect task : Nat)
  | sourceChanged (effect correction : Nat)
  | applied (effect : Nat) (hash : PreviewHash)
  | compensationResolved (effect task : Nat)
deriving DecidableEq

/-- The statuses of a receipt. -/
inductive ReceiptStatus
  | pending
  | sent
  | failed
  | invalid
deriving DecidableEq

/-- A row of `cash_flow_effect_receipts`. -/
structure Receipt where
  /-- `receipt_key` -/
  key : ReceiptKey
  /-- the `scope` of the payload, where it has one -/
  scope : Option String
  /-- `status` -/
  status : ReceiptStatus
deriving DecidableEq

/-- The database. Events and scan runs are kept newest first. -/
structure Db where
  /-- `cash_flow_effects` -/
  effects : EffectTable
  /-- `cash_flow_effect_events` -/
  events : List Event
  /-- `cash_holding_fingerprints` -/
  fingerprints : List Fingerprint
  /-- `cash_flow_scan_runs` -/
  scanRuns : List ScanRun
  /-- `cash_flow_effect_receipts` -/
  receipts : List Receipt
  /-- the `cutover_date` in `effect_meta` -/
  cutover : Date

/-- A sequence of store operations inside one SQLite transaction. -/
abbrev Tx (α : Type) := Prog Db Error α

namespace Db

/-- A new database. -/
def init (cutover : Date) : Db := ⟨.empty, [], [], [], [], cutover⟩

/-- `get_fingerprint`. -/
def fingerprint (db : Db) (identity : String) : Option Fingerprint :=
  db.fingerprints.find? fun f => f.identity = identity

/-- `list_fingerprints`: all, or those whose identity text names the account. A text that does not
split raises `IndexError` in the source; the identities the service writes always split. -/
def listFingerprints (db : Db) (account : Option String) : List Fingerprint :=
  match account with
  | none => db.fingerprints
  | some "" => db.fingerprints
  | some a => db.fingerprints.filter fun f =>
      (splitIdentity f.identity).map (fun parts => parts.2.1) = some a

/-- The row of `last_confirmed_*` of an identity. -/
def confirmedAmount (db : Db) (identity : String) : Option Cents :=
  (db.fingerprint identity).bind Fingerprint.lastConfirmedAmount

/-- `last_confirmed_hash` of an identity. -/
def confirmedHash (db : Db) (identity : String) : Option HoldingHash :=
  (db.fingerprint identity).bind Fingerprint.lastConfirmedHash

/-- `list_events(effect_id)`, newest first. -/
def listEvents (db : Db) (effectId : Nat) : List Event :=
  db.events.filter fun e => e.effectId = effectId

/-- `latest_scan(scope)`. -/
def latestScan (db : Db) (scope : String) : Option ScanRun :=
  db.scanRuns.find? fun r => r.scope = scope

/-- `_append_event`. -/
def log (db : Db) (effectId : Nat) (body : EventBody) : Db :=
  { db with events := ⟨effectId, body⟩ :: db.events }

/-- Write one fingerprint row, replacing the row of its identity. -/
def putFingerprint (db : Db) (f : Fingerprint) : Db :=
  { db with fingerprints := f :: db.fingerprints.filter fun g => g.identity ≠ f.identity }

/-- Record an observation of an identity and keep what is confirmed. -/
def observe (db : Db) (identity : String) (recordId : Option Nat) (amount : Cents)
    (hash : HoldingHash) : Db :=
  let old := db.fingerprint identity
  db.putFingerprint
    { identity := identity
      recordId := recordId
      lastConfirmedAmount := old.bind Fingerprint.lastConfirmedAmount
      lastConfirmedHash := old.bind Fingerprint.lastConfirmedHash
      lastObservedAmount := amount
      lastObservedHash := hash
      confirmedBy := old.bind Fingerprint.confirmedBy }

/-- Confirm the baseline of an identity. -/
def confirm (db : Db) (identity : String) (recordId : Option Nat) (amount : Cents)
    (hash : HoldingHash) (effectId : Option Nat) : Db :=
  db.putFingerprint
    { identity := identity
      recordId := recordId
      lastConfirmedAmount := some amount
      lastConfirmedHash := some hash
      lastObservedAmount := amount
      lastObservedHash := hash
      confirmedBy := effectId }

/-- Rewrite the columns of a version, with the event that says why. -/
def update (db : Db) (id : Nat) (f : EffectColumns → EffectColumns) (event : EventBody) : Db :=
  { db with effects := db.effects.modify id f }.log id event

/-- What `create_version` writes once it found no latest row with the same hash. -/
def addVersion (db : Db) (kind : EffectKind) (source : Source) (mode : EffectMode)
    (state : EffectState) (type : CreationEvent) : Db :=
  let id := db.effects.nextId
  let logged := match db.effects.supersededBy ⟨kind, source.recordId⟩ with
    | some latest => db.log latest.id (.superseded id)
    | none => db
  { logged with effects := db.effects.push kind source mode state }.log id
    (.created type (sourceHash source) mode kind)

end Db

/-! ## Store operations -/

namespace Store

/-- `get_effect` of a row known to exist. -/
def getEffect (id : Nat) : Tx Effect := fun db =>
  match db.effects.get id with
  | some e => (.ok e, db)
  | none => (.error (.runtime "cash-flow effect disappeared"), db)

/-- `create_version`: the latest version when it already has this source, a new version
otherwise. -/
def createVersion (kind : EffectKind) (source : Source) (mode : EffectMode) (state : EffectState)
    (type : CreationEvent) : Tx Effect := fun db =>
  match db.effects.latest ⟨kind, source.recordId⟩ with
  | some latest =>
    if latest.sourceHash = sourceHash source then (.ok latest, db)
    else getEffect db.effects.nextId (db.addVersion kind source mode state type)
  | none => getEffect db.effects.nextId (db.addVersion kind source mode state type)

/-- The text of a state conflict. -/
def stateConflict (id : Nat) (current : Option EffectState) (expected : List EffectState) :
    Error :=
  .runtime ("cash-flow effect state conflict: effect_id=cfe_" ++ toString id ++ ", state=" ++
    (match current with | some s => s.text | none => "missing") ++ ", expected=[" ++
    ", ".intercalate (expected.map EffectState.text) ++ "]")

/-- `update_effect`: a guarded write of one row, with its event. -/
def updateEffect (id : Nat) (f : EffectColumns → EffectColumns) (event : EventBody)
    (expected : List EffectState) : Tx Effect := fun db =>
  match db.effects.get id with
  | none => (.error (stateConflict id none expected), db)
  | some e =>
    if e.state ∈ expected then
      (.ok (e.withColumns f), db.update id f event)
    else (.error (stateConflict id (some e.state) expected), db)

/-- `append_event`. -/
def appendEvent (id : Nat) (event : EventBody) : Tx Unit := Prog.alter fun db => db.log id event

/-- `observe_fingerprint`. -/
def observeFingerprint (identity : String) (recordId : Option Nat) (amount : Cents)
    (hash : HoldingHash) : Tx Unit :=
  Prog.alter fun db => db.observe identity recordId amount hash

/-- `confirm_fingerprint`: what is confirmed is also what was last observed. -/
def confirmFingerprint (identity : String) (recordId : Option Nat) (amount : Cents)
    (hash : HoldingHash) (effectId : Option Nat) : Tx Unit :=
  Prog.alter fun db => db.confirm identity recordId amount hash effectId

/-- `begin_scan`. -/
def beginScan (scope : String) : Tx Nat := fun db =>
  let id := db.scanRuns.length + 1
  (.ok id, { db with scanRuns := { id := id, scope := scope, status := .running } :: db.scanRuns })

/-- `finish_scan`: only a running scan can be finished. -/
def finishScan (id : Nat) (finish : ScanRun → ScanRun) : Tx ScanRun := fun db =>
  match db.scanRuns.find? fun r => r.id = id && r.status = .running with
  | none => (.error (.runtime ("scan run is not active: cfs_" ++ toString id)), db)
  | some run =>
    (.ok (finish run), { db with
      scanRuns := db.scanRuns.map fun r => if r.id = id then finish r else r })

/-- `enqueue_receipt`: `INSERT OR IGNORE`. -/
def enqueueReceipt (key : ReceiptKey) (scope : Option String := none) : Tx Unit :=
  Prog.alter fun db =>
    if key ∈ db.receipts.map Receipt.key then db
    else { db with receipts := ⟨key, scope, .pending⟩ :: db.receipts }

/-- The status `mark_receipt` writes. -/
def markedStatus (success retryable : Bool) : ReceiptStatus :=
  if success then .sent else if retryable then .failed else .invalid

/-- `mark_receipt`. -/
def markReceipt (key : ReceiptKey) (success retryable : Bool) : Tx Unit := fun db =>
  if key ∈ db.receipts.map Receipt.key then
    (.ok (), { db with receipts := db.receipts.map fun r =>
      if r.key = key then { r with status := markedStatus success retryable } else r })
  else (.error ⟨.keyError, "receipt not found"⟩, db)

end Store

end PortfolioManagement
