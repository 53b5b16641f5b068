import PortfolioManagement.Effect.Table

/-!
# Moves

What the service can do to the durable state in one indivisible step, said once. `StoreStep` lists
the writes inside a database transaction, `Move` the steps of a call: a transaction, a remote write,
an append to the compensation log, and a change by third parties. Each constructor carries what the
code knew when it took the step. That every call moves the world along `Move` only, whatever goes
wrong in it, is proved in `PortfolioManagement.Effect.Follows`; the properties of runs are proved
from the constructors here.

The context of the call bounds its steps: which changes third parties may make while it runs, which
confirmations and retries it asks for, which frozen dataset it works on, and where it started.
-/

namespace PortfolioManagement

open Relation (ReflTransGen)

/-- What bounds the steps of a call. -/
structure CallContext where
  /-- the changes third parties may make while the call runs -/
  edits : Remote → Remote → Prop
  /-- the confirmations it may begin: version, action asked for, payload -/
  confirms : Effect → Option ExternalAction → PreviewPayload → Prop
  /-- the frozen datasets it may take rows from -/
  datasets : CashFlowDataset → Prop
  /-- the versions it may retry the compensation of -/
  compensates : Nat → Prop
  /-- the state it started from -/
  start : Durable

/-! ## What a call has read -/

section
variable (E : Remote → Remote → Prop) (d : Durable)

/-- The remote side had this state in the running call, and only third parties changed it since. -/
def Was (r : Remote) : Prop := r ∈ d.remote :: d.earlier ∧ ReflTransGen E r d.remote

/-- The call read `a` from the remote side, now or before third parties changed it. -/
def Saw {α : Type} (f : Remote → Except Error α) (a : α) : Prop := ∃ r, Was E d r ∧ f r = .ok a

/-- The call read the fresh holding of a currency, an account and a broker. -/
def FreshRead (currency account broker : String) (h : Option Holding) : Prop :=
  ∃ c, Currency.ofText currency = some c ∧
    Saw E d (fun r => r.holdings.getHoldingFresh c.cashAsset account broker) h

end

/-- What a transaction was computed from: the remote side at its commit, the rows and holdings read
before it, and the database it started from. -/
structure Reading where
  /-- the remote side -/
  remote : Remote
  /-- the frozen dataset the rows were taken from, if not from the ledger -/
  dataset : Option CashFlowDataset
  /-- the ledger rows read -/
  flows : List CashFlow
  /-- the holdings a scan read -/
  holdings : Option (List Holding)
  /-- the account a scan was asked for -/
  account : Option String
  /-- the database at the start of the transaction -/
  start : Db

/-- The reading is one a call made in this state. -/
structure Reading.From (C : CallContext) (s : Reading) (d : Durable) : Prop where
  /-- remote reads inside the transaction see the current remote side -/
  remote : s.remote = d.remote
  /-- the transaction starts from the current database -/
  start : s.start = d.db
  /-- without a dataset the rows are the complete ledger as it was read -/
  flows : s.dataset = none → Saw C.edits d (fun r => .ok r.ledger) s.flows
  /-- with one they are its rows -/
  rows : ∀ dataset, s.dataset = some dataset →
    C.datasets dataset ∧ s.flows = dataset.completedRows.map CompletedCashFlowFacts.toCashFlow
  /-- the holdings are those of a complete fresh read -/
  holdings : ∀ hs, s.holdings = some hs →
    Saw C.edits d (fun r => r.holdings.getCashHoldingsFresh s.account) hs

/-! ## Steps of a transaction -/

/-- The events that come with the state `applied`. -/
def EventBody.applies : EventBody → Bool
  | .applied _ _ _ => true
  | .compensationResolved _ => true
  | .resolvedByObservation => true
  | _ => false

/-- A pending compensation owns the identity. -/
def Owned (t : EffectTable) (identity : String) : Prop :=
  ∃ e, t.latest e.key = some e ∧ e.state = .compensationPending ∧
    ∃ target ∈ e.targetsOrEmpty, target.identity.text = identity

/-- The drift context of a reading, with whatever the store says about active effects. -/
structure Reading.Drifts (s : Reading) (ctx : DriftContext) : Prop where
  /-- the observed holdings -/
  holdings : s.holdings = some ctx.holdings
  /-- the fingerprints at the start of the transaction -/
  known : ctx.known = s.start.listFingerprints s.account
  /-- the date -/
  today : ctx.today = s.remote.today

/-- Where a new version comes from. -/
inductive Origin (s : Reading) (db : Db) :
    EffectKind → Source → EffectMode → EffectState → Prop
  /-- a row of the ledger as the scan discovers it -/
  | row {flow : CashFlow} (mem : flow ∈ s.flows) :
    Origin s db .cashFlow (discover s.remote db.cutover flow).source
      (discover s.remote db.cutover flow).mode (discover s.remote db.cutover flow).state
  /-- the tombstone of a record whose row is gone -/
  | gone {e : Effect} {mode : EffectMode} (latest : db.effects.latest e.key = some e)
    (kind : e.kind = .cashFlow) (gone : e.recordId ∉ seenRecords s.flows)
    (alive : e.source.isDeleted = false)
    (mode_eq : mode = scanDeletionMode e ∨ mode = rereadDeletionMode e) :
    Origin s db .cashFlow e.source.deletion mode .pending
  /-- a drift of a non-Futu holding, accepted as the new baseline -/
  | accepted {ctx : DriftContext} {identity : String} {change : ExternalChange}
    (drifts : s.Drifts ctx)
    (decided : drift ctx (db.effects.latest (externalKey identity)) identity = .accept change) :
    Origin s db .externalChange (.externalChange change) .recordOnly .recordOnly
  /-- a drift of a Futu holding -/
  | drifted {ctx : DriftContext} {identity : String} {change : ExternalChange}
    (drifts : s.Drifts ctx)
    (decided : drift ctx (db.effects.latest (externalKey identity)) identity =
      .discovered change) :
    Origin s db .externalChange (.externalChange change) .apply .pending

/-- One write inside a transaction. -/
inductive StoreStep (s : Reading) : Db → Db → Prop
  /-- events, receipts and scan runs -/
  | bookkeeping {db db' : Db} (effects : db'.effects = db.effects)
    (fingerprints : db'.fingerprints = db.fingerprints) (cutover : db'.cutover = db.cutover)
    (events : db.events <:+ db'.events) : StoreStep s db db'
  /-- an observation of a holding, which confirms nothing -/
  | observe {db : Db} (identity : String) (recordId : Option Nat) (amount : Cents)
    (hash : HoldingHash) : StoreStep s db (db.observe identity recordId amount hash)
  /-- a new version of a chain whose latest version has another source -/
  | create {db : Db} {kind : EffectKind} {source : Source} {mode : EffectMode}
    {state : EffectState} (type : CreationEvent)
    (changed : ∀ l, db.effects.latest ⟨kind, source.recordId⟩ = some l → l.source ≠ source)
    (unowned : ∀ l, db.effects.latest ⟨kind, source.recordId⟩ = some l →
      l.state ≠ .compensationPending)
    (origin : Origin s db kind source mode state) :
    StoreStep s db (db.addVersion kind source mode state type)
  /-- an idle version stays idle: activated, previewed, blocked or stale -/
  | advance {db : Db} {e : Effect} {f : EffectColumns → EffectColumns} (event : EventBody)
    (get : db.effects.get e.id = some e) (idle : e.state ∈ EffectState.idle)
    (idle' : (f e.columns).state ∈ EffectState.idle)
    (preview : (f e.columns).state = .previewed →
      ∃ hash action historical, event = .previewed hash action historical) :
    StoreStep s db (db.update e.id f event)
  /-- a note on a version whose state and targets stay -/
  | annotate {db : Db} {e : Effect} {f : EffectColumns → EffectColumns} (event : EventBody)
    (get : db.effects.get e.id = some e) (state : (f e.columns).state = e.state)
    (targets : (f e.columns).targets = e.columns.targets)
    (task : (f e.columns).compensationTaskId = e.columns.compensationTaskId) :
    StoreStep s db (db.update e.id f event)
  /-- a previewed version is confirmed as recorded only -/
  | recordOnly {db : Db} {e : Effect} {f : EffectColumns → EffectColumns} (event : EventBody)
    (get : db.effects.get e.id = some e) (state : e.state = .previewed)
    (state' : (f e.columns).state = .recordOnly)
    (mode : e.kind = .cashFlow → e.mode = .recordOnly) :
    StoreStep s db (db.update e.id f event)
  /-- an external change is settled by an observation that matches the baseline -/
  | resolve {db : Db} {e : Effect} {f : EffectColumns → EffectColumns} (event : EventBody)
    (get : db.effects.get e.id = some e) (kind : e.kind = .externalChange)
    (state : e.state ∈ EffectState.resolvable) (state' : (f e.columns).state = .applied)
    (applies : event.applies = true) : StoreStep s db (db.update e.id f event)
  /-- a known non-Futu drift is accepted again -/
  | acceptAgain {db : Db} {e : Effect} {f : EffectColumns → EffectColumns} (event : EventBody)
    {ctx : DriftContext} {identity : String} (drifts : s.Drifts ctx)
    (decided : drift ctx (db.effects.latest (externalKey identity)) identity = .acceptAgain e)
    (latest : db.effects.latest (externalKey identity) = some e)
    (state' : (f e.columns).state = .recordOnly) :
    StoreStep s db (db.update e.id f event)
  /-- the baseline of an accepted drift -/
  | baseline {db : Db} {identity : String} (recordId : Option Nat) (amount : Cents)
    (hash : HoldingHash) (effectId : Option Nat) (unowned : ¬ Owned db.effects identity) :
    StoreStep s db (db.confirm identity recordId amount hash effectId)

/-! ## Plans -/

/-- The operations a preview of a version works on. -/
def previewOperations (t : EffectTable) (e : Effect) : List (Source × Cents) :=
  if e.kind = .cashFlow then t.cashFlowOperations e else [(e.source, 0)]

/-- The amount a non-Futu cash-flow target asks for. -/
def FlowTarget (e : Effect) (action : Option ExternalAction) (s : Source) (delta before
    amount : Cents) : Prop :=
  e.kind = .cashFlow → s.broker ≠ some futuBroker →
    amount = if action = some .alreadyReflected then before else before + delta

section
variable (E : Remote → Remote → Prop) (d : Durable)

/-- The source of a version is the authoritative one, as far as the call has read. -/
def SourceCurrent (e : Effect) : Prop :=
  e.kind = .cashFlow → ∃ r, Was E d r ∧
    (rereadDiscovery r d.db.cutover r.ledger e).1.source = e.source

/-- The evidence of a Futu target is a balance the call fetched, and its amount is the target. -/
def EvidenceOf (e : Effect) (source : Source) (amount : Cents) : Option FutuEvidence → Prop
  | none => e.kind = .cashFlow → source.broker ≠ some futuBroker
  | some evidence => ∃ snapshot,
    Saw E d (fun r => r.fetchBalances (textOr source.account)) snapshot ∧
      futuBalance snapshot (textOr source.currency) = .ok (amount, evidence)

/-- A target row computed for an operation. -/
def RowPlan (e : Effect) (action : Option ExternalAction) (operations : List (Source × Cents))
    (op : Source × Cents) (row : TargetRow) : Prop :=
  ∃ source before amount,
    (∃ op' ∈ operations, op'.1 = source) ∧
    operationIdentity source = operationIdentity op.1 ∧
    FreshRead E d (textOr source.currency) (textOr source.account) (textOr source.broker) before ∧
    row.before = holdingPayload before ∧
    targetHolding before op.1 amount = .ok row.target ∧
    row.identity = row.target.identity ∧ row.delta = op.2 ∧
    FlowTarget e action op.1 op.2 row.before.quantity amount ∧
    EvidenceOf E d e op.1 amount row.futuEvidence

/-- A row bound to a fresh base that is still the previewed one. -/
def BoundTo (row : TargetRow) (p : PlannedTarget) : Prop :=
  FreshRead E d row.target.values.currency row.target.identity.account row.target.identity.broker
    p.before ∧
  holdingPayload p.before = row.before ∧
  HoldingTarget.fromHoldings p.before (boundState p.before row.target) (ownedFields p.before) =
    .ok p.mutation

/-- Every holding fetched was read fresh for an operation on its identity. -/
def FetchedFor (operations : List (Source × Cents)) (fetched : List (String × Option Holding)) :
    Prop :=
  ∀ entry ∈ fetched, ∃ op ∈ operations, operationIdentity op.1 = some entry.1 ∧
    FreshRead E d (textOr op.1.currency) (textOr op.1.account) (textOr op.1.broker) entry.2

/-- The holdings fetched for the operations of a preview. -/
structure Fetched (operations : List (Source × Cents)) (fetched : List (String × Option Holding)) :
    Prop where
  /-- every entry is a fresh read for an operation -/
  read : FetchedFor E d operations fetched
  /-- every identity of an operation was read -/
  complete : ∀ op ∈ operations, ∀ identity, operationIdentity op.1 = some identity →
    ∃ entry ∈ fetched, entry.1 = identity

/-- The action a preview works with: the operator's, or the detected one. -/
inductive ActionOf (e : Effect) (operations : List (Source × Cents))
    (requested : Option ExternalAction) : Option ExternalAction → Prop
  | given (settled : e.kind = .cashFlow →
      (∀ op ∈ operations, op.1.broker = some futuBroker) ∨ explicitReflection requested = true) :
    ActionOf e operations requested requested
  | detected {fetched : List (String × Option Holding)} {decision : Reflection}
    (default : explicitReflection requested = false) (reads : Fetched E d operations fetched)
    (decided : detectedAction (detectionRows d.db operations fetched) = some decision) :
    ActionOf e operations requested (some decision.action)

/-- What the preview of a version hashes. -/
inductive Computed (e : Effect) (requested : Option ExternalAction) : PreviewPayload → Prop
  | recordOnly (mode : e.mode = .recordOnly) :
    Computed e requested (.recordOnly e.id e.version e.sourceHash)
  | acceptCurrent {before : HoldingPayload} (kind : e.kind = .externalChange) :
    Computed e requested (.acceptCurrent e.id e.version e.sourceHash before)
  | apply {historical : Bool} {action : Option ExternalAction} {rows : List TargetRow}
    (resolved : ActionOf E d e (previewOperations d.db.effects e) requested action)
    (computed : List.Forall₂ (RowPlan E d e action (previewOperations d.db.effects e))
      ((previewOperations d.db.effects e).insertionSort operationOrder) rows) :
    Computed e requested (.apply e.id e.version e.sourceHash historical action rows)

/-- A fresh read of the target's identity matched the target. -/
def Matched (target : HoldingTarget) (readback : Option Holding) : Prop :=
  FreshRead E d target.values.currency target.identity.account target.identity.broker readback ∧
  (readback.any fun row => holdingOwnedFieldsMatch row target) = true

end

/-! ## Entitlements -/

/-- The journal got this entry after the state `d₀`. -/
def Since (d₀ d : Durable) (entry : JournalEntry) : Prop :=
  ∃ new, new ++ d₀.journal = d.journal ∧ entry ∈ new

/-- The call took the effect to `applying` with this plan. -/
def Began (C : CallContext) (d : Durable) (id : Nat) (planned : List PlannedTarget) : Prop :=
  ∃ e payload, e.id = id ∧ Since C.start d (.began e payload planned)

/-- The task a pending compensation points to. -/
def TaskOf (d : Durable) (id taskId : Nat) (task : CompensationTask CashTarget) : Prop :=
  d.tasks.getTask taskId = some task ∧
    ∃ e, d.db.effects.get id = some e ∧ e.state = .compensationPending ∧
      e.columns.compensationTaskId = some taskId

/-- A target a call may write for an effect: one of the plan it is applying, or one of the task of
a pending compensation. -/
inductive Authorized (C : CallContext) (d : Durable) (id : Nat) : Writer → HoldingTarget → Prop
  | confirm {e : Effect} {planned : List PlannedTarget} {p : PlannedTarget}
    (get : d.db.effects.get id = some e) (state : e.state = .applying)
    (began : Began C d id planned) (mem : p ∈ planned) :
    Authorized C d id .confirm p.mutation
  | compensation {taskId : Nat} {task : CompensationTask CashTarget} {target : CashTarget}
    (taskOf : TaskOf d id taskId task) (mem : target ∈ task.targets) :
    Authorized C d id .compensation target.mutation

/-! ## Steps of a call -/

/-- The state after the columns of a version changed. -/
def Durable.update (d : Durable) (id : Nat) (f : EffectColumns → EffectColumns) (event : EventBody) :
    Durable :=
  { d with db := d.db.update id f event }

/-- The state after an effect confirmed the baseline of an identity. -/
def Durable.confirmBaseline (d : Durable) (id : Nat) (identity : String) (observed : Option Holding) :
    Durable :=
  let db := d.db.confirm identity (observed.map Holding.recordId) (holdingAmount observed)
    (holdingHash observed) (some id)
  { d with db := db }.note (.baselined id identity (holdingAmount observed))

/-- One step of a call. -/
inductive Move (C : CallContext) : Durable → Durable → Prop
  /-- third parties change the remote side -/
  | drift {d : Durable} {r : Remote} (allowed : C.edits d.remote r) : Move C d (d.drift r)
  /-- a committed transaction -/
  | store {d : Durable} {db : Db} (s : Reading) (from_world : s.From C d)
    (steps : ReflTransGen (StoreStep s) d.db db) : Move C d { d with db := db }
  /-- a confirmation takes its version to `applying` -/
  | begin {d : Durable} {e : Effect} {requested : Option ExternalAction}
    {payload : PreviewPayload} {planned : List PlannedTarget} {f : EffectColumns → EffectColumns}
    (event : EventBody) (latest : d.db.effects.latest e.key = some e)
    (state : e.state = .previewed) (state' : (f e.columns).state = .applying)
    (allowed : C.confirms e requested payload) (current : SourceCurrent C.edits d e)
    (computed : Computed C.edits d e requested payload) (mode : payload.mode = .apply)
    (bound : List.Forall₂ (BoundTo C.edits d) payload.rows planned) :
    Move C d ((d.update e.id f event).note (.began e payload planned))
  /-- a write request reaches the holdings table -/
  | send {d : Durable} {e : Effect} {writer : Writer} {target : HoldingTarget}
    {base : Option Holding} (authorized : Authorized C d e.id writer target)
    (allowed : writer = .compensation → C.compensates e.id)
    (fresh : Saw C.edits d (fun r => r.holdings.freshBaseForTarget target) base) :
    Move C d (Storage.send e writer target base d).2
  /-- a readback matched -/
  | verify {d : Durable} {id : Nat} {writer : Writer} {target : HoldingTarget}
    {readback : Option Holding} (authorized : Authorized C d id writer target)
    (matched : Matched C.edits d target readback) :
    Move C d (d.note (.verified id target.identity))
  /-- the baseline of a written target is confirmed from its readback -/
  | baseline {d : Durable} {id : Nat} {writer : Writer} {target : HoldingTarget}
    {readback : Option Holding} (authorized : Authorized C d id writer target)
    (verified : .verified id target.identity ∈ d.journal)
    (matched : readback.any (fun row => holdingOwnedFieldsMatch row target) = true) :
    Move C d (d.confirmBaseline id target.identity.text readback)
  /-- the operator accepts an external change as the baseline -/
  | acceptBaseline {d : Durable} {e : Effect} {change : ExternalChange} {current : Option Holding}
    (latest : d.db.effects.latest e.key = some e) (state : e.state ∈ previewable)
    (source : e.source = .externalChange change)
    (read : FreshRead C.edits d change.currency change.account change.broker current) :
    Move C d (d.confirmBaseline e.id change.identity current)
  /-- a failed confirmation records its targets -/
  | createTask {d : Durable} {id : Nat} {planned : List PlannedTarget}
    (task : Nat → CompensationTask CashTarget) (began : Began C d id planned)
    (targets : (task d.tasks.nextId).targets = planned.map PlannedTarget.cashTarget)
    (status : (task d.tasks.nextId).status = .pending)
    (taskId : (task d.tasks.nextId).taskId = d.tasks.nextId) :
    Move C d { d with tasks := d.tasks.create task taskId }
  /-- a failed confirmation points its version to the task -/
  | fail {d : Durable} {e : Effect} {planned : List PlannedTarget} {taskId : Nat}
    {task : CompensationTask CashTarget} {f : EffectColumns → EffectColumns} (event : EventBody)
    (get : d.db.effects.get e.id = some e) (state : e.state = .applying)
    (began : Began C d e.id planned) (task_get : d.tasks.getTask taskId = some task)
    (targets : task.targets = planned.map PlannedTarget.cashTarget)
    (state' : (f e.columns).state = .compensationPending)
    (taskId' : (f e.columns).compensationTaskId = some taskId)
    (targets' : (f e.columns).targets = e.columns.targets) :
    Move C d (d.update e.id f event)
  /-- a task changes its status -/
  | taskStatus {d : Durable} {taskId : Nat}
    (fold : CompensationTask CashTarget → CompensationTask CashTarget)
    (hid : ∀ t, (fold t).taskId = t.taskId) (targets : ∀ t, (fold t).targets = t.targets)
    (transition : ∀ t, d.tasks.getTask taskId = some t →
      (fold t).status ∈ t.status.transitions) :
    Move C d { d with tasks := d.tasks.setStatus taskId fold hid }
  /-- a confirmation whose targets were all read back is applied -/
  | finish {d : Durable} {e : Effect} {planned : List PlannedTarget}
    {f : EffectColumns → EffectColumns} (event : EventBody)
    (get : d.db.effects.get e.id = some e) (state : e.state = .applying)
    (state' : (f e.columns).state = .applied) (applies : event.applies = true)
    (began : Began C d e.id planned) (verified : ∀ p ∈ planned, .verified e.id p.mutation.identity ∈ d.journal) :
    Move C d (d.update e.id f event)
  /-- a resolved compensation whose targets were all read back is applied -/
  | finalize {d : Durable} {e : Effect} {taskId : Nat} {task : CompensationTask CashTarget}
    {f : EffectColumns → EffectColumns} (event : EventBody)
    (get : d.db.effects.get e.id = some e) (taskOf : TaskOf d e.id taskId task)
    (resolved : task.status = .resolved) (state' : (f e.columns).state = .applied)
    (applies : event.applies = true) (verified : ∀ t ∈ task.targets, .verified e.id t.mutation.identity ∈ d.journal) :
    Move C d (d.update e.id f event)

/-! ## What a write request does -/

/-- A write request changed the holdings table: it created a row, or changed the row it named. -/
inductive Wrote (d : Durable) (write : HoldingWrite) : Durable → Prop
  | created (base : write.base = none) (identity : write.identity = write.target.identity)
    (before : write.before = 0) (after : write.after = money write.target.values.quantity) :
    Wrote d write (d.write (d.remote.holdings.createRecord write.target d.remote.today) write)
  | changed {row current : Holding} (base : write.base = some row)
    (find : d.remote.holdings.rows.find? (fun h => h.recordId = row.recordId) = some current)
    (identity : write.identity = current.identity)
    (before : write.before = money current.values.quantity)
    (after : write.after = money (write.target.applyTo current.values).quantity) :
    Wrote d write
      (d.write (d.remote.holdings.updateRecord row.recordId write.target d.remote.today) write)

/-- What the journal says a write request was made for. -/
structure WriteOf (e : Effect) (writer : Writer) (target : HoldingTarget) (base : Option Holding)
    (d : Durable) (write : HoldingWrite) : Prop where
  /-- the effect -/
  effect : write.effect = e
  /-- who made it -/
  writer : write.writer = writer
  /-- the target -/
  target : write.target = target
  /-- the base it was compared with -/
  base : write.base = base
  /-- the latest version of the record -/
  latest : write.latest = (d.db.effects.get e.id).bind fun a => d.db.effects.latest a.key

/-- A write request writes one holding and says so in the journal, or finds no row. -/
theorem send_cases (e : Effect) (writer : Writer) (target : HoldingTarget) (base : Option Holding)
    (d : Durable) : (Storage.send e writer target base d).2 = d ∨
      ∃ write, WriteOf e writer target base d write ∧
        Wrote d write (Storage.send e writer target base d).2 := by
  unfold Storage.send
  cases base with
  | none =>
    let write : HoldingWrite :=
      { effect := e
        latest := (d.db.effects.get e.id).bind fun a => d.db.effects.latest a.key
        writer := writer
        target := target
        base := none
        identity := target.identity
        before := 0
        after := money target.values.quantity }
    have hwrote : Wrote d write
        (d.write (d.remote.holdings.createRecord target d.remote.today) write) :=
      .created rfl rfl rfl rfl
    exact .inr ⟨write, ⟨rfl, rfl, rfl, rfl, rfl⟩, hwrote⟩
  | some row =>
    cases hfind : d.remote.holdings.rows.find? fun h => h.recordId = row.recordId with
    | none => simp only [hfind]; exact .inl trivial
    | some current =>
      let write : HoldingWrite :=
        { effect := e
          latest := (d.db.effects.get e.id).bind fun a => d.db.effects.latest a.key
          writer := writer
          target := target
          base := some row
          identity := current.identity
          before := money current.values.quantity
          after := money (target.applyTo current.values).quantity }
      have hwrote : Wrote d write
          (d.write (d.remote.holdings.updateRecord row.recordId target d.remote.today) write) :=
        .changed rfl hfind rfl rfl rfl
      simp only [hfind]
      exact .inr ⟨write, ⟨rfl, rfl, rfl, rfl, rfl⟩, hwrote⟩

section
variable {d d' : Durable} {write : HoldingWrite}

theorem Wrote.db (h : Wrote d write d') : d'.db = d.db := by cases h <;> rfl

theorem Wrote.tasks (h : Wrote d write d') : d'.tasks = d.tasks := by cases h <;> rfl

theorem Wrote.journal (h : Wrote d write d') : d'.journal = .wrote write :: d.journal := by
  cases h <;> rfl

end

/-- A write request touches neither the database nor the tasks, and adds at most one entry. -/
theorem send_kept (e : Effect) (writer : Writer) (target : HoldingTarget) (base : Option Holding)
    (d : Durable) : (Storage.send e writer target base d).2.db = d.db ∧
      (Storage.send e writer target base d).2.tasks = d.tasks ∧
      d.journal <:+ (Storage.send e writer target base d).2.journal := by
  rcases send_cases e writer target base d with h | ⟨write, -, h⟩
  · rw [h]
    exact ⟨rfl, rfl, List.suffix_rfl⟩
  · exact ⟨h.db, h.tasks, h.journal ▸ List.suffix_cons _ _⟩

/-! ## The journal -/

/-- A step adds at most one entry to the journal. -/
theorem Move.journal_step {C : CallContext} {d d' : Durable} (h : Move C d d') :
    d'.journal = d.journal ∨ ∃ entry, d'.journal = entry :: d.journal := by
  cases h with
  | drift | store | createTask | fail | taskStatus | finish | finalize => exact .inl rfl
  | begin | verify | baseline | acceptBaseline => exact .inr ⟨_, rfl⟩
  | @send e writer target base =>
    rcases send_cases e writer target base d with h | ⟨write, -, h⟩
    · exact .inl (congrArg Durable.journal h)
    · exact .inr ⟨_, h.journal⟩

/-- The journal only grows. -/
theorem Move.journal {C : CallContext} {d d' : Durable} (h : Move C d d') :
    d.journal <:+ d'.journal := by
  rcases h.journal_step with h | ⟨entry, h⟩
  · exact h ▸ List.suffix_rfl
  · exact h ▸ List.suffix_cons _ _

theorem Move.journal_path {C : CallContext} {d d' : Durable} (h : ReflTransGen (Move C) d d') :
    d.journal <:+ d'.journal :=
  Prog.path_invariant (I := fun x => d.journal <:+ x.journal) (fun _ _ hmove h => h.trans hmove.journal)
    h List.suffix_rfl

/-- The step that adds a beginning begins. -/
theorem Move.began {C : CallContext} {d d' : Durable} (h : Move C d d') {e : Effect}
    {payload : PreviewPayload} {planned : List PlannedTarget}
    (hadd : d'.journal = .began e payload planned :: d.journal) :
    d.db.effects.latest e.key = some e ∧ e.state = .previewed ∧
      (∃ requested, C.confirms e requested payload ∧ Computed C.edits d e requested payload) ∧
      SourceCurrent C.edits d e ∧ payload.mode = .apply ∧
      List.Forall₂ (BoundTo C.edits d) payload.rows planned ∧
      ∃ f event, d' = (d.update e.id f event).note (.began e payload planned) ∧
        (f e.columns).state = .applying := by
  cases h with
  | drift | store | createTask | fail | taskStatus | finish | finalize =>
    exact absurd hadd.symm (List.cons_ne_self _ _)
  | begin event latest state state' allowed current computed mode bound =>
    cases (List.cons.inj hadd).1
    exact ⟨latest, state, ⟨_, allowed, computed⟩, current, mode, bound, _, event, rfl, state'⟩
  | verify | baseline | acceptBaseline => exact nomatch (List.cons.inj hadd).1
  | @send a writer target base =>
    rcases send_cases a writer target base d with h | ⟨write, -, h⟩
    · rw [h] at hadd
      exact absurd hadd.symm (List.cons_ne_self _ _)
    · rw [h.journal] at hadd
      exact nomatch (List.cons.inj hadd).1

/-- The step that adds a write writes. -/
theorem Move.wrote {C : CallContext} {d d' : Durable} (h : Move C d d') {write : HoldingWrite}
    (hadd : d'.journal = .wrote write :: d.journal) :
    Authorized C d write.effect.id write.writer write.target ∧
      (write.writer = .compensation → C.compensates write.effect.id) ∧
      Saw C.edits d (fun r => r.holdings.freshBaseForTarget write.target) write.base ∧
      WriteOf write.effect write.writer write.target write.base d write ∧ Wrote d write d' := by
  cases h with
  | drift | store | createTask | fail | taskStatus | finish | finalize =>
    exact absurd hadd.symm (List.cons_ne_self _ _)
  | begin | verify | baseline | acceptBaseline => exact nomatch (List.cons.inj hadd).1
  | @send a writer target base authorized allowed fresh =>
    rcases send_cases a writer target base d with h | ⟨write', hof, h⟩
    · rw [h] at hadd
      exact absurd hadd.symm (List.cons_ne_self _ _)
    · have hjournal := hadd
      rw [h.journal] at hjournal
      cases (List.cons.inj hjournal).1
      obtain ⟨rfl, rfl, rfl, rfl, hlatest⟩ := hof
      exact ⟨authorized, allowed, fresh, ⟨rfl, rfl, rfl, rfl, hlatest⟩, h⟩

/-! ## Entries since the start of a call -/

section
variable {C : CallContext} {d₀ d d' : Durable} {entry : JournalEntry}

theorem Since.mem (h : Since d₀ d entry) : entry ∈ d.journal := by
  obtain ⟨new, hnew, hmem⟩ := h
  exact hnew ▸ List.mem_append_left _ hmem

theorem Since.irrefl : ¬ Since d d entry := by
  rintro ⟨new, hnew, hmem⟩
  rw [List.append_left_eq_self.mp hnew] at hmem
  cases hmem

theorem Since.mono (h : Since d₀ d entry) (hjournal : d.journal <:+ d'.journal) :
    Since d₀ d' entry := by
  obtain ⟨new, hnew, hmem⟩ := h
  obtain ⟨newer, hnewer⟩ := hjournal
  exact ⟨newer ++ new, by rw [List.append_assoc, hnew, hnewer], List.mem_append_right _ hmem⟩

/-- An entry is there since the start, or it was there before. -/
theorem Since.of_mem (hpath : d₀.journal <:+ d.journal) (h : entry ∈ d.journal) :
    Since d₀ d entry ∨ entry ∈ d₀.journal := by
  obtain ⟨new, hnew⟩ := hpath
  rw [← hnew] at h
  rcases List.mem_append.mp h with h | h
  · exact .inl ⟨new, hnew, h⟩
  · exact .inr h

/-- An entry that is new since the start of a path was added by one of its steps. -/
theorem Since.step (hpath : ReflTransGen (Move C) d₀ d) (h : Since d₀ d entry) :
    ∃ a b, ReflTransGen (Move C) d₀ a ∧ Move C a b ∧ ReflTransGen (Move C) b d ∧
      b.journal = entry :: a.journal := by
  obtain ⟨a, b, ha, hmove, hb, hnot, hin⟩ := Prog.path_crossing
    (I := fun x => Since d₀ x entry) hpath Since.irrefl h
  refine ⟨a, b, ha, hmove, hb, ?_⟩
  obtain ⟨old, hold⟩ := Move.journal_path ha
  obtain ⟨new, hnew, hmem⟩ := hin
  rcases hmove.journal_step with hsame | ⟨entry', hadd⟩
  · exact absurd ⟨new, hnew.trans hsame, hmem⟩ hnot
  · have heq : new = entry' :: old := by
      refine List.append_cancel_right (show new ++ d₀.journal = entry' :: old ++ d₀.journal from ?_)
      rw [hnew, hadd, ← hold, List.cons_append]
    rw [heq] at hmem
    rcases List.mem_cons.mp hmem with rfl | hmem
    · exact hadd
    · exact absurd ⟨old, hold, hmem⟩ hnot

end

end PortfolioManagement
