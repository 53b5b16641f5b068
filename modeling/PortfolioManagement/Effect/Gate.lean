import PortfolioManagement.Effect.Confirm

/-!
# Gate, audit and runs

The NAV gate reads the store after a scan of its own and reports every latest version that still
blocks the account. The file ends with the calls a run is made of: a run is a sequence of service
calls and third-party edits, each call with the accesses that will go wrong in it.
-/

namespace PortfolioManagement

/-! ## Blockers -/

/-- `_is_nav_blocker`. A version without a date raises. -/
def isNavBlocker (e : Effect) (navDate : Date) : Except Error Bool :=
  if e.state ∈ EffectState.terminal ∨ e.state.isSuperseded then .ok false
  else match e.flowDate with
    | none => .error (.value "Invalid isoformat string: ''")
    | some flowDate => .ok !(e.state = .scheduled && navDate < flowDate)

/-- One step of the comprehension of `_blockers_for_account`. -/
def collectBlocker (account : String) (navDate : Date) (acc : List Effect) (e : Effect) :
    M (List Effect) := do
  let accounts ← effectAccounts e
  if account ∈ accounts then do
    let blocks ← M.ofExcept (isNavBlocker e navDate)
    return if blocks then acc ++ [e] else acc
  else return acc

/-- `_blockers_for_account`. -/
def blockersForAccount (account : String) (navDate : Date) : M (List Effect) := do
  let latest ← Prog.reads fun w => w.db.effects.listLatest
  Prog.fold latest [] (collectBlocker account navDate)

/-- An operation in a blocker payload. -/
structure BlockerOperation where
  /-- `account` -/
  account : Option String
  /-- `broker` -/
  broker : Option String
  /-- `currency` -/
  currency : Option String
  /-- `signed_amount` -/
  signedAmount : Cents
  /-- `flow_date` -/
  flowDate : Option Date
deriving DecidableEq

/-- `_nav_blocker_payload`. -/
structure NavBlocker where
  /-- `effect_id` -/
  effectId : Nat
  /-- `effect_kind` -/
  kind : EffectKind
  /-- `state` -/
  state : EffectState
  /-- `record_id` -/
  recordId : String
  /-- `operations` -/
  operations : List BlockerOperation
  /-- `last_error` -/
  lastError : Option String
deriving DecidableEq

/-- The operation of a blocker shown for a source and a delta. -/
def blockerOperation (s : Source) (delta : Cents) : BlockerOperation :=
  ⟨s.account, s.broker, s.currency, delta, s.flowDate⟩

/-- `_nav_blocker_payload`: the operations on the account, or the version's own columns. -/
def navBlockerPayload (t : EffectTable) (account : String) (e : Effect) : NavBlocker :=
  let operations :=
    if e.kind = .cashFlow then
      ((t.cashFlowOperations e).filter fun op => op.1.account = some account).map fun op =>
        blockerOperation op.1 op.2
    else []
  let operations :=
    if operations = [] ∧ (e.kind ≠ .cashFlow ∨ e.account = account) then
      [blockerOperation e.source e.source.amountOrZero]
    else operations
  ⟨e.id, e.kind, e.state, e.recordId, operations, e.columns.lastError⟩

/-! ## Gate and audit -/

/-- The result of `nav_gate`. -/
structure GateResult where
  /-- no blocker -/
  success : Bool
  /-- the scan the result rests on -/
  scanRunId : Nat
  /-- the blockers -/
  blockers : List NavBlocker
deriving DecidableEq

/-- The dataset must be that of the gate. -/
def requireGateDataset (account : String) (navDate : Date) : Option CashFlowDataset → M Unit
  | none => return ()
  | some dataset =>
    if dataset.account ≠ account then
      M.throw (.value "cash_flow_dataset account does not match NAV gate")
    else if dataset.navDate ≠ navDate then
      M.throw (.value "cash_flow_dataset nav_date does not match NAV gate")
    else return ()

/-- `nav_gate`. -/
def navGate (account : String) (navDate : Date) (dataset : Option CashFlowDataset) :
    M GateResult := do
  requireGateDataset account navDate dataset
  let scanned ← scan (some account) false dataset
  let blockers ← blockersForAccount account navDate
  let t ← Prog.reads fun w => w.db.effects
  return ⟨blockers.isEmpty, scanned.scanRun.id, blockers.map (navBlockerPayload t account)⟩

/-- `list_effects` by every affected account. -/
def listEffects (account : Option String) : M (List Effect) := do
  let latest ← Prog.reads fun w => w.db.effects.listLatest
  match account with
  | none => return latest
  | some "" => return latest
  | some a => Prog.fold latest [] fun acc e => do
      let accounts ← effectAccounts e
      return if a ∈ accounts then acc ++ [e] else acc

/-- What `audit` accumulates. -/
structure AuditResult where
  /-- `finalized_compensations` -/
  finalized : List Nat
  /-- `correction_effects` -/
  corrections : List Nat
  /-- `errors` -/
  errors : List (Nat × String)
deriving DecidableEq

/-- The `try` of the audit loop. -/
def auditOne (acc : AuditResult) (e : Effect) : M AuditResult := do
  let updated ← finalizeCompensationIfResolved e
  if updated.state = .applied then
    match ← currentCashFlowSource updated with
    | some correction => return { acc with
        finalized := acc.finalized ++ [e.id]
        corrections := acc.corrections ++ [correction] }
    | none => return { acc with finalized := acc.finalized ++ [e.id] }
  else return acc

/-- One latest version of the audit loop. -/
def auditEffect (acc : AuditResult) (e : Effect) : M AuditResult :=
  if e.state ≠ .compensationPending then return acc
  else M.tryCatch (auditOne acc e) fun exc =>
    return { acc with errors := acc.errors ++ [(e.id, exc.message)] }

/-- `audit`, with the blockers it reports. -/
def audit (account : Option String) : M (AuditResult × List Effect) := do
  let effects ← listEffects account
  let result ← Prog.fold effects ⟨[], [], []⟩ auditEffect
  let w ← Prog.read
  match account with
  | none => return (result, w.db.effects.listLatest.filter fun e => e.state ∈ EffectState.unresolved)
  | some "" =>
    return (result, w.db.effects.listLatest.filter fun e => e.state ∈ EffectState.unresolved)
  | some a => do
    let blockers ← blockersForAccount a w.remote.today
    return (result, blockers)

/-- `review`: a scan, an audit, and the unresolved effects. -/
def review (account : Option String) : M (ScanResult × AuditResult × List Effect) := do
  let scanned ← scan account false none
  let (audited, _) ← audit account
  let effects ← listEffects account
  return (scanned, audited, effects.filter fun e => e.state ∈ EffectState.unresolved)

/-! ## Runs -/

/-- A call of the service. -/
inductive Call
  | scan (account : Option String) (enqueueReceipts : Bool) (dataset : Option CashFlowDataset)
  | preview (effectId : Nat) (action : Option ExternalAction) (historicalApply : Bool)
  | confirm (effectId : Nat) (previewHash : PreviewHash) (action : Option ExternalAction)
      (historicalApply : Bool)
  | recordOnly (effectId : Nat)
  | retry (effectId : Nat)
  | audit (account : Option String)
  | review (account : Option String)
  | navGate (account : String) (navDate : Date) (dataset : Option CashFlowDataset)

/-- The program of a call, without its result. -/
def Call.program : Call → M Unit
  | .scan account enqueue dataset =>
    Prog.discard (PortfolioManagement.scan account enqueue dataset)
  | .preview id action historical =>
    Prog.discard (PortfolioManagement.preview id action historical)
  | .confirm id hash action historical =>
    Prog.discard (PortfolioManagement.confirm id hash action historical none)
  | .recordOnly id => Prog.discard (PortfolioManagement.recordOnly id)
  | .retry id => Prog.discard (PortfolioManagement.retry id)
  | .audit account => Prog.discard (PortfolioManagement.audit account)
  | .review account => Prog.discard (PortfolioManagement.review account)
  | .navGate account date dataset =>
    Prog.discard (PortfolioManagement.navGate account date dataset)

/-- A step of a run: third parties change the remote side, or a call runs to its end, to an
exception or to the point where its process stops. -/
inductive Step
  | edit (remote : Remote)
  | call (request : Call) (remoteTicks : List Tick) (localOutcomes : List Outcome)

/-- The durable state at the start of a call. -/
def Durable.start (d : Durable) : Durable := { d with earlier := [] }

/-- A call starts with its own schedule and a fresh service instance. -/
def World.start (w : World) (remoteTicks : List Tick) (localOutcomes : List Outcome) : World :=
  ⟨w.toDurable.start, none, remoteTicks, localOutcomes⟩

/-- The world after a step. -/
def Step.next (w : World) : Step → World
  | .edit remote => { w with remote := remote }
  | .call request remoteTicks localOutcomes =>
    { (request.program (w.start remoteTicks localOutcomes)).2 with
      flowsRead := none, remoteTicks := [], localOutcomes := [] }

/-- The world after a run. -/
def runSteps (w : World) (steps : List Step) : World := steps.foldl Step.next w

/-- A world in which no effect exists yet. Fingerprints may have been initialized. -/
structure World.Initial (w : World) : Prop where
  /-- no version -/
  effects : w.db.effects.rows = []
  /-- no event -/
  events : w.db.events = []
  /-- no task -/
  tasks : w.tasks.tasks = []
  /-- nothing happened -/
  journal : w.journal = []

end PortfolioManagement
