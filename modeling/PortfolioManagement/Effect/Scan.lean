import PortfolioManagement.Effect.World

/-!
# The scan

`_commit_scan` compares the ledger and the CASH holdings with the effect store in one transaction:
a version for every new or changed row, a tombstone for every row that disappeared, and for every
known or observed CASH identity a decision about its drift from the confirmed baseline.
-/

namespace PortfolioManagement

/-! ## Operations of a version -/

/-- `_cash_flow_operations`: the deltas a version asks for, against the newest applied version below
it. A record that moved gives its old identity back what was applied there. -/
def EffectTable.cashFlowOperations (t : EffectTable) (e : Effect) : List (Source × Cents) :=
  match t.previousApplied e.id with
  | none => [(e.source, e.source.amountOrZero)]
  | some previous =>
    if previous.source.sourceIdentity = e.source.sourceIdentity then
      [(e.source, e.source.amountOrZero - previous.source.amountOrZero)]
    else
      [(previous.source, -previous.source.amountOrZero),
        (e.source, e.source.amountOrZero)].filter fun op => op.2 ≠ 0

/-- `_identity(CASH_ASSETS[currency], source["account"], source["broker"])`. -/
def Source.cashIdentity (s : Source) (c : Currency) : String :=
  identityText c.cashAsset (formatText s.account) (formatText s.broker)

/-! ## Rows of the ledger -/

/-- What a scan makes of a row. -/
structure Discovery where
  /-- the source -/
  source : Source
  /-- the mode a new version gets -/
  mode : EffectMode
  /-- the state a new version gets -/
  state : EffectState
  /-- why the row is blocked -/
  error : Option String
deriving DecidableEq

/-- The mode of a row: rows before the cutover are recorded only. -/
def flowMode (cutover : Date) (flow : CashFlow) : EffectMode :=
  if (flow.flowDate.getD 0) < cutover then .recordOnly else .apply

/-- The `try` of the row loop: the completed source with its mode and state. -/
def completedDiscovery (r : Remote) (cutover : Date) (flow : CashFlow) :
    Except Error Discovery := do
  let source ← sourceFromCashFlow flow
  let mode := flowMode cutover flow
  let state ← r.initialState source mode
  return ⟨source, mode, state, none⟩

/-- What a scan makes of a row; a row that does not complete is kept raw and blocked. -/
def discover (r : Remote) (cutover : Date) (flow : CashFlow) : Discovery :=
  match completedDiscovery r cutover flow with
  | .ok found => found
  | .error e => ⟨rawSource flow, .apply, .blocked, some e.message⟩

/-- An account-scoped scan passes over rows that neither are nor were of the account. -/
def outOfScope (account : Option String) (flow : CashFlow) (latest : Option Effect) : Bool :=
  match account with
  | none => false
  | some a => a ≠ "" && flow.account ≠ some a && latest.map Effect.account ≠ some a

/-- `_defer_source_change`: note a change once while a compensation is pending. -/
def deferSourceChange (e : Effect) (newSource : Source) : Tx Bool := do
  let event := EventBody.sourceChangeDeferred e.sourceHash (sourceHash newSource)
  let known ← Prog.reads fun db => (db.listEvents e.id).any fun ev =>
    match ev.body with
    | .sourceChangeDeferred _ new => new = sourceHash newSource
    | _ => false
  if known then return false
  else do
    Store.appendEvent e.id event
    return true

/-- The new version of a discovered row. -/
def createDiscovered (found : Discovery) : Tx Unit := do
  let e ← Store.createVersion .cashFlow found.source found.mode found.state .discovered
  match found.error with
  | none => return ()
  | some error =>
    let _ ← Store.updateEffect e.id (fun c => { c with lastError := some error })
      (.blocked error) [.blocked]
    return ()

/-- One row of the scan. -/
def scanFlow (r : Remote) (cutover : Date) (account : Option String) (counts : ScanCounts)
    (flow : CashFlow) : Tx ScanCounts := do
  let latest ← Prog.reads fun db => db.effects.latest ⟨.cashFlow, flow.recordId⟩
  if outOfScope account flow latest then return counts
  else do
    let found := discover r cutover flow
    let counts := if found.error.isSome then { counts with blocked := counts.blocked + 1 }
      else counts
    match latest with
    | none =>
      createDiscovered found
      return { counts with added := counts.added + 1 }
    | some latest =>
      if latest.sourceHash = sourceHash found.source then
        if latest.state = .scheduled ∧ found.state = .pending then do
          let _ ← Store.updateEffect latest.id (fun c => { c with state := .pending })
            .scheduledActivated [.scheduled]
          return { counts with changed := counts.changed + 1 }
        else return counts
      else if latest.state = .compensationPending then do
        let deferred ← deferSourceChange latest found.source
        return if deferred then { counts with changed := counts.changed + 1 } else counts
      else do
        createDiscovered found
        return { counts with changed := counts.changed + 1 }

/-! ## Rows that disappeared -/

/-- The mode of a deletion a scan discovers. -/
def scanDeletionMode (latest : Effect) : EffectMode :=
  if latest.state = .applied ∧ latest.mode = .apply then .apply else .recordOnly

/-- The record ids a scan has seen. -/
def seenRecords (flows : List CashFlow) : List String :=
  (flows.map CashFlow.recordId).filter fun id => id ≠ ""

/-- The latest versions a scan of an account considers. -/
def inAccount (account : Option String) (e : Effect) : Bool :=
  match account with
  | none => true
  | some a => a = "" || e.account = a

/-- One latest version of the deletion loop. -/
def scanDeletion (seen : List String) (counts : ScanCounts) (latest : Effect) :
    Tx ScanCounts :=
  if latest.kind ≠ .cashFlow ∨ latest.recordId ∈ seen ∨ latest.source.isDeleted then
    return counts
  else if latest.state = .compensationPending then do
    let deferred ← deferSourceChange latest latest.source.deletion
    return if deferred then { counts with deleted := counts.deleted + 1 } else counts
  else do
    let _ ← Store.createVersion .cashFlow latest.source.deletion (scanDeletionMode latest) .pending
      .deletionDiscovered
    return { counts with deleted := counts.deleted + 1 }

/-! ## Holding fingerprints -/

/-- What the fingerprint loop computes before it starts. -/
structure DriftContext where
  /-- the observed CASH holdings -/
  holdings : List Holding
  /-- the fingerprints in scope -/
  known : List Fingerprint
  /-- the identities of pending compensations -/
  compensationIdentities : List String
  /-- the identities of active cash-flow effects, each with the sum of its operations -/
  activeFlows : List (String × Cents)
  /-- `bj_today()` -/
  today : Date

namespace DriftContext

/-- `cash_holdings.get(identity)`. -/
def holding (ctx : DriftContext) (identity : String) : Option Holding :=
  ctx.holdings.reverse.find? fun h => h.identity.text = identity

/-- `known.get(identity)`. -/
def fingerprint (ctx : DriftContext) (identity : String) : Option Fingerprint :=
  ctx.known.find? fun f => f.identity = identity

/-- `active_cash_flow_net[identity]`. -/
def activeNet (ctx : DriftContext) (identity : String) : Cents :=
  ((ctx.activeFlows.filter fun f => f.1 = identity).map Prod.snd).sum

/-- `sorted(set(cash_holdings) | set(known))`. -/
def identities (ctx : DriftContext) : List String :=
  (ctx.holdings.map (fun h => h.identity.text) ++ ctx.known.map Fingerprint.identity).dedup
    |>.insertionSort (· ≤ ·)

end DriftContext

/-- The identities of the targets of pending compensations. -/
def compensationIdentities (t : EffectTable) : List String :=
  (t.listLatest.filter fun e => e.state = .compensationPending).flatMap fun e =>
    e.targetsOrEmpty.map fun target => target.identity.text

/-- The active cash-flow effects: unresolved latest versions with a CASH currency. The operations
of an effect are all counted for the identity its current source names. -/
def activeFlows (t : EffectTable) : List (String × Cents) :=
  (t.listLatest.filter fun e => e.state ∈ EffectState.unresolved && e.kind = .cashFlow).filterMap
    fun e => e.source.cashCurrency.map fun c =>
      (e.source.cashIdentity c, ((t.cashFlowOperations e).map Prod.snd).sum)

/-- The context of the fingerprint loop. -/
def driftContext (db : Db) (holdings : List Holding) (account : Option String) (today : Date) :
    DriftContext where
  holdings := holdings
  known := db.listFingerprints account
  compensationIdentities := compensationIdentities db.effects
  activeFlows := activeFlows db.effects
  today := today

/-- The key of an identity's external changes. -/
def externalKey (identity : String) : EffectKey := ⟨.externalChange, "holding:" ++ identity⟩

/-- What the loop decides about an identity. -/
inductive Drift
  | compensationOwned
  | explainedByFlow
  | matchesBaseline
  | malformedIdentity
  | acceptedDuringCompensation
  | acceptAgain (existing : Effect)
  | accept (change : ExternalChange)
  | unchanged
  | deferred (existing : Effect) (change : ExternalChange)
  | discovered (change : ExternalChange)

/-- The source of a drift: a drift to the hash last surfaced keeps the date it was surfaced on. -/
def driftSource (ctx : DriftContext) (existing : Option Effect) (identity account broker
    currency : String) : ExternalChange :=
  let observed := ctx.holding identity
  let flowDate :=
    match existing with
    | some e => if e.source.observedHash = some (holdingHash observed) then e.flowDate
        else some ctx.today
    | none => some ctx.today
  let confirmed := ctx.fingerprint identity
  { identity := identity
    holdingRecordId := observed.map Holding.recordId
    flowDate := flowDate
    account := account
    broker := broker
    currency := currency
    observedAmount := holdingAmount observed
    observedHash := holdingHash observed
    lastConfirmedAmount :=
      if (confirmed.bind Fingerprint.lastConfirmedHash).isSome then
        confirmed.bind Fingerprint.lastConfirmedAmount
      else none }

/-- The drift is exactly what the active cash-flow effects of the identity ask for. -/
def explainedByFlow (ctx : DriftContext) (identity : String) : Bool :=
  ctx.activeFlows.any (fun f => f.1 = identity) &&
    match (ctx.fingerprint identity).bind Fingerprint.lastConfirmedAmount with
    | none => false
    | some confirmed => holdingAmount (ctx.holding identity) = confirmed + ctx.activeNet identity

/-- The currency part of an asset id: `asset_id.split("-", 1)[0]`. -/
def assetCurrency (assetId : String) : String :=
  String.ofList (assetId.toList.takeWhile (· ≠ '-'))

/-- The branches of the fingerprint loop, in order. -/
def drift (ctx : DriftContext) (existing : Option Effect) (identity : String) : Drift :=
  if identity ∈ ctx.compensationIdentities then .compensationOwned
  else if explainedByFlow ctx identity then .explainedByFlow
  else if (ctx.fingerprint identity).bind Fingerprint.lastConfirmedHash =
      some (holdingHash (ctx.holding identity)) then .matchesBaseline
  else match splitIdentity identity with
    | none => .malformedIdentity
    | some (assetId, account, broker) =>
      let change := driftSource ctx existing identity account broker (assetCurrency assetId)
      let source := Source.externalChange change
      match existing with
      | none => if broker ≠ futuBroker then .accept change else .discovered change
      | some e =>
        if broker ≠ futuBroker then
          if e.state = .compensationPending then .acceptedDuringCompensation
          else if e.sourceHash = sourceHash source then .acceptAgain e
          else .accept change
        else if e.sourceHash = sourceHash source then .unchanged
        else if e.state = .compensationPending then .deferred e change
        else .discovered change

/-- Confirm the baseline of an observed holding. -/
def confirmObserved (identity : String) (observed : Option Holding) (effectId : Option Nat) :
    Tx Unit :=
  Store.confirmFingerprint identity (observed.map Holding.recordId) (holdingAmount observed)
    (holdingHash observed) effectId

/-- What the loop does about a decision; it returns the number of changes. -/
def settleDrift (ctx : DriftContext) (existing : Option Effect) (identity : String) :
    Drift → Tx Nat
  | .compensationOwned => return 0
  | .explainedByFlow => return 0
  | .matchesBaseline =>
    match existing with
    | none => return 0
    | some e =>
      if e.state ∈ EffectState.resolvable then do
        let _ ← Store.updateEffect e.id (fun c => { c with state := .applied })
          .resolvedByObservation EffectState.resolvable
        return 1
      else return 0
  | .malformedIdentity => Prog.raise (.value "not enough values to unpack (expected 3)")
  | .acceptedDuringCompensation => return 0
  | .acceptAgain e => do
    let accepted ← Store.updateEffect e.id
      (fun _ => { state := .recordOnly, confirmation := some .automaticPolicy })
      (.manualBaselineAutoAccepted identity) (EffectState.terminal ++ EffectState.resolvable)
    confirmObserved identity (ctx.holding identity) (some accepted.id)
    return 1
  | .accept change => do
    let created ← Store.createVersion .externalChange (.externalChange change) .recordOnly
      .recordOnly .manualBaselineAutoAccepted
    let accepted ← Store.updateEffect created.id
      (fun c => { c with confirmation := some .automaticPolicy })
      (.manualBaselineConfirmed identity) [.recordOnly]
    confirmObserved identity (ctx.holding identity) (some accepted.id)
    return 1
  | .unchanged => return 0
  | .deferred e change => do
    let deferred ← deferSourceChange e (.externalChange change)
    return if deferred then 1 else 0
  | .discovered change => do
    let _ ← Store.createVersion .externalChange (.externalChange change) .apply .pending
      .externalHoldingChange
    return 1

/-- One identity of the fingerprint loop. -/
def scanHolding (ctx : DriftContext) (changed : Nat) (identity : String) : Tx Nat := do
  let observed := ctx.holding identity
  Store.observeFingerprint identity (observed.map Holding.recordId) (holdingAmount observed)
    (holdingHash observed)
  let existing ← Prog.reads fun db => db.effects.latest (externalKey identity)
  let n ← settleDrift ctx existing identity (drift ctx existing identity)
  return changed + n

/-- `_scan_holding_fingerprints`. -/
def scanHoldingFingerprints (holdings : List Holding) (account : Option String) (today : Date) :
    Tx Nat := do
  let ctx ← Prog.reads fun db => driftContext db holdings account today
  Prog.fold ctx.identities 0 (scanHolding ctx)

/-! ## The whole scan -/

/-- The digested rows in the order of their record ids. Python cannot order two different rows of
one record id. -/
def digestRows (flows : List CashFlow) : Except Error (List CashFlow) :=
  if flows.any fun a => flows.any fun b => a.recordId = b.recordId && a ≠ b then
    .error ⟨.typeError, "'<' not supported between instances of 'dict' and 'dict'"⟩
  else .ok (flows.insertionSort fun a b => a.recordId ≤ b.recordId)

/-- `source_digest`. -/
def scanDigest (flows : List CashFlow) (holdings : List Holding) : Except Error ScanDigest := do
  let rows ← digestRows flows
  return .of (rows, (holdings.insertionSort fun a b => a.recordId ≤ b.recordId).map fun h =>
    holdingPayload (some h))

/-- `assert_cutover`. -/
def assertCutover (configured : Option Date) (stored : Date) : Except Error Date :=
  match configured with
  | none => .error (.runtime
      "cash-flow effect cutover config is missing after database activation")
  | some requested =>
    if requested ≠ stored then
      .error (.runtime "cash-flow effect cutover_date is immutable")
    else .ok stored

/-- The result of a completed scan. -/
structure ScanResult where
  /-- the finished run -/
  scanRun : ScanRun
  /-- the counts -/
  counts : ScanCounts
  /-- the digest -/
  sourceDigest : ScanDigest
deriving DecidableEq

/-- The ledger part of `_commit_scan`: rows first, then the rows that disappeared. -/
def scanLedger (r : Remote) (cutover : Date) (flows : List CashFlow) (account : Option String) :
    Tx ScanCounts := do
  let counts ← Prog.fold flows {} (scanFlow r cutover account)
  let latest ← Prog.reads fun db => db.effects.listLatest.filter (inAccount account)
  Prog.fold latest counts (scanDeletion (seenRecords flows))

/-- `account or "all"`. -/
def scanScope (account : Option String) : String :=
  match account with
  | none => "all"
  | some "" => "all"
  | some a => a

/-- `_commit_scan`. -/
def commitScan (r : Remote) (flows : List CashFlow) (holdings : List Holding)
    (account : Option String) (scanRunId : Nat) (enqueueReceipts : Bool) : Tx ScanResult := do
  let stored ← Prog.reads Db.cutover
  let cutover ← Prog.lift (assertCutover r.configuredCutover stored)
  let counts ← scanLedger r cutover flows account
  let holdingChanges ← scanHoldingFingerprints holdings account r.today
  let counts := { counts with changed := counts.changed + holdingChanges }
  let digest ← Prog.lift (scanDigest flows holdings)
  let scan ← Store.finishScan scanRunId fun run =>
    { run with
      status := .completed
      sourceRecordCount := some flows.length
      sourceDigest := some digest
      counts := counts }
  Prog.onlyIf (enqueueReceipts ∧ counts ≠ {})
    (Store.enqueueReceipt (.discovery digest) (some (scanScope account)))
  return ⟨scan, counts, digest⟩

/-- The rows a scan works on: the ledger, or the frozen dataset of a NAV run. -/
def scanFlows (account : Option String) : Option CashFlowDataset → M (List CashFlow)
  | none => Storage.getCashFlows
  | some dataset =>
    match account with
    | none => M.throw (.value "cash_flow_dataset requires an account-scoped effect scan")
    | some a =>
      if dataset.account ≠ a then
        M.throw (.value "cash_flow_dataset account does not match effect scan scope")
      else if dataset.blockers ≠ [] then
        M.throw (.value "cash_flow_dataset blockers prevent effect scan")
      else do
        let flows := dataset.completedRows.map CompletedCashFlowFacts.toCashFlow
        Prog.alter fun w => { w with flowsRead := some flows }
        return flows

/-- The body of `scan`: complete reads, then one transaction. -/
def scanBody (account : Option String) (enqueueReceipts : Bool)
    (dataset : Option CashFlowDataset) (previousScan : Option ScanRun) : M ScanResult := do
  let flows ← scanFlows account dataset
  let holdings ← Storage.getCashHoldingsFresh account
  let r ← Prog.reads fun w => w.remote
  M.commit do
    let runId ← Store.beginScan (scanScope account)
    let result ← commitScan r flows holdings account runId enqueueReceipts
    Prog.onlyIf (enqueueReceipts ∧ previousScan.map ScanRun.status = some .failed)
      (Store.enqueueReceipt (.scanRecovered runId) (some (scanScope account)))
    return result

/-- The failed run a raising scan leaves behind. -/
def recordFailedScan (account : Option String) (enqueueReceipts : Bool)
    (previousScan : Option ScanRun) (exc : Error) : M Unit :=
  M.commit do
    let failed ← Store.beginScan (scanScope account)
    let _ ← Store.finishScan failed fun run =>
      { run with status := .failed, error := some exc.message }
    Prog.onlyIf (enqueueReceipts ∧ previousScan.map ScanRun.status ≠ some .failed)
      (Store.enqueueReceipt (.scanError failed) (some (scanScope account)))

/-- `scan`: a partial read never becomes a successful run. -/
def scan (account : Option String) (enqueueReceipts : Bool)
    (dataset : Option CashFlowDataset) : M ScanResult := do
  let previousScan ← Prog.reads fun w => w.db.latestScan (scanScope account)
  M.tryCatch (scanBody account enqueueReceipts dataset previousScan) fun exc => do
    recordFailedScan account enqueueReceipts previousScan exc
    M.throw exc

end PortfolioManagement
