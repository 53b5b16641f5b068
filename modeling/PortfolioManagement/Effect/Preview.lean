import PortfolioManagement.Effect.Scan

/-!
# Previews

A preview computes the absolute targets of a version from fresh holdings and binds them in a hash.
Before it does, it reads the authoritative source again: a row that moved since the version was
discovered gets a correction version, and the older version can no longer be previewed.
-/

namespace PortfolioManagement

/-! ## Reading the source again -/

/-- The mode of a deletion discovered by reading the source again. -/
def rereadDeletionMode (e : Effect) : EffectMode :=
  if e.mode = .apply ∧ e.state ∈ [EffectState.applying, .applied] then .apply else .recordOnly

/-- What the authoritative ledger says about the record of an effect, with the event that names the
change. -/
def rereadDiscovery (r : Remote) (cutover : Date) (flows : List CashFlow) (e : Effect) :
    Discovery × CreationEvent :=
  match flows.find? fun flow => flow.recordId = e.recordId with
  | none => (⟨e.source.tombstone, rereadDeletionMode e, .pending, none⟩, .deletionDiscovered)
  | some current =>
    let found := discover r cutover current
    (found, if found.error.isSome then .sourceChangedBlocked else .sourceChanged)

/-- Persist the correction of a version whose source moved. -/
def createCorrection (e : Effect) (found : Discovery) (type : CreationEvent) : M Nat := do
  let created ← M.commit (Store.createVersion .cashFlow found.source found.mode found.state type)
  match found.error with
  | none => pure ()
  | some error =>
    let _ ← M.commit (Store.updateEffect created.id
      (fun c => { c with state := .blocked, lastError := some error }) (.blocked error) [.blocked])
  M.commit (Store.appendEvent e.id
    (.authoritativeSourceChanged e.sourceHash (sourceHash found.source) created.id))
  return created.id

/-- `_current_cash_flow_source`: the id of the correction version, when the source moved. -/
def currentCashFlowSource (e : Effect) : M (Option Nat) :=
  if e.kind ≠ .cashFlow then return none
  else do
    let flows ← Storage.getCashFlows
    let w ← Prog.read
    let (found, type) := rereadDiscovery w.remote w.db.cutover flows e
    if sourceHash found.source = e.sourceHash then return none
    else if e.state = .compensationPending then do
      let _ ← M.commit (deferSourceChange e found.source)
      return none
    else do
      let correction ← createCorrection e found type
      return some correction

/-! ## Targets -/

/-- `_fresh_holding` of a currency, an account and a broker. -/
def freshHoldingOf (currency account broker : String) : M (Option Holding) :=
  match Currency.ofText currency with
  | none => M.throw ⟨.keyError, "'" ++ currency ++ "'"⟩
  | some c => Storage.getHoldingFresh c.cashAsset account broker

/-- `_fresh_holding(source)`. -/
def freshHolding (s : Source) : M (Option Holding) :=
  freshHoldingOf (textOr s.currency) (textOr s.account) (textOr s.broker)

/-- The text of a source identity in a message. -/
def sourceIdentityText (s : Source) : String :=
  "('" ++ textOr s.account ++ "', '" ++ textOr s.broker ++ "', '" ++
    upper (textOr s.currency) ++ "')"

/-- `snapshot_cache.get(account)`, or `fetch_balances` of the account's provider. -/
def futuSnapshot (account : String) (cache : List (String × FutuSnapshot)) :
    M (FutuSnapshot × List (String × FutuSnapshot)) :=
  match cache.find? fun entry => entry.1 = account with
  | some entry => return (entry.2, cache)
  | none => do
    let snapshot ← M.readRemote fun r => r.fetchBalances account
    return (snapshot, (account, snapshot) :: cache)

/-- The balance of a currency with its evidence; a snapshot that lacks part of it is refused. -/
def futuBalance (snapshot : FutuSnapshot) (currency : String) :
    Except Error (Cents × FutuEvidence) :=
  match (snapshot.cashByCurrency.find? fun b => b.1 = currency).bind Prod.snd,
      snapshot.accountId, snapshot.profileFingerprint with
  | none, _, _ => .error (.runtime
      ("Futu OpenD response lacks authoritative " ++ currency ++ " cash"))
  | some _, none, _ => .error (.runtime "Futu observation lacks account_id evidence")
  | some balance, some accountId, profile =>
    if profile.getD "" = "" then
      .error (.runtime "Futu observation lacks profile fingerprint")
    else .ok (money balance,
      { source := snapshot.source
        accountId := accountId
        profileFingerprint := profile.getD ""
        cashByCurrency := snapshot.cashByCurrency.map fun b => (b.1, b.2.map money) })

/-- `_futu_target`: the authoritative balance of the source's currency with its evidence. Snapshots
are fetched once per account. -/
def futuTarget (s : Source) (cache : List (String × FutuSnapshot)) :
    M (Cents × FutuEvidence × List (String × FutuSnapshot)) := do
  let (snapshot, cache) ← futuSnapshot (textOr s.account) cache
  let (balance, evidence) ← M.ofExcept (futuBalance snapshot (textOr s.currency))
  return (balance, evidence, cache)

/-- `_target_holding`, serialized: the fresh row with the target quantity, or a new CASH row. -/
def targetHolding (before : Option Holding) (s : Source) (amount : Cents) :
    Except Error HoldingState :=
  match before with
  | some row => .ok ⟨row.identity, { row.values with quantity := amount.toDecimal }⟩
  | none =>
    match Currency.ofText (textOr s.currency) with
    | none => .error ⟨.keyError, "'" ++ textOr s.currency ++ "'"⟩
    | some c => do
      let identity ← HoldingIdentity.make c.cashAsset (textOr s.account) (textOr s.broker)
      return ⟨identity,
        { assetName := c.cashName
          assetType := .cash
          quantity := amount.toDecimal
          avgCost := none
          currency := c.value
          assetClass := some .cash
          industry := some .cash
          tag := [] }⟩

/-! ## Detecting what is already reflected -/

/-- The two decisions of `_detect_reflection_action`. -/
inductive Reflection
  | alreadyReflected
  | applyDelta
deriving DecidableEq, Repr

/-- The action a decision stands for. -/
def Reflection.action : Reflection → ExternalAction
  | .alreadyReflected => .alreadyReflected
  | .applyDelta => .applyDelta

/-- One row of the detection. -/
structure DetectionRow where
  /-- the identity text -/
  identity : String
  /-- the fresh amount -/
  current : Cents
  /-- the baseline the fresh amount is compared with -/
  baseline : Option Cents
  /-- the net delta of the operations on the identity -/
  delta : Cents
deriving DecidableEq

namespace DetectionRow

/-- The decision of a row, if it has one. -/
def decision (row : DetectionRow) : Option Reflection :=
  match row.baseline with
  | none => none
  | some baseline =>
    if row.current = baseline + row.delta then some .alreadyReflected
    else if row.current = baseline then some .applyDelta
    else none

/-- The row in the message of an ambiguous detection. -/
def text (row : DetectionRow) : String :=
  match splitIdentity row.identity with
  | none => row.identity
  | some (assetId, _, broker) =>
    broker ++ "/" ++ assetCurrency assetId ++ " current=" ++ row.current.text ++
      " baseline=" ++ (match row.baseline with | some b => b.text | none => "unset") ++
      " baseline+event=" ++
        (match row.baseline with | some b => (b + row.delta).text | none => "None")

end DetectionRow

/-- The identity of an operation, when its currency has a CASH asset. -/
def operationIdentity (s : Source) : Option String := s.cashCurrency.map s.cashIdentity

/-- The identities of the operations, in order of first occurrence. -/
def operationIdentities (operations : List (Source × Cents)) : List String :=
  (operations.filterMap fun op => operationIdentity op.1).reverse.dedup.reverse

/-- The net delta of the operations on an identity. -/
def operationNet (operations : List (Source × Cents)) (identity : String) : Cents :=
  ((operations.filter fun op => operationIdentity op.1 = some identity).map Prod.snd).sum

/-- The baseline the detection compares with: the amount before the last external change, else the
confirmed amount. -/
def detectionBaseline (db : Db) (identity : String) : Option Cents :=
  ((db.effects.latest (externalKey identity)).bind fun e => e.source.lastConfirmedAmount).or
    (db.confirmedAmount identity)

/-- The rows of `_detect_reflection_action`. -/
def detectionRows (db : Db) (operations : List (Source × Cents))
    (holdings : List (String × Option Holding)) : List DetectionRow :=
  (operationIdentities operations).map fun identity =>
    { identity := identity
      current := holdingAmount ((holdings.find? fun h => h.1 = identity).bind Prod.snd)
      baseline := detectionBaseline db identity
      delta := operationNet operations identity }

/-- The action of `_detect_reflection_action`: every row has a baseline and all rows that match
something agree. -/
def detectedAction (rows : List DetectionRow) : Option Reflection :=
  if rows.all fun row => row.baseline.isSome then
    match rows.filterMap DetectionRow.decision with
    | [] => none
    | first :: rest => if rest.all fun d => d = first then some first else none
  else none

/-! ## `_build_preview` -/

/-- What the row loop of `_build_preview` accumulates. -/
structure PreviewRows where
  /-- the target rows so far -/
  rows : List TargetRow
  /-- the warnings so far -/
  warnings : List String
  /-- the Futu snapshots fetched so far -/
  snapshots : List (String × FutuSnapshot)
  /-- the holding an external change accepts as its baseline -/
  accepted : Option HoldingPayload

/-- The outcome of one operation: an amount with its provenance, or an accepted baseline. -/
inductive TargetChoice
  | amount (target : Cents) (source : TargetSource) (evidence : Option FutuEvidence)
      (warnings : List String) (snapshots : List (String × FutuSnapshot))
  | accept

/-- The branches of the row loop that determine a target. -/
def chooseTarget (e : Effect) (action : Option ExternalAction) (s : Source) (delta : Cents)
    (before : HoldingPayload) (snapshots : List (String × FutuSnapshot)) : M TargetChoice := do
  if e.kind = .reconciliation ∨ e.kind = .externalChange ∧ s.broker = some futuBroker then do
    let (target, evidence, snapshots) ← futuTarget s snapshots
    return .amount target .futuOpendCurrencyCash (some evidence) [] snapshots
  else if e.kind = .externalChange then
    match action with
    | some .acceptCurrent => return .accept
    | some .restore =>
      match e.source.lastConfirmedAmount with
      | none => M.throw (.value "external CASH change has no confirmed baseline to restore")
      | some confirmed => return .amount confirmed .lastConfirmedBaseline none [] snapshots
    | _ => M.throw (.value
        "non-Futu external CASH change requires external_action=accept_current or restore")
  else if s.broker = some futuBroker then do
    let (target, evidence, snapshots) ← futuTarget s snapshots
    let variance := target - (before.quantity + delta)
    let warnings := if variance = 0 then [] else
      ["Futu OpenD absolute cash differs from fresh holding plus event for " ++
        sourceIdentityText s ++ ": variance=" ++ variance.text]
    return .amount target .futuOpendCurrencyCash (some evidence) warnings snapshots
  else if action = some .alreadyReflected then
    return .amount before.quantity .manualCurrentIncludesEvent none
      ["operator declared that the fresh non-Futu holding already includes the event for " ++
        sourceIdentityText s] snapshots
  else
    let target := before.quantity + delta
    if target < 0 then
      M.throw (.value ("estimated non-Futu cash target cannot be negative for " ++
        sourceIdentityText s ++ ": " ++ target.text))
    else
      let warning := "target is estimated from fresh holding plus event for " ++
        sourceIdentityText s
      return .amount target .estimatedCurrentPlusEvent none [warning] snapshots

/-- The fresh holding of an operation: the one fetched for the detection, or a new read. -/
def operationHolding (fetched : List (String × Option Holding)) (s : Source) (c : Currency) :
    M (Option Holding) :=
  match (fetched.find? fun h => h.1 = s.cashIdentity c).bind Prod.snd with
  | some row => return some row
  | none => freshHolding s

/-- One operation of the row loop. -/
def previewRow (e : Effect) (action : Option ExternalAction)
    (fetched : List (String × Option Holding)) (acc : PreviewRows) (op : Source × Cents) :
    M PreviewRows :=
  match op.1.cashCurrency with
  | none => M.throw (.value
      ("unsupported target currency: " ++ upper (textOr op.1.currency)))
  | some c =>
    if textOr op.1.account = "" then M.throw (.value "target account is required")
    else if textOr op.1.broker = "" then M.throw (.value "target broker is required")
    else do
      let before ← operationHolding fetched op.1 c
      let choice ← chooseTarget e action op.1 op.2 (holdingPayload before) acc.snapshots
      match choice with
      | .accept => return { acc with accepted := some (holdingPayload before) }
      | .amount target source evidence warnings snapshots => do
        let state ← M.ofExcept (targetHolding before op.1 target)
        return { acc with
          rows := acc.rows ++ [⟨state.identity, holdingPayload before, state, op.2, source,
            evidence⟩]
          warnings := acc.warnings ++ warnings
          snapshots := snapshots }

/-- Fetch the fresh holding once per involved identity. -/
def fetchHolding (fetched : List (String × Option Holding)) (op : Source × Cents) :
    M (List (String × Option Holding)) :=
  match operationIdentity op.1 with
  | none => return fetched
  | some identity =>
    if fetched.any fun h => h.1 = identity then return fetched
    else do
      let row ← freshHolding op.1
      return fetched ++ [(identity, row)]

/-- The order of the row loop: by source identity. -/
def operationOrder (a b : Source × Cents) : Prop :=
  let x := a.1.sourceIdentity
  let y := b.1.sourceIdentity
  x.1 < y.1 ∨ x.1 = y.1 ∧ (x.2.1 < y.2.1 ∨ x.2.1 = y.2.1 ∧ x.2.2 ≤ y.2.2)

instance : DecidableRel operationOrder := fun a b => by unfold operationOrder; infer_instance

/-- The action the operator supplied is one a cash-flow effect accepts. -/
def explicitReflection (action : Option ExternalAction) : Bool :=
  action = some .applyDelta || action = some .alreadyReflected

/-- The automatic decision of a cash-flow preview, when the operator supplied none. -/
def resolveAction (operations : List (Source × Cents))
    (fetched : List (String × Option Holding)) (action : Option ExternalAction) :
    M (Option ExternalAction × List String) :=
  if (operations.any fun op => op.1.broker ≠ some futuBroker) && !explicitReflection action then do
    let rows ← Prog.reads fun w => detectionRows w.db operations fetched
    match detectedAction rows with
    | none => M.throw (.value
        ("ambiguous cash-flow reflection (current matches neither baseline nor " ++
          "baseline+event): " ++ "; ".intercalate (rows.map DetectionRow.text) ++
          "; specify external_action=apply_delta or already_reflected"))
    | some d => return (some d.action, ["auto-detected external_action=" ++ d.action.text])
  else return (action, [])

/-- The row loop with the payload it hashes. -/
def applyPreview (e : Effect) (historicalApply : Bool) (operations : List (Source × Cents))
    (fetched : List (String × Option Holding)) (action : Option ExternalAction)
    (warnings : List String) : M Preview := do
  let acc ← Prog.fold (operations.insertionSort operationOrder) ⟨[], warnings, [], none⟩
    (previewRow e action fetched)
  match acc.accepted with
  | some before => return ⟨.acceptCurrent e.id e.version e.sourceHash before, []⟩
  | none =>
    if acc.rows = [] then M.throw (.runtime "apply effect produced no holding targets")
    else return ⟨.apply e.id e.version e.sourceHash historicalApply action acc.rows, acc.warnings⟩

/-- The states from which a version can be previewed. -/
def previewable : List EffectState := [.pending, .blocked, .previewed, .stale]

/-- `_build_preview`. -/
def buildPreview (e : Effect) (action : Option ExternalAction) (historicalApply : Bool) :
    M Preview :=
  if e.state = .scheduled then M.throw (.value "scheduled effect cannot be previewed")
  else if e.state ∉ previewable then
    M.throw (.value ("effect cannot be previewed from state=" ++ e.state.text))
  else if e.mode = .recordOnly ∧ historicalApply = false then
    return ⟨.recordOnly e.id e.version e.sourceHash, []⟩
  else if e.kind = .cashFlow then do
    let operations ← Prog.reads fun w => w.db.effects.cashFlowOperations e
    let fetched ← Prog.fold operations [] fetchHolding
    let (action, warnings) ← resolveAction operations fetched action
    applyPreview e historicalApply operations fetched action warnings
  else applyPreview e historicalApply [(e.source, 0)] [] action []

/-! ## `preview` -/

/-- The version a call names, which must be the latest of its record. -/
def requireLatest (effectId : Nat) (verb : String) : M Effect := do
  let db ← Prog.reads fun w => w.db
  match db.effects.get effectId with
  | none => M.throw ⟨.keyError, "cash-flow effect not found: cfe_" ++ toString effectId⟩
  | some e =>
    if (db.effects.latest e.key).map Effect.id = some effectId then return e
    else M.throw (.value ("only the latest effect version can be " ++ verb))

/-- The version's source must still be the authoritative one. -/
def requireCurrentSource (e : Effect) : M Unit := do
  match ← currentCashFlowSource e with
  | none => return ()
  | some correction => M.throw (.value
      ("cash_flow source changed; use latest correction effect: cfe_" ++ toString correction))

/-- The columns a preview stores. -/
def previewColumns (p : Preview) (c : EffectColumns) : EffectColumns :=
  { c with
    state := .previewed
    targetSource := some p.payload.targetSource
    before := p.payload.befores
    targets := some p.payload.targets
    previewHash := some p.previewHash
    warnings := some p.warnings
    lastError := none }

/-- What a failed preview leaves: the reason, and the state `blocked`. -/
def blockPreview (e : Effect) (exc : Error) : M Unit :=
  Prog.onlyIf (e.state ∈ previewable) do
    let _ ← M.commit (Store.updateEffect e.id
      (fun c => { c with state := .blocked, lastError := some exc.message })
      (.previewBlocked exc.message) previewable)

/-- `preview`. -/
def preview (effectId : Nat) (action : Option ExternalAction) (historicalApply : Bool) :
    M Preview := do
  let e ← requireLatest effectId "previewed"
  requireCurrentSource e
  let p ← M.tryCatch (buildPreview e action historicalApply) fun exc => do
    blockPreview e exc
    M.throw exc
  let _ ← M.commit (Store.updateEffect effectId (previewColumns p)
    (.previewed p.previewHash action historicalApply) previewable)
  return p

end PortfolioManagement
