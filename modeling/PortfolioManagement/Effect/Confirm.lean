import PortfolioManagement.Effect.Preview

/-!
# Confirmations

A confirmation recomputes the preview, compares its hash with the operator's, and only then writes:
first the state `applying`, then every target with a fresh readback, then the baselines, and last
the state `applied`. A write that fails leaves a compensation task with the exact targets.
-/

namespace PortfolioManagement

namespace M

variable {α : Type}

/-- An access that leaves an entry in the journal when it returns. -/
def noting (entry : JournalEntry) (act : Durable → Except Error α × Durable) (d : Durable) :
    Except Error α × Durable :=
  match act d with
  | (.ok a, d') => (.ok a, d'.note entry)
  | (.error e, d') => (.error e, d')

/-- A transaction whose commit the journal records. -/
def commitNoting (entry : JournalEntry) (tx : Tx α) : M α := disk (noting entry (transact tx))

end M

/-! ## Affected accounts -/

/-- `_current_flow_accounts`: the cached rows, read on first use. -/
def currentFlowAccounts : M (List CashFlow) := do
  match ← Prog.reads World.flowsRead with
  | some flows => return flows
  | none => Storage.getCashFlows

/-- `.get(record_id, "")` of the account map; the last row of a record id wins. -/
def flowAccount (flows : List CashFlow) (recordId : String) : String :=
  if recordId = "" then ""
  else match flows.reverse.find? fun flow => flow.recordId = recordId with
    | some flow => textOr flow.account
    | none => ""

/-- The accounts of a version that do not depend on the ledger: its own, that of the newest applied
version below it, and those of its targets. -/
def storedAccounts (t : EffectTable) (e : Effect) : List String :=
  let previous :=
    if e.kind = .cashFlow then
      match t.previousApplied e.id with
      | some previous => [textOr previous.source.account]
      | none => []
    else []
  e.account :: previous ++ e.targetsOrEmpty.map fun target => target.identity.account

/-- `_effect_accounts`. -/
def effectAccounts (e : Effect) : M (List String) := do
  let stored ← Prog.reads fun w => storedAccounts w.db.effects e
  if e.kind = .cashFlow ∧ e.state = .compensationPending then do
    let flows ← currentFlowAccounts
    return (flowAccount flows e.recordId :: stored).filter fun a => a ≠ ""
  else return stored.filter fun a => a ≠ ""

/-! ## The compensation service -/

namespace Compensation

/-- Append a `CREATED` event. -/
def record (operationType account : String) (related : Nat) (targets : List CashTarget)
    (error : Error) : M Nat :=
  M.disk fun d =>
    let task (id : Nat) : CompensationTask CashTarget :=
      { taskId := id
        operationType := operationType
        account := account
        status := .pending
        targets := targets
        error := error.message
        relatedRecordId := some related }
    (.ok d.tasks.nextId, { d with tasks := d.tasks.create task rfl })

/-- `_append_status` with the fields it folds into the task. -/
def appendStatus (taskId : Nat) (status : CompensationStatus) (retryCount : Nat)
    (error : Option String) : M Unit :=
  M.disk fun d =>
    match d.tasks.getTask taskId with
    | none => (.error (.value ("compensation task not found: repair_" ++ toString taskId)), d)
    | some task =>
      match task.status.validateTransition status with
      | .error e => (.error e, d)
      | .ok () =>
        let fold (t : CompensationTask CashTarget) : CompensationTask CashTarget :=
          { t with status := status, retryCount := retryCount, error := error.getD t.error }
        (.ok (), { d with tasks := d.tasks.setStatus taskId fold fun _ => rfl })

/-- `_apply_holding_target` of a CASH target: compare with `before`, replace, read back. -/
def applyTarget (effect : Effect) (target : CashTarget) : M Unit := do
  let i := target.identity
  if target.mutation.identity ≠ i then
    M.throw (.value "compensation target identity disagrees with mutation")
  else do
    let current ← Storage.getHoldingFresh i.assetId i.account i.broker
    if target.target ≠ target.mutation.state then
      M.throw (.value "compensation desired state disagrees with mutation")
    else if current.any fun row => holdingOwnedFieldsMatch row target.mutation then return ()
    else if current.map Holding.state ≠ target.before then
      M.throw ⟨.compensationStateConflict, "compensation state conflict for " ++ i.text ++
        ": current matches neither before nor target"⟩
    else do
      Storage.replaceHolding effect .compensation target.mutation
      let readback ← Storage.getHoldingFresh i.assetId i.account i.broker
      if readback.any fun row => holdingOwnedFieldsMatch row target.mutation then return ()
      else M.throw (.runtime
        ("holding compensation fresh readback does not match target: " ++ i.text))

/-- The loop over the targets of a task. -/
def applyTargets (effect : Effect) (taskId retryCount : Nat) (targets : List CashTarget) :
    M Unit :=
  Prog.fold targets () fun _ target => do
    applyTarget effect target
    appendStatus taskId .running retryCount none

/-- The result of `retry`: success, and the error otherwise. -/
structure RetryResult where
  /-- whether the task is resolved -/
  success : Bool
  /-- the reported error -/
  error : Option String
deriving DecidableEq

/-- `CompensationService.retry`. The effect is carried for the journal only. -/
def retry (effect : Effect) (taskId : Nat) : M RetryResult := do
  let tasks ← Prog.reads fun w => w.tasks
  match tasks.getTask taskId with
  | none => M.throw (.value ("compensation task not found: repair_" ++ toString taskId))
  | some task =>
    if task.targets = [] then
      return ⟨false, some
        "legacy or unsupported compensation payload; automatic retry refused"⟩
    else if task.status = .resolved then return ⟨true, none⟩
    else do
      let retryCount := task.retryCount + 1
      appendStatus taskId .running retryCount none
      let failure ← M.tryCatch (do
          applyTargets effect taskId retryCount task.targets
          return none)
        (fun exc => return some exc)
      match failure with
      | some exc => do
        appendStatus taskId .failed retryCount (some exc.message)
        return ⟨false, some exc.message⟩
      | none => do
        appendStatus taskId .resolved retryCount (some "")
        return ⟨true, none⟩

end Compensation

/-! ## Planned writes -/

/-- The fields a confirmation owns: the quantity of an existing row, or the values of a new one. -/
def ownedFields (before : Option Holding) : List HoldingField :=
  if before.isSome then [.quantity]
  else [.assetName, .assetType, .quantity, .currency, .assetClass, .industry]

/-- The state a confirmed target asks for: a fresh base with the confirmed quantity. -/
def boundState (before : Option Holding) (confirmed : HoldingState) : HoldingState :=
  match before with
  | some base => ⟨base.identity, { base.values with quantity := confirmed.values.quantity }⟩
  | none => confirmed

/-- Bind one confirmed target to a fresh base that is still the previewed one. -/
def planTarget (planned : List PlannedTarget) (row : TargetRow) : M (List PlannedTarget) := do
  let confirmed := row.target
  let before ← freshHoldingOf confirmed.values.currency confirmed.identity.account
    confirmed.identity.broker
  if holdingPayload before ≠ row.before then
    M.throw (.value ("cash holding changed after preview hash validation; " ++
      "preview and confirm again"))
  else do
    let mutation ← M.ofExcept
      (HoldingTarget.fromHoldings before (boundState before confirmed) (ownedFields before))
    return planned ++ [⟨before, mutation⟩]

/-! ## Writing the targets -/

/-- What the write loop accumulates. -/
structure WriteProgress where
  /-- no target needed a write -/
  alreadyApplied : Bool
  /-- the matching readbacks so far -/
  readbacks : List (Option Holding)

/-- One target of the write loop: write unless the base already matches, and read back. -/
def writeTarget (e : Effect) (acc : WriteProgress) (p : PlannedTarget) : M WriteProgress := do
  let needed := !(p.before.any fun row => holdingOwnedFieldsMatch row p.mutation)
  Prog.onlyIf needed (Storage.replaceHolding e .confirm p.mutation)
  let i := p.mutation.identity
  let readback ← freshHoldingOf p.mutation.values.currency i.account i.broker
  if readback.any fun row => holdingOwnedFieldsMatch row p.mutation then do
    M.journal (.verified e.id i)
    return ⟨acc.alreadyApplied && !needed, acc.readbacks ++ [readback]⟩
  else M.throw (.runtime ("holding fresh readback does not match confirmed target: " ++ i.text))

/-- The `try` of the confirmation: all targets, or the exception. -/
def writeTargets (e : Effect) (planned : List PlannedTarget) : M (Except Error WriteProgress) :=
  M.tryCatch (do
      let progress ← Prog.fold planned ⟨true, []⟩ (writeTarget e)
      return .ok progress)
    (fun exc => return .error exc)

/-- Confirm the baseline of a written target from its readback. -/
def confirmBaseline (effectId : Nat) (i : HoldingIdentity) (readback : Option Holding) : M Unit :=
  M.commitNoting (.baselined effectId i.text (holdingAmount readback))
    (confirmObserved i.text readback (some effectId))

/-! ## `confirm` -/

/-- How a confirmation ended. -/
inductive ConfirmResult
  | recordOnly (effect : Effect)
  | compensationPending (effect : Effect) (taskId : Nat) (error : String)
  | correctionRequired (effect : Effect) (correction : Nat)
  | applied (effect : Effect) (alreadyApplied : Bool) (readbacks : List HoldingPayload)
deriving DecidableEq

/-- A confirmation whose hash is not the recomputed one. -/
def rejectStale (e : Effect) (provided current : PreviewHash) : M Unit := do
  let _ ← M.commit (Store.updateEffect e.id (fun c => { c with state := .stale })
    (.previewInvalidated provided current) [.previewed, .pending, .blocked, .stale])
  M.commit (Store.enqueueReceipt (.stale e.id provided current))
  M.throw (.value "preview hash is stale; review and confirm again")

/-- The preceding NAV must be final before a cash-flow effect is applied. -/
def requirePrecedingNav (e : Effect) (mode : EffectMode) : M Unit :=
  if e.kind = .cashFlow ∧ mode = .apply then
    match e.source.flowDate with
    | none => M.throw ⟨.typeError, "fromisoformat: argument must be str"⟩
    | some flowDate => do
      let final ← M.readRemote fun r => r.previousNavIsFinal e.account flowDate
      Prog.require (final = true) (.raised (.value
        "preceding final NAV is required before cash-flow application"))
  else return ()

/-- The record-only branch of a confirmation. -/
def confirmRecordOnly (e : Effect) (hash : PreviewHash) (runId : Option String) :
    M ConfirmResult := do
  match e.source with
  | .externalChange change => do
    let current ← freshHolding e.source
    M.commitNoting (.baselined e.id change.identity (holdingAmount current))
      (confirmObserved change.identity current (some e.id))
  | _ => pure ()
  let result ← M.commit (Store.updateEffect e.id
    (fun c => { c with state := .recordOnly, confirmation := some (.operator runId) })
    (.recordOnlyConfirmed hash) [.previewed])
  M.commit (Store.enqueueReceipt (.recordOnly e.id hash))
  return .recordOnly result

/-- The handler of a failed write: a durable task, then the state that points to it. -/
def recordCompensation (e : Effect) (planned : List PlannedTarget) (exc : Error) :
    M ConfirmResult := do
  let taskId ← Compensation.record "CASH_FLOW_EFFECT_TARGETS_INCOMPLETE" e.account e.id
    (planned.map PlannedTarget.cashTarget) exc
  let failed ← M.commit (Store.updateEffect e.id
    (fun c => { c with
      state := .compensationPending
      compensationTaskId := some taskId
      lastError := some exc.message })
    (.compensationCreated taskId exc.message planned.length) [.applying])
  M.commit (Store.enqueueReceipt (.compensation e.id taskId))
  return .compensationPending failed taskId exc.message

/-- After all targets were read back: baselines, the state `applied`, and one more look at the
source. -/
def finishConfirm (e : Effect) (hash : PreviewHash) (planned : List PlannedTarget)
    (progress : WriteProgress) : M ConfirmResult := do
  Prog.fold (planned.zip progress.readbacks) () fun _ pair =>
    confirmBaseline e.id pair.1.mutation.identity pair.2
  let applied ← M.commit (Store.updateEffect e.id
    (fun c => { c with state := .applied, lastError := none })
    (.applied hash progress.alreadyApplied planned.length) [.applying])
  match ← currentCashFlowSource applied with
  | some correction => do
    M.commit (Store.enqueueReceipt (.sourceChanged e.id correction))
    return .correctionRequired applied correction
  | none => do
    M.commit (Store.enqueueReceipt (.applied e.id hash))
    return .applied applied progress.alreadyApplied (progress.readbacks.map holdingPayload)

/-- The apply branch of a confirmation. -/
def confirmApply (e : Effect) (payload : PreviewPayload) (runId : Option String)
    (lockedAccounts : List String) : M ConfirmResult := do
  Prog.require (∀ row ∈ payload.rows, row.target.identity.account ∈ lockedAccounts)
    (.raised (.runtime
      "confirmed target accounts changed outside the locked set; preview again"))
  let planned ← Prog.fold payload.rows [] planTarget
  let _ ← M.commitNoting (.began e payload planned) (Store.updateEffect e.id
    (fun c => { c with state := .applying, confirmation := some (.operator runId) })
    (.applying (.of payload) planned.length
      (payload.rows.map fun row => row.target.identity.account)) [.previewed])
  match ← writeTargets e planned with
  | .error exc => recordCompensation e planned exc
  | .ok progress => finishConfirm e (.of payload) planned progress

/-- `_confirm_under_locks`. -/
def confirmUnderLocks (effectId : Nat) (previewHash : PreviewHash)
    (action : Option ExternalAction) (historicalApply : Bool) (runId : Option String)
    (lockedAccounts : List String) : M ConfirmResult := do
  let e ← requireLatest effectId "confirmed"
  requireCurrentSource e
  let recomputed ← buildPreview e action historicalApply
  Prog.onlyIf (recomputed.previewHash ≠ previewHash)
    (rejectStale e previewHash recomputed.previewHash)
  requirePrecedingNav e recomputed.mode
  if recomputed.mode = .recordOnly then confirmRecordOnly e previewHash runId
  else confirmApply e recomputed.payload runId lockedAccounts

/-- `confirm`. -/
def confirm (effectId : Nat) (previewHash : PreviewHash) (action : Option ExternalAction)
    (historicalApply : Bool) (runId : Option String) : M ConfirmResult := do
  let db ← Prog.reads fun w => w.db
  match db.effects.get effectId with
  | none => M.throw ⟨.keyError, "cash-flow effect not found: cfe_" ++ toString effectId⟩
  | some initial => do
    let lockedAccounts ← effectAccounts initial
    confirmUnderLocks effectId previewHash action historicalApply runId lockedAccounts

/-- `record_only`. -/
def recordOnly (effectId : Nat) : M ConfirmResult := do
  let p ← preview effectId none false
  Prog.require (p.mode = .recordOnly)
    (.raised (.value "effect is not eligible for record-only"))
  confirm effectId p.previewHash none false none

/-! ## Retrying a compensation -/

/-- The readback of one target of a resolved task. -/
def finalizeTarget (effectId : Nat) (target : CashTarget) : M Unit := do
  let i := target.mutation.identity
  let readback ← freshHoldingOf target.mutation.values.currency i.account i.broker
  if readback.any fun row => holdingOwnedFieldsMatch row target.mutation then do
    M.journal (.verified effectId i)
    confirmBaseline effectId i readback
  else M.throw (.runtime "resolved compensation fresh readback does not match target")

/-- `_finalize_compensation_if_resolved`. -/
def finalizeCompensationIfResolved (e : Effect) : M Effect :=
  match e.columns.compensationTaskId with
  | none => M.throw (.runtime "compensation_pending effect lacks task id")
  | some taskId => do
    let tasks ← Prog.reads fun w => w.tasks
    match tasks.getTask taskId with
    | none => return e
    | some task =>
      if task.status ≠ .resolved then return e
      else do
        Prog.fold task.targets () fun _ target => finalizeTarget e.id target
        M.commit (Store.updateEffect e.id
          (fun c => { c with state := .applied, lastError := none })
          (.compensationResolved taskId) [.compensationPending])

/-- How a retry ended. -/
inductive RetryOutcome
  | failed (error : Option String)
  | correctionRequired (effect : Effect) (correction : Nat)
  | finalized (effect : Effect)
deriving DecidableEq

/-- `retry`. -/
def retry (effectId : Nat) : M RetryOutcome := do
  let db ← Prog.reads fun w => w.db
  match db.effects.get effectId with
  | none => M.throw ⟨.keyError, "cash-flow effect not found: cfe_" ++ toString effectId⟩
  | some e =>
    if e.state ≠ .compensationPending then
      M.throw (.value "effect is not compensation_pending")
    else match e.columns.compensationTaskId with
    | none => M.throw (.value "compensation task not found: None")
    | some taskId => do
      let result ← Compensation.retry e taskId
      if result.success = false then do
        let _ ← M.commit (Store.updateEffect effectId
          (fun c => { c with lastError := result.error })
          (.compensationRetryFailed result.error) [.compensationPending])
        return .failed result.error
      else do
        let current ← Prog.reads fun w => (w.db.effects.get effectId).getD e
        let finalized ← finalizeCompensationIfResolved current
        M.commit (Store.enqueueReceipt (.compensationResolved effectId taskId))
        match ← currentCashFlowSource finalized with
        | some correction => do
          M.commit (Store.enqueueReceipt (.sourceChanged effectId correction))
          return .correctionRequired finalized correction
        | none => return .finalized finalized

end PortfolioManagement
