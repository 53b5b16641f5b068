import PortfolioManagement.Lib.Program
import PortfolioManagement.Ledger.Reconcile

/-!
# Completing the row of a cash-flow event

`CashFlowEventCompletionService` previews the plan of one record, previews it again under the
record's lock, lets the repository read the ledger and plan again and write what that plan changes,
and previews it a last time. Nobody else who edits the ledger takes the lock: others act before any
of the requests, on all rows and on the FX evidence.
-/

namespace PortfolioManagement.Ledger

open Prog (raise rescue reads alter require)

/-! ## The plan of a scan -/

/-- Why a row of a plan has the status `error`. -/
inductive PlanError
  /-- `cash_flow_manual_validation_failed` -/
  | manual (issues : List CashFlowValidationIssue)
  /-- `cash_flow_expected_dedup_duplicate` -/
  | duplicate
  /-- `cash_flow_reconcile_evidence_invalid` -/
  | evidence (exc : ReconcileError)
deriving DecidableEq

/-- A row of `_build_cash_flow_reconcile_plan`. -/
inductive PlanRow
  /-- the status is `error` -/
  | error (recordId : String) (error : PlanError)
  | planned (row : ReconcileRow)
deriving DecidableEq

namespace PlanRow

/-- `record_id` -/
def recordId : PlanRow → String
  | error recordId _ => recordId
  | planned row => row.recordId

/-- `readback_verified` -/
def readbackVerified : PlanRow → Bool
  | error _ _ => false
  | planned row => row.readbackVerified

/-- The item of `update_payloads`, if the row has updates. -/
def payload : PlanRow → Option (String × Items String Cell)
  | error _ _ => none
  | planned row => if row.updates = [] then none else some (row.recordId, row.updates)

end PlanRow

/-- `issues_for`. -/
def CashFlowManualDatasetAudit.issuesFor (audit : CashFlowManualDatasetAudit) (recordId : String) :
    List CashFlowValidationIssue := audit.issues.filter (·.recordId = recordId)

/-- The arguments of `reconcile_cash_flows(record_id=…)`. -/
def noArguments : ReconcileArguments := ⟨[], none, none, none⟩

section
variable (rt : ReconcileRuntime)

/-- One row of the loop of `_build_cash_flow_reconcile_plan`. -/
def planRow (audit : CashFlowManualDatasetAudit) (record : RawCashFlowRecord) : PlanRow :=
  match audit.validByRecordId.lookup record.recordId with
  | none => .error record.recordId (.manual (audit.issuesFor record.recordId))
  | some manual =>
    if record.recordId ∈ audit.duplicateRecordIds then .error record.recordId .duplicate
    else match planReconcileRow rt record manual noArguments with
      | .error exc => .error record.recordId (.evidence exc)
      | .ok row => .planned row

/-- The rows of `_build_cash_flow_reconcile_plan` for one record. -/
def buildReconcilePlan (records : List RawCashFlowRecord) (recordId : String) : List PlanRow :=
  (records.filter (·.recordId = recordId)).map
    (planRow rt (.build rt.toRuntime records))

end

/-! ## FX evidence of a planned row -/

/-- The numbers of a confirmation are those of the planned row. -/
def ReconcileRow.numbersMatch (row : ReconcileRow) (confirmation : FxConfirmation) : Bool :=
  match Decimal.ofText (strip confirmation.exchangeRate), row.exchangeRate.toDecimal,
    Decimal.ofText (strip confirmation.cnyAmount), row.cnyAmount.toDecimal with
  | some rate, some rowRate, some cny, some rowCny =>
    0 < rate.coefficient && 0 < rowRate.coefficient && rate.equal rowRate && cny.equal rowCny
  | _, _, _, _ => false

/-- `evaluate_cash_flow_fx_confirmation` of a planned row. -/
def ReconcileRow.evaluateFxConfirmation (row : ReconcileRow) (confirmation : Option FxConfirmation) :
    FxEvaluation :=
  match confirmation with
  | none => ⟨false, "fx_confirmation_missing", none⟩
  | some c =>
    if strip row.recordId = "" ∨ strip c.recordId ≠ strip row.recordId then .stale "record_id"
    else if row.generatedFingerprint ≠ some c.sourceHash then .stale "generated_fingerprint"
    else if row.flowDate = "" ∨ c.exchangeRateDate ≠ row.flowDate then .stale "exchange_rate_date"
    else if ¬ row.numbersMatch c then .stale "exchange_rate_or_cny_amount"
    else if ¬ traceableRateSource c.exchangeRateSource ∨
        strip c.exchangeRateEvidenceType ∉ allowedFxEvidenceTypes then .stale "evidence_authority"
    else ⟨true, "fx_confirmation_valid", none⟩

/-! ## The world of an event -/

/-- What others may change. -/
structure LedgerState where
  /-- the rows of the remote ledger -/
  rows : List RawCashFlowRecord
  /-- `latest_fx_confirmation` -/
  confirmations : String → Option FxConfirmation
  /-- record ids are unique -/
  nodup : (rows.map (·.recordId)).Nodup

/-- The requests of `process_record`. -/
inductive CompletionStep
  | preview
  | previewEvidence
  | lockedPreview
  | lockedEvidence
  | applyRead
  | applyWrite
  | applyReadback
  | readback
  | readbackEvidence
deriving DecidableEq

/-- The outcome of a request. -/
inductive RequestAnswer
  /-- the request is carried out -/
  | ok
  /-- refused -/
  | refused
  /-- carried out, with an error for an answer -/
  | lost
deriving DecidableEq

/-- What the processing of an event works on. -/
structure CompletionWorld where
  /-- the ledger and the evidence -/
  state : LedgerState
  /-- what others do to them before a request -/
  others : CompletionStep → LedgerState → LedgerState
  /-- the outcomes of the requests -/
  answers : CompletionStep → RequestAnswer
  /-- the rows the last scan returned; the code does not keep this -/
  scanned : List RawCashFlowRecord
  /-- the rows that were written, as they were then, with what was written; the code does not keep
  this -/
  writes : List (RawCashFlowRecord × Items String Cell)

/-- Why `process_record` raises. -/
inductive CompletionError
  /-- `cash flow completion requires record_id` -/
  | noRecordId
  /-- an error of the remote -/
  | remote
  /-- `cash flow exact-record preview requires exactly one row` -/
  | ambiguous
  /-- `cash flow exact-record apply failed` -/
  | applyFailed
  /-- `cash flow generated fields did not converge after exact-record apply` -/
  | notConverged
deriving DecidableEq

/-- Programs of the service. -/
abbrev CompletionProg := Prog CompletionWorld CompletionError

/-! ## Requests -/

/-- Others act. -/
def turn (step : CompletionStep) : CompletionProg Unit :=
  alter fun w => { w with state := w.others step w.state }

/-- `get_raw_cash_flows`. -/
def getRawCashFlows (step : CompletionStep) : CompletionProg (List RawCashFlowRecord) := do
  turn step
  require ((← reads (·.answers step)) = .ok) .remote
  alter fun w => { w with scanned := w.state.rows }
  reads (·.state.rows)

/-- `latest_fx_confirmation`. -/
def latestFxConfirmation (step : CompletionStep) (recordId : String) :
    CompletionProg (Option FxConfirmation) := do
  turn step
  reads (·.state.confirmations recordId)

/-- A row that received the payload of its record, if there is one. -/
def received (payloads : List (String × Items String Cell)) (record : RawCashFlowRecord) :
    RawCashFlowRecord := (payloads.lookup record.recordId).elim record record.written

theorem recordId_received (payloads : List (String × Items String Cell)) (record : RawCashFlowRecord) :
    (received payloads record).recordId = record.recordId := by
  unfold received
  cases payloads.lookup record.recordId with
  | none => rfl
  | some fields => rfl

/-- The ledger after the payloads were written. -/
def LedgerState.write (payloads : List (String × Items String Cell)) (s : LedgerState) :
    LedgerState where
  rows := s.rows.map (received payloads)
  confirmations := s.confirmations
  nodup := by
    rw [List.map_map]
    have hids : (fun record : RawCashFlowRecord => record.recordId) ∘ received payloads =
        fun record => record.recordId := funext (recordId_received payloads)
    rw [hids]
    exact s.nodup

/-- The rows that receive payloads, with what they receive. -/
def writtenRows (payloads : List (String × Items String Cell)) (rows : List RawCashFlowRecord) :
    List (RawCashFlowRecord × Items String Cell) :=
  rows.filterMap fun record => (payloads.lookup record.recordId).map fun fields => (record, fields)

/-- The payloads are written. -/
def CompletionWorld.receive (payloads : List (String × Items String Cell)) (w : CompletionWorld) :
    CompletionWorld :=
  { w with
    state := w.state.write payloads
    writes := w.writes ++ writtenRows payloads w.state.rows }

/-- `batch_update_records` of the ledger. -/
def batchUpdateCashFlows (payloads : List (String × Items String Cell)) : CompletionProg Nat := do
  turn .applyWrite
  match ← reads (·.answers .applyWrite) with
  | .ok =>
    alter (CompletionWorld.receive payloads)
    pure payloads.length
  | .refused => raise .remote
  | .lost =>
    alter (CompletionWorld.receive payloads)
    raise .remote

/-! ## `reconcile_cash_flows` -/

section
variable (rt : ReconcileRuntime)

/-- The result of `reconcile_cash_flows(dry_run=False)`. -/
structure ApplyResult where
  /-- `success` -/
  success : Bool
  /-- `updated_count` -/
  updatedCount : Nat

/-- The update of an apply: `updated_count`, or none when the batch failed. -/
def sendPayloads (payloads : List (String × Items String Cell)) : CompletionProg (Option Nat) :=
  if payloads = [] then pure (some 0)
  else rescue (batchUpdateCashFlows payloads >>= fun n => pure (some n)) fun _ => pure none

/-- The scan after an apply, or none when it failed. -/
def scanAgain : CompletionProg (Option (List RawCashFlowRecord)) :=
  rescue (getRawCashFlows .applyReadback >>= fun rows => pure (some rows)) fun _ => pure none

/-- The result of an apply that sent its updates, from the plan before and the scan after it. -/
def applyResult (recordId : String) (initial : List PlanRow) (updatedCount : Nat) :
    Option (List RawCashFlowRecord) → ApplyResult
  | none => ⟨false, updatedCount⟩
  | some rows =>
    let readback := buildReconcilePlan rt rows recordId
    let present := initial.all fun row => row.recordId ∈ readback.map PlanRow.recordId
    ⟨readback.all PlanRow.readbackVerified && present && ! readback.isEmpty, updatedCount⟩

/-- `reconcile_cash_flows` for one record, with `dry_run=False`. -/
def applyReconcile (recordId : String) : CompletionProg ApplyResult := do
  let records ← getRawCashFlows .applyRead
  let initial := buildReconcilePlan rt records recordId
  match ← sendPayloads (initial.filterMap PlanRow.payload) with
  | none => pure ⟨false, 0⟩
  | some updatedCount =>
    let scan ← scanAgain
    pure (applyResult rt recordId initial updatedCount scan)

/-! ## `CashFlowEventCompletionService` -/

/-- The decisions of `_decide`. -/
inductive Decision
  | missing
  | attention (reasonCode : String)
  | eligible (currency : String)
  | complete (currency : String)
deriving DecidableEq

/-- The outcomes of `process_record`. -/
inductive CompletionOutcome
  /-- `stale_record_missing` -/
  | staleRecordMissing
  /-- `already_complete` -/
  | alreadyComplete (currency : String)
  /-- `attention_required` -/
  | attentionRequired (reasonCode : String)
  /-- `completed` -/
  | completed (currency : String) (updatedCount : Nat)
deriving DecidableEq

/-- `_preview`; the row of the record, if there is one. -/
def preview (step : CompletionStep) (recordId : String) : CompletionProg (Option PlanRow) := do
  let records ← getRawCashFlows step
  match buildReconcilePlan rt records recordId with
  | [] => pure none
  | [row] => pure (some row)
  | _ => raise .ambiguous

/-- The decision on a row whose evidence, if it needs any, is valid. -/
def ReconcileRow.decision (row : ReconcileRow) : Decision :=
  if row.updates = [] then .complete (upper row.currency) else .eligible (upper row.currency)

/-- `_decide`. -/
def decideOn (evidence : CompletionStep) : Option PlanRow → CompletionProg Decision
  | none => pure .missing
  | some (.error _ _) => pure (.attention "cash_flow_reconcile_error")
  | some (.planned row) =>
    if upper row.currency = "CNY" then pure row.decision
    else do
      let confirmation ← latestFxConfirmation evidence row.recordId
      let evaluation := row.evaluateFxConfirmation confirmation
      if evaluation.valid then pure row.decision else pure (.attention evaluation.reasonCode)

/-- `_terminal_without_write`. -/
def Decision.terminal : Decision → Option CompletionOutcome
  | missing => some .staleRecordMissing
  | complete currency => some (.alreadyComplete currency)
  | attention reasonCode => some (.attentionRequired reasonCode)
  | eligible _ => none

/-- A preview and the decision on it. -/
def previewDecision (step evidence : CompletionStep) (recordId : String) : CompletionProg Decision := do
  let row ← preview rt step recordId
  decideOn evidence row

/-- The apply and the preview after it. -/
def applyAndReadBack (recordId : String) : CompletionProg CompletionOutcome := do
  let result ← applyReconcile rt recordId
  require (result.success = true) .applyFailed
  let decision ← previewDecision rt .readback .readbackEvidence recordId
  match decision.terminal with
  | some (.alreadyComplete currency) => pure (.completed currency result.updatedCount)
  | some outcome => pure outcome
  | none => raise .notConverged

/-- What happens under the lock. -/
def processLocked (recordId : String) : CompletionProg CompletionOutcome := do
  let decision ← previewDecision rt .lockedPreview .lockedEvidence recordId
  match decision.terminal with
  | some outcome => pure outcome
  | none => applyAndReadBack rt recordId

/-- `process_record`. -/
def processRecord (recordId : String) : CompletionProg CompletionOutcome := do
  let resolved := strip recordId
  require (resolved ≠ "") .noRecordId
  let decision ← previewDecision rt .preview .previewEvidence resolved
  match decision.terminal with
  | some outcome => pure outcome
  | none => processLocked rt resolved

end

end PortfolioManagement.Ledger
