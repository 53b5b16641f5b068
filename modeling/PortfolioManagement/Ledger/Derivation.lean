import Mathlib.Data.String.Basic
import Mathlib.Data.List.Sort
import PortfolioManagement.Lib.Dict
import PortfolioManagement.Lib.Digest
import PortfolioManagement.Ledger.Raw

/-!
# Deriving completed rows from a raw scan

`derive_cash_flow_dataset_rows` validates every row of one account scan. A row becomes a completed
row unless something speaks against it: its own fields, a record id that occurs twice, a manual
identity that another row has too, or another account. Whatever speaks against a row is a blocker
that names it.
-/

namespace PortfolioManagement.Ledger

/-- `CashFlowDuplicateGroup`: rows with different record ids and one manual identity. -/
structure CashFlowDuplicateGroup where
  /-- the shared fingerprint -/
  expectedDedupKey : String
  /-- the record ids, sorted -/
  recordIds : List String
  /-- the account of the first row -/
  account : String
  /-- the broker of the first row -/
  broker : String
  /-- the date of the first row -/
  flowDate : CivilDate
  /-- the amount of the first row -/
  amount : Cents
  /-- the currency of the first row -/
  currency : Currency
  /-- the direction of the first row -/
  flowType : CashFlowType
deriving DecidableEq

/-- The `details` of a blocker. -/
inductive BlockerDetails
  | none
  | occurrences (n : Nat)
  | group (g : CashFlowDuplicateGroup)
  | scope (expected actual : String)
  /-- the mismatching field of an FX evaluation -/
  | evaluation (mismatchField : Option String)
  | error (text : String)
  | fingerprint (isBound : Bool)
deriving DecidableEq

/-- `CashFlowDatasetBlocker`: a reason a dataset cannot authorize an official NAV. -/
structure CashFlowDatasetBlocker where
  /-- the machine-readable reason -/
  reasonCode : String
  /-- the reason as text -/
  message : String
  /-- the record; empty for a blocker that is about no single record -/
  recordId : String
  /-- the field -/
  field : Option String
  /-- the details -/
  details : BlockerDetails
deriving DecidableEq

namespace CashFlowDatasetBlocker

/-- `CashFlowDatasetBlocker.from_issue`. -/
def fromIssue (issue : CashFlowValidationIssue) : CashFlowDatasetBlocker :=
  ⟨issue.reasonCode, issue.message, issue.recordId, some issue.field, .none⟩

/-- A record id that occurs more than once. -/
def recordIdDuplicate (recordId : String) (occurrences : Nat) : CashFlowDatasetBlocker :=
  ⟨"RECORD_ID_DUPLICATE", "cash-flow source scan contains a repeated record_id", recordId, none,
    .occurrences occurrences⟩

/-- A manual identity that several rows share. -/
def dedupKeyDuplicate (g : CashFlowDuplicateGroup) : CashFlowDatasetBlocker :=
  ⟨"EXPECTED_DEDUP_KEY_DUPLICATE", "multiple cash-flow rows share one canonical manual identity",
    "", none, .group g⟩

/-- A row without a record id. -/
def recordIdMissing : CashFlowDatasetBlocker :=
  ⟨"RECORD_ID_MISSING", "cash-flow source row has no stable record_id", "", none, .none⟩

/-- A row of another account. -/
def accountScopeMismatch (recordId expected actual : String) : CashFlowDatasetBlocker :=
  ⟨"ACCOUNT_SCOPE_MISMATCH", "cash-flow row account disagrees with requested dataset scope",
    recordId, some "account", .scope expected actual⟩

/-- The record ids a blocker names: those of its group, or its own. -/
def names (b : CashFlowDatasetBlocker) : List String :=
  match b.details with
  | .group g => g.recordIds
  | _ => [b.recordId]

end CashFlowDatasetBlocker

/-! ## Audit of the manual facts -/

/-- Sorting texts by code points. -/
def sortedTexts (texts : List String) : List String := texts.insertionSort (· ≤ ·)

/-- What the loop of `CashFlowManualDatasetAudit.build` accumulates. -/
structure ManualScan where
  /-- `valid_facts` -/
  validFacts : List ManualCashFlowFacts
  /-- `issues` -/
  issues : List CashFlowValidationIssue
  /-- `facts_by_key` -/
  factsByKey : Items String (List ManualCashFlowFacts)
  /-- `valid_by_record_id` -/
  validByRecordId : Items String ManualCashFlowFacts

/-- The loop has seen no row. -/
def ManualScan.empty : ManualScan := ⟨[], [], [], []⟩

/-- The group of the facts that share a key, when they have at least two record ids. -/
def duplicateGroup (key : String) : List ManualCashFlowFacts → Option CashFlowDuplicateGroup
  | [] => none
  | representative :: rest =>
    let recordIds := sortedTexts ((representative :: rest).map (·.recordId)).dedup
    if recordIds.length < 2 then none
    else some ⟨key, recordIds, representative.account, representative.broker,
      representative.flowDate, representative.amount, representative.currency,
      representative.expectedFlowType⟩

/-- The groups in key order. -/
def duplicateGroups (factsByKey : Items String (List ManualCashFlowFacts)) :
    List CashFlowDuplicateGroup :=
  (factsByKey.insertionSort fun a b => a.1 ≤ b.1).filterMap fun item =>
    duplicateGroup item.1 item.2

/-- `CashFlowManualDatasetAudit`. -/
structure CashFlowManualDatasetAudit where
  /-- `issues` -/
  issues : List CashFlowValidationIssue
  /-- `duplicate_groups` -/
  duplicateGroups : List CashFlowDuplicateGroup
  /-- `valid_by_record_id` -/
  validByRecordId : Items String ManualCashFlowFacts

/-- The keys of `duplicate_by_record_id`. -/
def CashFlowManualDatasetAudit.duplicateRecordIds (audit : CashFlowManualDatasetAudit) :
    List String :=
  audit.duplicateGroups.flatMap (·.recordIds)

section
variable (rt : Runtime)

/-- One row of the loop of `CashFlowManualDatasetAudit.build`. -/
def scanManual (acc : ManualScan) (record : RawCashFlowRecord) : ManualScan :=
  match ManualCashFlowFacts.validate rt record with
  | .error rowIssues => { acc with issues := acc.issues ++ rowIssues }
  | .ok facts =>
    { acc with
      validFacts := acc.validFacts ++ [facts]
      validByRecordId := acc.validByRecordId.set facts.recordId facts
      factsByKey := acc.factsByKey.update (· ++ [facts]) [] (facts.expectedDedupKey rt) }

/-- `CashFlowManualDatasetAudit.build`. -/
def CashFlowManualDatasetAudit.build (records : List RawCashFlowRecord) :
    CashFlowManualDatasetAudit :=
  let scanned := records.foldl (scanManual rt) .empty
  ⟨scanned.issues, Ledger.duplicateGroups scanned.factsByKey, scanned.validByRecordId⟩

/-! ## Derivation -/

/-- `record_id_counts`. -/
def recordIdCounts (rows : List RawCashFlowRecord) : Items String Nat :=
  (rows.filter fun raw => raw.recordId ≠ "").foldl
    (fun counts raw => Items.update (· + 1) 0 raw.recordId counts) []

/-- `repeated_record_ids`, sorted. -/
def repeatedRecordIds (rows : List RawCashFlowRecord) : List String :=
  sortedTexts (((recordIdCounts rows).filter fun item => 1 < item.2).map Prod.fst)

/-- The occurrences of a record id. -/
def occurrences (rows : List RawCashFlowRecord) (recordId : String) : Nat :=
  ((recordIdCounts rows).lookup recordId).getD 0

/-- One row of the loop of `derive_cash_flow_dataset_rows`: its completed facts, or what is added
to the blockers. A row that an earlier blocker names adds none. -/
def deriveRow (audit : CashFlowManualDatasetAudit) (repeatedIds : List String) (account : String)
    (raw : RawCashFlowRecord) : Except (List CashFlowDatasetBlocker) CompletedCashFlowFacts :=
  if raw.recordId = "" then .error [.recordIdMissing]
  else if raw.recordId ∈ repeatedIds then .error []
  else match audit.validByRecordId.lookup raw.recordId with
    | none => .error []
    | some manual =>
      if raw.recordId ∈ audit.duplicateRecordIds then .error []
      else if manual.account ≠ account then
        .error [.accountScopeMismatch raw.recordId account manual.account]
      else match CompletedCashFlowFacts.validate rt raw manual with
        | .error issues => .error (issues.map .fromIssue)
        | .ok facts => .ok facts

/-- The blockers a row adds. -/
def rowBlockers {α β : Type} : Except (List α) β → List α
  | .error blockers => blockers
  | .ok _ => []

/-- `CashFlowDatasetRowDerivation`. -/
structure CashFlowDatasetRowDerivation where
  /-- `completed_rows` -/
  completedRows : List CompletedCashFlowFacts
  /-- `blockers` -/
  blockers : List CashFlowDatasetBlocker
  /-- `duplicate_groups` -/
  duplicateGroups : List CashFlowDuplicateGroup
deriving DecidableEq

/-- The derivation of a scan for an account that is not blank. -/
def deriveRows (rows : List RawCashFlowRecord) (account : String) : CashFlowDatasetRowDerivation :=
  let audit := CashFlowManualDatasetAudit.build rt rows
  let repeatedIds := repeatedRecordIds rows
  let derived := rows.map (deriveRow rt audit repeatedIds account)
  { completedRows := derived.filterMap Except.toOption
    blockers := audit.issues.map .fromIssue ++
      repeatedIds.map (fun id => .recordIdDuplicate id (occurrences rows id)) ++
      audit.duplicateGroups.map .dedupKeyDuplicate ++ derived.flatMap rowBlockers
    duplicateGroups := audit.duplicateGroups }

/-- `derive_cash_flow_dataset_rows`. -/
def deriveCashFlowDatasetRows (rows : List RawCashFlowRecord) (account : String) :
    Except Error CashFlowDatasetRowDerivation :=
  if strip account = "" then .error (.value "cash-flow dataset account is required")
  else .ok (deriveRows rt rows (strip account))

end

end PortfolioManagement.Ledger
