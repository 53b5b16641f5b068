import Mathlib.Data.Multiset.MapFold
import PortfolioManagement.Ledger.Derivation
import PortfolioManagement.Effect.Gate

/-!
# The cash-flow dataset of a NAV run

`build_dataset` freezes the raw rows of an account with what was derived from them: the completed
rows, the blockers, the sums of the window by day, month, year and in total, the fingerprints and
the answer of the effect gate. `assert_official_scope` derives everything again from the raw rows
and refuses a dataset that differs, has blockers or has no successful gate. Dates are the keys of
the sums, where the source has their texts.
-/

namespace PortfolioManagement.Ledger

/-! ## Sums -/

/-- `a + b` of two amounts with two places, rounded to the context's 28 digits. -/
def addMoney (a b : Cents) : Cents :=
  let x := Decimal.fix ⟨a + b, -2⟩
  x.coefficient * 10 ^ (x.exponent + 2).toNat

/-- A sum of fewer than 29 digits is exact. -/
theorem addMoney_of_lt {a b : Cents} (h : (a + b).natAbs < 10 ^ Decimal.precision) :
    addMoney a b = a + b := by
  rw [addMoney, Decimal.fix_of_lt h]
  simp

/-- `date.strftime("%Y-%m")`: a month of a year. -/
structure YearMonth where
  /-- the year -/
  year : Nat
  /-- the month -/
  month : Nat
deriving DecidableEq

/-- The sums of `aggregate_completed_cash_flows`. -/
structure Aggregates where
  /-- `daily` -/
  daily : Items CivilDate Cents
  /-- `monthly` -/
  monthly : Items YearMonth Cents
  /-- `yearly` -/
  yearly : Items Nat Cents
  /-- `cumulative` -/
  cumulative : Cents
deriving DecidableEq

/-- No row was added. -/
def Aggregates.zero : Aggregates := ⟨[], [], [], 0⟩

/-- The month of a date. -/
def monthKey (d : CivilDate) : YearMonth := ⟨d.year, d.month⟩

/-- `sums[key] = sums.get(key, 0) + amount`. -/
def addTo {κ : Type} [DecidableEq κ] (key : κ) (amount : Cents) (sums : Items κ Cents) :
    Items κ Cents :=
  sums.update (addMoney · amount) 0 key

/-- One row of the loop of `aggregate_completed_cash_flows`. -/
def aggregateRow (start stop : CivilDate) (acc : Aggregates) (facts : CompletedCashFlowFacts) :
    Aggregates :=
  if start ≤ facts.flowDate ∧ facts.flowDate ≤ stop then
    { daily := addTo facts.flowDate facts.cnyAmount acc.daily
      monthly := addTo (monthKey facts.flowDate) facts.cnyAmount acc.monthly
      yearly := addTo facts.flowDate.year facts.cnyAmount acc.yearly
      cumulative := addMoney acc.cumulative facts.cnyAmount }
  else acc

/-- `aggregate_completed_cash_flows`. -/
def aggregateCompletedCashFlows (rows : List CompletedCashFlowFacts) (start stop : CivilDate) :
    Aggregates :=
  rows.foldl (aggregateRow start stop) .zero

/-! ## Fingerprints -/

/-- `_field_state` of a field: missing, null or a value. -/
abbrev FieldState := Option Cell

/-- A row as `cash_flow_dataset_fingerprint` encodes it. -/
structure RowState where
  /-- the record id -/
  recordId : String
  /-- the contract's fields, in order -/
  fields : List FieldState
  /-- every other field, in the full scope -/
  extraFields : List (String × Cell)
deriving DecidableEq

/-- `CASH_FLOW_FINANCIAL_FIELDS`. -/
def financialFields : List String :=
  ["flow_date", "account", "broker", "amount", "currency", "flow_type", "cny_amount", "dedup_key",
    "exchange_rate", "source"]

/-- `CASH_FLOW_CANONICAL_FIELDS`. -/
def canonicalFields : List String := financialFields ++ ["remark", "updated_at"]

/-- The encoding of a row. -/
def rowState (financialOnly : Bool) (raw : RawCashFlowRecord) : RowState where
  recordId := raw.recordId
  fields := (if financialOnly then financialFields else canonicalFields).map fun name =>
    List.lookup name raw.rawFields
  extraFields :=
    if financialOnly then []
    else (raw.rawFields.filter fun item => item.1 ∉ canonicalFields).insertionSort
      fun a b => a.1 ≤ b.1

/-- A fingerprint: the hash of the scope and of the encoded rows, sorted by a key that determines
them, hence of their multiset. -/
abbrev DatasetFingerprint := Digest (Bool × Multiset RowState)

/-- `cash_flow_dataset_fingerprint`. -/
def cashFlowDatasetFingerprint (rows : List RawCashFlowRecord) (financialOnly : Bool) :
    DatasetFingerprint :=
  .of (financialOnly, ((rows.map (rowState financialOnly) : List RowState) : Multiset RowState))

/-! ## FX evidence -/

/-- The fields `cash_flow_generated_fingerprint` hashes. -/
structure GeneratedFields where
  /-- the direction -/
  flowType : CashFlowType
  /-- the exchange rate, normalized -/
  exchangeRate : Decimal
  /-- the amount in CNY -/
  cnyAmount : Cents
  /-- the content fingerprint -/
  dedupKey : String
  /-- where the generated fields come from, stripped -/
  source : String
deriving DecidableEq

/-- The text of a stored fingerprint: the hash of some generated fields, or any other text. -/
inductive GeneratedFingerprint
  | hash (fields : Digest GeneratedFields)
  | text (s : String)
deriving DecidableEq

/-- `cash_flow_generated_fingerprint`. -/
def cashFlowGeneratedFingerprint (facts : CompletedCashFlowFacts) : GeneratedFingerprint :=
  .hash (.of ⟨facts.flowType, facts.exchangeRate.normalize, facts.cnyAmount, facts.dedupKey,
    strip facts.source⟩)

/-- A row of `cash_flow_fx_confirmations`. -/
structure FxConfirmation where
  /-- `confirmation_id` -/
  confirmationId : String
  /-- `record_id` -/
  recordId : String
  /-- `source_hash` -/
  sourceHash : GeneratedFingerprint
  /-- `exchange_rate` -/
  exchangeRate : String
  /-- `cny_amount` -/
  cnyAmount : String
  /-- `exchange_rate_date` -/
  exchangeRateDate : String
  /-- `exchange_rate_source` -/
  exchangeRateSource : String
  /-- `exchange_rate_evidence_type` -/
  exchangeRateEvidenceType : String
deriving DecidableEq

/-- `CASH_FLOW_AMBIGUOUS_RATE_SOURCES`. -/
def ambiguousRateSources : List String :=
  ["-", "manual", "n/a", "na", "none", "null", "placeholder", "tbd", "todo", "unknown"]

/-- `str.casefold()` on the letters of the placeholder names. -/
def casefold (s : String) : String :=
  String.ofList (s.toList.map fun c => if c = 'K' then 'k' else c.toLower)

/-- `normalize_cash_flow_rate_source` accepts the text. -/
def traceableRateSource (raw : String) : Bool :=
  let source := strip raw
  source ≠ "" && casefold source ∉ ambiguousRateSources

/-- `ALLOWED_FX_EVIDENCE_TYPES`. -/
def allowedFxEvidenceTypes : List String := ["provider", "manual_supplement"]

/-- The decision of `evaluate_cash_flow_fx_confirmation`. -/
structure FxEvaluation where
  /-- `valid` -/
  valid : Bool
  /-- `reason_code` -/
  reasonCode : String
  /-- `mismatch_field` -/
  mismatchField : Option String
deriving DecidableEq

/-- A stale confirmation. -/
def FxEvaluation.stale (field : String) : FxEvaluation :=
  ⟨false, "fx_confirmation_stale", some field⟩

/-- The numbers of a confirmation are those of the row. -/
def fxNumbersMatch (facts : CompletedCashFlowFacts) (confirmation : FxConfirmation) : Bool :=
  match Decimal.ofText (strip confirmation.exchangeRate),
    Decimal.ofText (strip confirmation.cnyAmount) with
  | some rate, some cny =>
    0 < rate.coefficient && 0 < facts.exchangeRate.coefficient && rate.equal facts.exchangeRate &&
      cny.equal ⟨facts.cnyAmount, -2⟩
  | _, _ => false

/-- `evaluate_cash_flow_fx_confirmation` for one foreign row. -/
def evaluateCashFlowFxConfirmation (facts : CompletedCashFlowFacts)
    (confirmation : Option FxConfirmation) : FxEvaluation :=
  match confirmation with
  | none => ⟨false, "fx_confirmation_missing", none⟩
  | some c =>
    if facts.recordId = "" ∨ strip c.recordId ≠ facts.recordId then .stale "record_id"
    else if c.sourceHash ≠ cashFlowGeneratedFingerprint facts then .stale "generated_fingerprint"
    else if c.exchangeRateDate ≠ facts.flowDate.isoformat then .stale "exchange_rate_date"
    else if ¬ fxNumbersMatch facts c then .stale "exchange_rate_or_cny_amount"
    else if ¬ traceableRateSource c.exchangeRateSource ∨
        strip c.exchangeRateEvidenceType ∉ allowedFxEvidenceTypes then .stale "evidence_authority"
    else ⟨true, "fx_confirmation_valid", none⟩

/-- The hash of the FX evidence, sorted by its own text. -/
abbrev FxFingerprint := Digest (Multiset (Option FxConfirmation))

/-- `cash_flow_fx_evidence_fingerprint`. -/
def cashFlowFxEvidenceFingerprint (identities : List (Option FxConfirmation)) : FxFingerprint :=
  .of (identities : Multiset (Option FxConfirmation))

/-- The blocker of a foreign row whose FX evidence does not hold. -/
def fxBlocker (facts : CompletedCashFlowFacts) (evaluation : FxEvaluation) :
    CashFlowDatasetBlocker :=
  ⟨evaluation.reasonCode, "foreign cash-flow FX evidence is missing or stale", facts.recordId,
    some "exchange_rate", .evaluation evaluation.mismatchField⟩

/-! ## The snapshot -/

/-- The `effect_gate` of a dataset. -/
structure EffectGate where
  /-- `success` -/
  success : Bool
  /-- `effect_store_revision` -/
  effectStoreRevision : Option String
  /-- `account` -/
  account : Option String
  /-- `nav_date` -/
  navDate : Option CivilDate
  /-- `cash_flow_financial_fingerprint` -/
  financialFingerprint : Option DatasetFingerprint
  /-- `blockers` -/
  blockers : List NavBlocker
deriving DecidableEq

/-- `CASH_FLOW_DATASET_CONTRACT_VERSION`. -/
def datasetContractVersion : String := "pm.cash_flow.dataset.v1"

/-- `CashFlowDatasetSnapshot`. -/
structure CashFlowDatasetSnapshot where
  /-- `account` -/
  account : String
  /-- `nav_date`, also `window_end` -/
  navDate : CivilDate
  /-- `run_id` -/
  runId : String
  /-- `window_start` -/
  windowStart : CivilDate
  /-- `raw_rows` -/
  rawRows : List RawCashFlowRecord
  /-- `completed_rows` -/
  completedRows : List CompletedCashFlowFacts
  /-- `blockers` -/
  blockers : List CashFlowDatasetBlocker
  /-- `duplicate_groups` -/
  duplicateGroups : List CashFlowDuplicateGroup
  /-- `audit_only_record_ids`, sorted -/
  auditOnlyRecordIds : List String
  /-- `daily`, `monthly`, `yearly` and `cumulative` -/
  sums : Aggregates
  /-- `financial_fingerprint` -/
  financialFingerprint : DatasetFingerprint
  /-- `full_fingerprint` -/
  fullFingerprint : DatasetFingerprint
  /-- `fx_confirmation_identities` -/
  fxConfirmationIdentities : List (Option FxConfirmation)
  /-- `fx_confirmation_fingerprint` -/
  fxConfirmationFingerprint : FxFingerprint
  /-- `effect_store_revision` -/
  effectStoreRevision : Option String
  /-- `effect_gate` -/
  effectGate : EffectGate
  /-- `contract_version` -/
  contractVersion : String
deriving DecidableEq

/-- `complete`. -/
def CashFlowDatasetSnapshot.complete (ds : CashFlowDatasetSnapshot) : Bool :=
  ds.blockers.isEmpty && ds.effectGate.success && ds.effectStoreRevision.isSome

/-! ## Building -/

/-- What a dataset is requested for. -/
structure DatasetScope where
  /-- `account` -/
  account : String
  /-- `nav_date` -/
  navDate : CivilDate
  /-- `run_id` -/
  runId : String
  /-- `start_year` -/
  startYear : Nat
deriving DecidableEq

/-- The effect service of a run: absent, or the outcome of `nav_gate` on a preliminary dataset. -/
abbrev EffectService := Option (CashFlowDatasetSnapshot → Except Error GateResult)

/-- `audit_only_record_ids`: completed rows outside the window. -/
def auditOnlyRecordIds (rows : List CompletedCashFlowFacts) (start stop : CivilDate) :
    List String :=
  (rows.filter fun facts => ¬ (start ≤ facts.flowDate ∧ facts.flowDate ≤ stop)).map (·.recordId)

/-- `foreign_in_window`. -/
def foreignInWindow (rows : List CompletedCashFlowFacts) (start stop : CivilDate) :
    List CompletedCashFlowFacts :=
  rows.filter fun facts =>
    (start ≤ facts.flowDate ∧ facts.flowDate ≤ stop) ∧ facts.manual.currency ≠ .cny

/-- The blockers of the foreign rows of the window. -/
def fxBlockers (confirmations : String → Option FxConfirmation)
    (foreign : List CompletedCashFlowFacts) : List CashFlowDatasetBlocker :=
  foreign.filterMap fun facts =>
    let evaluation := evaluateCashFlowFxConfirmation facts (confirmations facts.recordId)
    if evaluation.valid then none else some (fxBlocker facts evaluation)

/-- The payload `nav_gate` returns for a dataset. -/
def navGatePayload (ds : CashFlowDatasetSnapshot) (result : GateResult) : EffectGate where
  success := result.success
  effectStoreRevision := some (toString result.scanRunId)
  account := some ds.account
  navDate := some ds.navDate
  financialFingerprint := some ds.financialFingerprint
  blockers := result.blockers

/-- The blockers a gate's payload adds to a dataset. -/
def gateBlockers (ds : CashFlowDatasetSnapshot) (gate : EffectGate) :
    List CashFlowDatasetBlocker :=
  (if gate.effectStoreRevision = none then
    [⟨"EFFECT_REVISION_MISSING", "cash-flow holding effect gate returned no revision", "", none,
      .none⟩] else []) ++
  (if gate.financialFingerprint ≠ some ds.financialFingerprint then
    [⟨"EFFECT_SOURCE_FINGERPRINT_MISMATCH",
      "cash-flow holding effect gate is not bound to the current dataset source", "", none,
      .fingerprint gate.financialFingerprint.isSome⟩] else []) ++
  (if gate.success then [] else
    [⟨"EFFECT_GATE_BLOCKED", "cash-flow holding effects are unresolved", "", none, .none⟩])

/-- The blocker of a gate that raised. -/
def gateFailed (exc : Error) : CashFlowDatasetBlocker :=
  ⟨"EFFECT_GATE_FAILED", "cash-flow holding effect gate failed", "", none, .error exc.message⟩

/-- The dataset with the answer of the effect service. -/
def applyGate (service : EffectService) (ds : CashFlowDatasetSnapshot) :
    CashFlowDatasetSnapshot :=
  match service with
  | none =>
    { ds with
      effectStoreRevision := some "not_activated"
      effectGate := ⟨true, some "not_activated", some ds.account, some ds.navDate,
        some ds.financialFingerprint, []⟩ }
  | some navGate =>
    match navGate ds with
    | .error exc =>
      { ds with
        blockers := ds.blockers ++ [gateFailed exc]
        effectGate := ⟨false, none, none, none, none, []⟩ }
    | .ok result =>
      let gate := navGatePayload ds result
      { ds with
        blockers := ds.blockers ++ gateBlockers ds gate
        effectStoreRevision := gate.effectStoreRevision
        effectGate := gate }

section
variable (rt : Runtime)

/-- `preliminary`: the dataset before the effect gate. -/
def preliminary (rows : List RawCashFlowRecord) (confirmations : String → Option FxConfirmation)
    (account runId : String) (navDate windowStart : CivilDate) : CashFlowDatasetSnapshot :=
  let derivation := deriveRows rt rows account
  let foreign := foreignInWindow derivation.completedRows windowStart navDate
  let identities := foreign.map fun facts => confirmations facts.recordId
  { account := account
    navDate := navDate
    runId := runId
    windowStart := windowStart
    rawRows := rows
    completedRows := derivation.completedRows
    blockers := derivation.blockers ++ fxBlockers confirmations foreign
    duplicateGroups := derivation.duplicateGroups
    auditOnlyRecordIds := sortedTexts
      ((auditOnlyRecordIds derivation.completedRows windowStart navDate).map strip)
    sums := aggregateCompletedCashFlows derivation.completedRows windowStart navDate
    financialFingerprint := cashFlowDatasetFingerprint rows true
    fullFingerprint := cashFlowDatasetFingerprint rows false
    fxConfirmationIdentities := identities
    fxConfirmationFingerprint := cashFlowFxEvidenceFingerprint identities
    effectStoreRevision := none
    effectGate := ⟨false, none, none, none, none, []⟩
    contractVersion := datasetContractVersion }

/-- `CashFlowSummaryService.build_dataset` on the raw rows of the account. -/
def buildDataset (rows : List RawCashFlowRecord) (confirmations : String → Option FxConfirmation)
    (scope : DatasetScope) (service : EffectService) : Except Error CashFlowDatasetSnapshot :=
  if strip scope.account = "" then .error (.value "cash-flow dataset account is required")
  else if strip scope.runId = "" then .error (.value "cash-flow dataset run_id is required")
  else match CivilDate.make? scope.startYear 1 1 with
    | none => .error (.value "year is out of range")
    | some windowStart =>
      if scope.navDate < windowStart then
        .error (.value "cash-flow dataset start_year is after nav_date")
      else
        let ds := preliminary rt rows confirmations (strip scope.account) (strip scope.runId)
          scope.navDate windowStart
        .ok (if ds.blockers = [] then applyGate service ds else ds)

/-! ## Checking -/

/-- Two dicts with the same items. -/
def sameItems {κ : Type} [DecidableEq κ] (a b : Items κ Cents) : Bool := a.isPerm b

/-- The checks of `assert_official_scope`, by the name each one reports. -/
def scopeMismatches (ds : CashFlowDatasetSnapshot) (scope : DatasetScope) :
    List (String × Bool) :=
  let derivation := deriveRows rt ds.rawRows (strip ds.account)
  let sums := aggregateCompletedCashFlows ds.completedRows ds.windowStart ds.navDate
  let gate := ds.effectGate
  [("contract_version", ds.contractVersion ≠ datasetContractVersion),
    ("account", ds.account ≠ strip scope.account),
    ("nav_date", ds.navDate ≠ scope.navDate),
    ("run_id", ds.runId ≠ strip scope.runId),
    ("window", some ds.windowStart ≠ CivilDate.make? scope.startYear 1 1),
    ("financial_fingerprint", cashFlowDatasetFingerprint ds.rawRows true ≠ ds.financialFingerprint),
    ("full_fingerprint", cashFlowDatasetFingerprint ds.rawRows false ≠ ds.fullFingerprint),
    ("completed_rows", ds.completedRows ≠ derivation.completedRows),
    ("duplicate_groups", ds.duplicateGroups ≠ derivation.duplicateGroups),
    ("source_blockers", ¬ derivation.blockers ⊆ ds.blockers),
    ("audit_only_record_ids", ds.auditOnlyRecordIds ≠
      sortedTexts (auditOnlyRecordIds derivation.completedRows ds.windowStart ds.navDate)),
    ("fx_confirmation_fingerprint",
      cashFlowFxEvidenceFingerprint ds.fxConfirmationIdentities ≠ ds.fxConfirmationFingerprint),
    ("daily", ¬ sameItems ds.sums.daily sums.daily),
    ("monthly", ¬ sameItems ds.sums.monthly sums.monthly),
    ("yearly", ¬ sameItems ds.sums.yearly sums.yearly),
    ("cumulative", ds.sums.cumulative ≠ sums.cumulative),
    ("effect_store_revision", gate.effectStoreRevision ≠ ds.effectStoreRevision),
    ("effect_gate_account", gate.success && gate.account ≠ some ds.account),
    ("effect_gate_nav_date", gate.success && gate.navDate ≠ some ds.navDate),
    ("effect_gate_financial_fingerprint",
      gate.success && gate.financialFingerprint ≠ some ds.financialFingerprint)]

/-- `CashFlowDatasetRefusal`. -/
inductive CashFlowDatasetRefusal
  | scopeMismatch (fields : List String)
  | blocked (blockers : List CashFlowDatasetBlocker)
  | gateIncomplete (effectStoreRevision : Option String)
deriving DecidableEq

/-- `assert_official_scope`. -/
def assertOfficialScope (ds : CashFlowDatasetSnapshot) (scope : DatasetScope) :
    Except CashFlowDatasetRefusal Unit :=
  let mismatches := ((scopeMismatches rt ds scope).filter (·.2)).map (·.1)
  if mismatches ≠ [] then .error (.scopeMismatch (sortedTexts mismatches))
  else if ds.blockers ≠ [] then .error (.blocked ds.blockers)
  else if ¬ ds.complete then .error (.gateIncomplete ds.effectStoreRevision)
  else .ok ()

end

/-! ## Summary -/

/-- The result of `summary`, for the report date. -/
structure Summary where
  /-- `daily` -/
  daily : Cents
  /-- `monthly` -/
  monthly : Cents
  /-- `yearly`, from the first year of the window to the year of the date -/
  yearly : List (Nat × Cents)
  /-- `cumulative` -/
  cumulative : Cents
  /-- `gap` -/
  gap : Cents
deriving DecidableEq

/-- Whether a day belongs to the gap since the previous NAV. -/
def inGap (previousDate : Option CivilDate) (navDate day : CivilDate) : Bool :=
  match previousDate with
  | none => day = navDate
  | some previous => previous < day ∧ day ≤ navDate

/-- `CashFlowDatasetSnapshot.summary`, given the date of the last NAV. -/
def CashFlowDatasetSnapshot.summary (ds : CashFlowDatasetSnapshot)
    (previousDate : Option CivilDate) : Summary where
  daily := (ds.sums.daily.lookup ds.navDate).getD 0
  monthly := (ds.sums.monthly.lookup (monthKey ds.navDate)).getD 0
  yearly := (List.range' ds.windowStart.year (ds.navDate.year + 1 - ds.windowStart.year)).map
    fun year => (year, (ds.sums.yearly.lookup year).getD 0)
  cumulative := ds.sums.cumulative
  gap := (ds.sums.daily.filter fun item => inGap previousDate ds.navDate item.1).foldl
    (fun gap item => addMoney gap item.2) 0

end PortfolioManagement.Ledger
