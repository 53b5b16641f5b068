import PortfolioManagement.Ledger.Dataset

/-!
# The plan that completes a ledger row

`_plan_cash_flow_reconcile_row` takes a row whose manual fields are valid, finds its exchange rate in
manual evidence, in the row, or in a provider's rates, and proposes the generated fields that differ
from what the manual fields and the rate make them. Numbers are compared exactly and written as
floats.
-/

namespace PortfolioManagement.Ledger

/-- What the plan takes from the standard library besides the contract. Nothing is assumed about
it. -/
structure ReconcileRuntime extends Runtime where
  /-- `float(x)`, as the decimal `repr` writes; `none` for an infinity -/
  float : Decimal → Option Decimal
  /-- `date.fromisoformat` -/
  isoDay : String → Option CivilDate

/-- What a number is written as. -/
def ReconcileRuntime.floatCell (rt : ReconcileRuntime) (x : Decimal) : Cell :=
  match rt.float x with
  | some y => .float y
  | none => .nonFinite

/-- A number is written as one of the same value. -/
def ReconcileRuntime.Keeps (rt : ReconcileRuntime) (x : Decimal) : Prop :=
  ∃ y, rt.float x = some y ∧ y.equal x

/-- Why no plan is made. -/
inductive ReconcileError
  /-- a `ValueError` or an `ArithmeticError` with its text -/
  | text (message : String)
  /-- `CashFlowContractError` -/
  | contract (issues : List CashFlowValidationIssue)
deriving DecidableEq

/-- What `fx_rates` holds under a pair of currencies. -/
inductive RateEvidence
  /-- a mapping with a rate, its date and its source -/
  | record (rate date source : Cell)
  /-- any other value -/
  | bare (rate : Cell)
deriving DecidableEq

/-- The arguments of a plan besides the row. -/
structure ReconcileArguments where
  /-- `fx_rates` -/
  fxRates : Items String RateEvidence
  /-- `manual_exchange_rate` -/
  manualExchangeRate : Option Decimal
  /-- `rate_date` -/
  rateDate : Option CivilDate
  /-- `rate_source` -/
  rateSource : Option String
deriving DecidableEq

/-- `fx_evidence` of a planned row. -/
structure FxEvidence where
  /-- `exchange_rate_date` -/
  exchangeRateDate : String
  /-- `exchange_rate_source` -/
  exchangeRateSource : String
  /-- `exchange_rate_evidence_type` -/
  exchangeRateEvidenceType : String
deriving DecidableEq

/-! ## Readers of evidence -/

/-- `bool(raw)`. -/
def Cell.truthy : Cell → Bool
  | .null => false
  | .bool b => b
  | .int n => n ≠ 0
  | .float x => x.coefficient ≠ 0
  | .decimal x => x.coefficient ≠ 0
  | .text s => s ≠ ""
  | .other _ json => json ∉ ["[]", "\x7b\x7d"]
  | _ => true

/-- `_require_positive_cash_flow_rate`. -/
def requirePositiveRate (raw : Cell) : Except ReconcileError Decimal :=
  match raw.toDecimal with
  | some x =>
    if 0 < x.coefficient then .ok x
    else .error (.text "exchange_rate must be a finite positive Decimal")
  | none => .error (.text "exchange_rate must be a finite positive Decimal")

/-- `normalize_cash_flow_rate_source`. -/
def normalizeRateSource (raw : Cell) : Except ReconcileError String :=
  match raw with
  | .text s =>
    if traceableRateSource s then .ok (strip s)
    else .error (.text "exchange_rate_source must be traceable text")
  | _ => .error (.text "exchange_rate_source must be traceable text")

/-- `_cash_flow_decimal_matches` without a quantum. -/
def decimalMatches (raw : Cell) (expected : Decimal) : Bool :=
  match raw.toDecimal with
  | some actual => actual.equal expected
  | none => false

/-- `_cash_flow_decimal_matches` at money precision, of an amount that has that precision. -/
def moneyMatches (raw : Cell) (expected : Cents) : Bool :=
  match raw.toDecimal with
  | some actual => money? actual = some expected
  | none => false

section
variable (rt : ReconcileRuntime)

/-- `_cash_flow_evidence_date`. -/
def evidenceDate (raw : Cell) : Except ReconcileError CivilDate :=
  let orError : Option CivilDate → Except ReconcileError CivilDate
    | some d => .ok d
    | none => .error (.text (rt.dateError raw))
  match raw with
  | .datetime day second (some offset) => orError (beijingDate (epochSeconds day + second - offset))
  | .datetime day _ none => .ok day
  | .date d => .ok d
  | .int n => orError (timestampDate (.ofInt n))
  | .float x => orError (timestampDate x)
  | .decimal x => orError (timestampDate x)
  | .text s => orError (rt.isoDay (String.ofList ((strip s).toList.take 10)))
  | _ => .error (.text "exchange_rate_date is invalid")

/-- The error of evidence from another day. -/
def wrongRateDate (rateDate : String) (manual : ManualCashFlowFacts) : ReconcileError :=
  .text ("exchange_rate_date must equal cash_flow flow_date: rate_date=" ++ rateDate ++
    ", flow_date=" ++ manual.flowDate.isoformat)

/-- The rate, its date and its source from what a provider gave. -/
def providerRate (manual : ManualCashFlowFacts) :
    Option RateEvidence → Except ReconcileError (Decimal × CivilDate × String)
  | some (.record rate date source) => do
    let exchangeRate ← requirePositiveRate rate
    let evidenceDate ← evidenceDate rt (if date.truthy then date else .date manual.flowDate)
    let evidenceSource ← normalizeRateSource source
    pure (exchangeRate, evidenceDate, evidenceSource)
  | some (.bare rate) =>
    if rate = .null then
      .error (.text ("historical FX evidence required for " ++ manual.currency.value ++ " on " ++
        manual.flowDate.isoformat))
    else do
      let exchangeRate ← requirePositiveRate rate
      let evidenceSource ← normalizeRateSource (.text "injected_historical_rate")
      pure (exchangeRate, manual.flowDate, evidenceSource)
  | none =>
    .error (.text ("historical FX evidence required for " ++ manual.currency.value ++ " on " ++
      manual.flowDate.isoformat))

/-- The exchange rate of a plan, and the evidence for it when it is not the row's own. -/
def resolveRate (record : RawCashFlowRecord) (manual : ManualCashFlowFacts)
    (args : ReconcileArguments) : Except ReconcileError (Decimal × Option FxEvidence) :=
  if manual.currency = .cny then
    match args.manualExchangeRate with
    | some _ => .error (.text "manual FX evidence is not valid for CNY cash_flow")
    | none => .ok (.ofInt 1, none)
  else match args.manualExchangeRate with
    | some rate =>
      if args.rateDate ≠ some manual.flowDate then
        .error (wrongRateDate (args.rateDate.elim "None" CivilDate.isoformat) manual)
      else .ok (rate, some ⟨manual.flowDate.isoformat, args.rateSource.getD "None",
        "manual_supplement"⟩)
    | none =>
      let current := record.get "exchange_rate"
      if current ≠ .null ∧ current ≠ .text "" then
        (requirePositiveRate current).map fun rate => (rate, none)
      else do
        let (rate, date, source) ←
          providerRate rt manual (args.fxRates.lookup (manual.currency.value ++ "CNY"))
        if date ≠ manual.flowDate then .error (wrongRateDate date.isoformat manual)
        else pure (rate, some ⟨date.isoformat, source, "provider"⟩)

/-! ## Updates -/

/-- The direction a row should have, where it has another. -/
def flowTypeUpdate (manual : ManualCashFlowFacts) (raw : Cell) : Option Cell :=
  match raw with
  | .text s =>
    if upper (strip s) = manual.expectedFlowType.value then none
    else some (.text manual.expectedFlowType.value)
  | _ => some (.text manual.expectedFlowType.value)

/-- The warning of a direction that is replaced. -/
def flowTypeWarnings (manual : ManualCashFlowFacts) (raw : Cell) : List String :=
  match raw with
  | .text s =>
    if strip s = "" ∨ upper (strip s) = manual.expectedFlowType.value then []
    else ["flow_type=" ++ s ++ " differs from amount sign; expected " ++
      manual.expectedFlowType.value]
  | _ => []

/-- The rate to write. -/
def exchangeRateUpdate (rate : Decimal) (raw : Cell) : Option Cell :=
  if decimalMatches raw rate then none else some (rt.floatCell rate)

/-- The CNY amount to write. -/
def cnyAmountUpdate (cny : Cents) (raw : Cell) : Option Cell :=
  if moneyMatches raw cny then none else some (rt.floatCell ⟨cny, -2⟩)

/-- The fingerprint to write. -/
def dedupKeyUpdate (manual : ManualCashFlowFacts) (raw : Cell) : Option Cell :=
  if raw = .text (manual.expectedDedupKey rt.toRuntime) then none
  else some (.text (manual.expectedDedupKey rt.toRuntime))

/-- The source to write. -/
def sourceUpdate (raw : Cell) : Option Cell :=
  match raw with
  | .text s => if strip s = "" then some (.text "manual") else none
  | _ => some (.text "manual")

/-- A field with a value, if there is one. -/
def entry (name : String) (value : Option Cell) : Items String Cell :=
  value.toList.map fun cell => (name, cell)

/-- The fields a plan changes, with their values. -/
def proposedUpdates (record : RawCashFlowRecord) (manual : ManualCashFlowFacts) (rate : Decimal)
    (cny : Cents) : Items String Cell :=
  entry "flow_type" (flowTypeUpdate manual (record.get "flow_type")) ++
    entry "exchange_rate" (exchangeRateUpdate rt rate (record.get "exchange_rate")) ++
    entry "cny_amount" (cnyAmountUpdate rt cny (record.get "cny_amount")) ++
    entry "dedup_key" (dedupKeyUpdate rt manual (record.get "dedup_key")) ++
    entry "source" (sourceUpdate (record.get "source"))

/-- `{**fields, **items}`. -/
def merged (fields items : Items String Cell) : Items String Cell :=
  items.foldl (fun fields item => fields.set item.1 item.2) fields

/-- A row after an update of some fields. -/
def RawCashFlowRecord.written (record : RawCashFlowRecord) (updates : Items String Cell) :
    RawCashFlowRecord :=
  ⟨record.recordId, merged record.rawFields updates, record.stripped⟩

/-- The values a plan assumes, whatever the row holds. -/
def completedOverrides (record : RawCashFlowRecord) (manual : ManualCashFlowFacts) (rate : Decimal)
    (cny : Cents) : Items String Cell :=
  [("flow_date", .date manual.flowDate), ("account", .text manual.account),
    ("broker", .text manual.broker), ("amount", .decimal ⟨manual.amount, -2⟩),
    ("currency", .text manual.currency.value), ("flow_type", .text manual.expectedFlowType.value),
    ("exchange_rate", .decimal rate), ("cny_amount", .decimal ⟨cny, -2⟩),
    ("dedup_key", .text (manual.expectedDedupKey rt.toRuntime)),
    ("source", (sourceUpdate (record.get "source")).getD (record.get "source"))]

/-- The row of `completed_fields`. -/
def completedRecord (record : RawCashFlowRecord) (manual : ManualCashFlowFacts) (rate : Decimal)
    (cny : Cents) : RawCashFlowRecord :=
  (record.written (proposedUpdates rt record manual rate cny)).written
    (completedOverrides rt record manual rate cny)

/-! ## The plan -/

/-- A planned row. -/
structure ReconcileRow where
  /-- `record_id` -/
  recordId : String
  /-- `account` -/
  account : String
  /-- `broker` -/
  broker : String
  /-- `flow_date` -/
  flowDate : String
  /-- `currency` -/
  currency : String
  /-- `amount` -/
  amount : Cell
  /-- `flow_type` -/
  flowType : String
  /-- `exchange_rate` -/
  exchangeRate : Cell
  /-- `cny_amount` -/
  cnyAmount : Cell
  /-- `expected_dedup_key` -/
  expectedDedupKey : String
  /-- `expected_generated_fingerprint` -/
  expectedGeneratedFingerprint : GeneratedFingerprint
  /-- `generated_fingerprint` and `source_hash` -/
  generatedFingerprint : Option GeneratedFingerprint
  /-- `requires_fx_confirmation` -/
  requiresFxConfirmation : Bool
  /-- `status` -/
  status : String
  /-- `completion_state` -/
  completionState : String
  /-- `readback_verified` -/
  readbackVerified : Bool
  /-- `updates` -/
  updates : Items String Cell
  /-- `fx_evidence` -/
  fxEvidence : Option FxEvidence
  /-- `warnings` -/
  warnings : List String
deriving DecidableEq

/-- The planned row of a rate and an amount. -/
def plannedRow (record : RawCashFlowRecord) (manual : ManualCashFlowFacts) (rate : Decimal)
    (cny : Cents) (completed : CompletedCashFlowFacts) (fxEvidence : Option FxEvidence) :
    ReconcileRow :=
  let updates := proposedUpdates rt record manual rate cny
  let fingerprint := cashFlowGeneratedFingerprint completed
  let observed := updates.isEmpty
  { recordId := record.recordId
    account := manual.account
    broker := manual.broker
    flowDate := manual.flowDate.isoformat
    currency := manual.currency.value
    amount := rt.floatCell ⟨manual.amount, -2⟩
    flowType := manual.expectedFlowType.value
    exchangeRate := rt.floatCell rate
    cnyAmount := rt.floatCell ⟨cny, -2⟩
    expectedDedupKey := manual.expectedDedupKey rt.toRuntime
    expectedGeneratedFingerprint := fingerprint
    generatedFingerprint := if observed then some fingerprint else none
    requiresFxConfirmation := manual.currency ≠ .cny
    status := if observed then "ok" else "pending"
    completionState := if observed then "completed" else "proposed"
    readbackVerified := observed
    updates
    fxEvidence
    warnings := flowTypeWarnings manual (record.get "flow_type") }

/-- `_plan_cash_flow_reconcile_row`. -/
def planReconcileRow (record : RawCashFlowRecord) (manual : ManualCashFlowFacts)
    (args : ReconcileArguments) : Except ReconcileError ReconcileRow := do
  let (resolved, fxEvidence) ← resolveRate rt record manual args
  let rate ← requirePositiveRate (.decimal resolved)
  match money? (Decimal.mul ⟨manual.amount, -2⟩ rate) with
  | none => .error (.text "[<class 'decimal.InvalidOperation'>]")
  | some cny =>
    match CompletedCashFlowFacts.validateRecord rt.toRuntime
        (completedRecord rt record manual rate cny) with
    | .error issues => .error (.contract issues)
    | .ok completed => .ok (plannedRow rt record manual rate cny completed fxEvidence)

end

end PortfolioManagement.Ledger
