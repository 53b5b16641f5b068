import PortfolioManagement.Lib.Calendar
import PortfolioManagement.Lib.Decimal
import PortfolioManagement.Domain.CashFlow

/-!
# Raw ledger rows and their validation

The NAV dataset reads the ledger as untyped rows: a record id and whatever the source holds under
each field name. `ManualCashFlowFacts.validate` and `CompletedCashFlowFacts.validate` turn a row
into facts or into the issues that keep it from being one.
-/

namespace PortfolioManagement.Ledger

/-- A value under a field name. -/
inductive Cell
  | null
  | bool (b : Bool)
  | int (n : Int)
  /-- a finite float, as the decimal `repr` writes -/
  | float (x : Decimal)
  /-- a finite `Decimal` -/
  | decimal (x : Decimal)
  /-- a NaN or an infinity -/
  | nonFinite
  | text (s : String)
  | date (d : CivilDate)
  /-- a datetime: its day, the second of that day, and its UTC offset in seconds if it has one -/
  | datetime (day : CivilDate) (second : Nat) (offset : Option Int)
  /-- a list or a mapping: the name of its type and its JSON text -/
  | other (typeName json : String)
deriving DecidableEq

/-- What the contract takes from the standard library. Nothing is assumed about it. -/
structure Runtime where
  /-- `hashlib.sha256(text.encode("utf-8")).hexdigest()[:16]` -/
  dedupHash : String → String
  /-- `str(float(amount))` of an amount with two places -/
  floatText : Cents → String
  /-- `fromisoformat` of a stripped text, as the date in Beijing -/
  isoDate : String → Option CivilDate
  /-- the text of the exception a reader of dates raises on a value -/
  dateError : Cell → String

/-- `RawCashFlowRecord`: one untyped source row. -/
structure RawCashFlowRecord where
  /-- the record id; empty when the source gave none -/
  recordId : String
  /-- the fields, by name -/
  rawFields : List (String × Cell)
  /-- `str(record_id or "").strip()` was taken -/
  stripped : strip recordId = recordId
deriving DecidableEq

namespace RawCashFlowRecord

/-- `RawCashFlowRecord(record_id=…, raw_fields=…)`. -/
def make (recordId : String) (rawFields : List (String × Cell)) : RawCashFlowRecord :=
  ⟨strip recordId, rawFields, strip_strip recordId⟩

/-- `fields.get(name)`. -/
def get (record : RawCashFlowRecord) (name : String) : Cell :=
  (record.rawFields.lookup name).getD .null

end RawCashFlowRecord

/-! ## Readers of a cell -/

/-- `Decimal(str(raw).strip())`, when that is finite. -/
def Cell.toDecimal : Cell → Option Decimal
  | .int n => some (.ofInt n)
  | .float x => some x
  | .decimal x => some x
  | .text s => Decimal.ofText (strip s)
  | _ => none

/-- `_money`: two places, or `InvalidOperation`. -/
def money? (x : Decimal) : Option Cents := x.quantize (-2)

/-- The seconds from the day of 1 January 1970 to a day. -/
def epochSeconds (day : CivilDate) : Int := ((day.toOrdinal : Int) - 719163) * 86400

/-- The date in Beijing of a second since the epoch. -/
def beijingDate (second : Int) : Option CivilDate :=
  CivilDate.ofOrdinal ((second + 28800) / 86400 + 719163)

/-- `datetime.fromtimestamp(ms / 1000, tz=BEIJING_TZ).date()`: rounded to microseconds first. -/
def timestampDate (ms : Decimal) : Option CivilDate :=
  let micros :=
    if 0 ≤ ms.exponent + 3 then ms.coefficient * 10 ^ (ms.exponent + 3).toNat
    else Decimal.halfEven ms.coefficient (-(ms.exponent + 3)).toNat
  beijingDate (micros / 1000000)

section
variable (rt : Runtime)

/-- The date of a cell, or the text of the exception reading it raises. -/
def Cell.toDate (raw : Cell) : Except String CivilDate :=
  let orError : Option CivilDate → Except String CivilDate
    | some d => .ok d
    | none => .error (rt.dateError raw)
  match raw with
  | .null => .error (rt.dateError raw)
  | .bool _ => .error "boolean is not a date"
  | .datetime day second (some offset) => orError (beijingDate (epochSeconds day + second - offset))
  | .datetime day _ none => .ok day
  | .date d => .ok d
  | .int n => orError (timestampDate (.ofInt n))
  | .float x => orError (timestampDate x)
  | .decimal x => orError (timestampDate x)
  | .nonFinite => .error "non-finite timestamp"
  | .text s => orError (rt.isoDate (strip s))
  | .other typeName _ => .error ("unsupported date type: " ++ typeName)

/-- `_parse_flow_date`. -/
def parseFlowDate (recordId : String) (raw : Cell) : Except CashFlowValidationIssue CivilDate :=
  if raw = .null ∨ raw = .text "" then
    .error ⟨recordId, "flow_date", "FLOW_DATE_MISSING", "flow_date is required"⟩
  else match raw.toDate rt with
    | .ok d => .ok d
    | .error exc => .error ⟨recordId, "flow_date", "FLOW_DATE_INVALID", "invalid flow_date: " ++ exc⟩

end

/-- `_required_text`: nonblank text, stripped. -/
def requiredText (recordId field : String) (raw : Cell) : Except CashFlowValidationIssue String :=
  let missing := ⟨recordId, field, upper field ++ "_MISSING", field ++ " must be nonblank text"⟩
  match raw with
  | .text s => if strip s = "" then .error missing else .ok (strip s)
  | _ => .error missing

/-- `_supported_currency`. -/
def supportedCurrency (recordId : String) (raw : Cell) : Except CashFlowValidationIssue Currency :=
  let missing := ⟨recordId, "currency", "CURRENCY_MISSING", "currency is required"⟩
  match raw with
  | .text s =>
    if strip s = "" then .error missing
    else match Currency.ofText (upper (strip s)) with
      | some c => .ok c
      | none => .error ⟨recordId, "currency", "CURRENCY_UNSUPPORTED",
          "unsupported currency: " ++ upper (strip s)⟩
  | _ => .error missing

/-- `_finite_decimal`: a finite number that passes the sign check asked for. -/
def finiteDecimal (recordId field : String) (raw : Cell) (nonzero positive : Bool) :
    Except CashFlowValidationIssue Decimal :=
  if raw = .null ∨ raw = .text "" then
    .error ⟨recordId, field, upper field ++ "_MISSING", field ++ " is required"⟩
  else match raw.toDecimal with
    | none =>
      .error ⟨recordId, field, upper field ++ "_INVALID", field ++ " must be a finite Decimal"⟩
    | some x =>
      if nonzero && x.coefficient = 0 then
        .error ⟨recordId, field, upper field ++ "_ZERO", field ++ " must be nonzero"⟩
      else if positive && x.coefficient ≤ 0 then
        .error ⟨recordId, field, upper field ++ "_NOT_POSITIVE", field ++ " must be positive"⟩
      else .ok x

/-! ## Manual facts -/

/-- `ManualCashFlowFacts`: the validated fields the operator owns. -/
structure ManualCashFlowFacts where
  /-- the record id, stripped -/
  recordId : String
  /-- the date of the flow -/
  flowDate : CivilDate
  /-- the account, stripped -/
  account : String
  /-- the broker, stripped -/
  broker : String
  /-- the signed amount -/
  amount : Cents
  /-- the currency -/
  currency : Currency
  /-- the remark, when it is not null -/
  remark : Option Cell
deriving DecidableEq

namespace ManualCashFlowFacts

/-- The issues of an amount at money precision. -/
def amountIssues (recordId : String) (amount : Except CashFlowValidationIssue Decimal) :
    List CashFlowValidationIssue :=
  match amount with
  | .error _ => []
  | .ok x =>
    match money? x with
    | none => [⟨recordId, "amount", "AMOUNT_INVALID",
        "amount cannot be represented at cash-flow money precision"⟩]
    | some quantized =>
      if quantized = 0 then [⟨recordId, "amount", "AMOUNT_ZERO",
        "amount must remain nonzero at cash-flow money precision"⟩]
      else []

/-- The issues `ManualCashFlowFacts.validate` collects. -/
def issues (rt : Runtime) (record : RawCashFlowRecord) : List CashFlowValidationIssue :=
  let id := record.recordId
  let amount := finiteDecimal id "amount" (record.get "amount") true false
  issuesOf (parseFlowDate rt id (record.get "flow_date")) ++
    issuesOf (requiredText id "account" (record.get "account")) ++
    issuesOf (requiredText id "broker" (record.get "broker")) ++ issuesOf amount ++
    issuesOf (supportedCurrency id (record.get "currency")) ++ amountIssues id amount

/-- `ManualCashFlowFacts.validate`: the facts, or all issues of the manual fields. -/
def validate (rt : Runtime) (record : RawCashFlowRecord) :
    Except (List CashFlowValidationIssue) ManualCashFlowFacts :=
  let id := record.recordId
  match parseFlowDate rt id (record.get "flow_date"),
    requiredText id "account" (record.get "account"),
    requiredText id "broker" (record.get "broker"),
    finiteDecimal id "amount" (record.get "amount") true false,
    supportedCurrency id (record.get "currency") with
  | .ok flowDate, .ok account, .ok broker, .ok amount, .ok currency =>
    match issues rt record, money? amount with
    | [], some quantized =>
      let remark := record.get "remark"
      .ok ⟨id, flowDate, account, broker, quantized, currency,
        if remark = .null then none else some remark⟩
    | issues, _ => .error issues
  | _, _, _, _, _ => .error (issues rt record)

/-- `expected_cash_flow_type`. -/
def expectedFlowType (manual : ManualCashFlowFacts) : CashFlowType :=
  CashFlowType.ofAmount manual.amount

/-- `expected_cash_flow_dedup_key` for the expected direction. -/
def expectedDedupKey (rt : Runtime) (manual : ManualCashFlowFacts) : String :=
  rt.dedupHash ("|".intercalate [manual.account, manual.broker, manual.flowDate.isoformat,
    manual.expectedFlowType.value, rt.floatText manual.amount, manual.currency.value])

end ManualCashFlowFacts

/-- `_flow_type`: supported, and agreeing with the sign of the amount. -/
def flowType (recordId : String) (manual : ManualCashFlowFacts) (raw : Cell) :
    Except CashFlowValidationIssue CashFlowType :=
  let missing := ⟨recordId, "flow_type", "FLOW_TYPE_MISSING", "flow_type is required"⟩
  match raw with
  | .text s =>
    if strip s = "" then .error missing
    else match CashFlowType.ofText (upper (strip s)) with
      | none => .error ⟨recordId, "flow_type", "FLOW_TYPE_UNSUPPORTED",
          "unsupported flow_type: " ++ upper (strip s)⟩
      | some t =>
        if t = manual.expectedFlowType then .ok t
        else .error ⟨recordId, "flow_type", "FLOW_TYPE_SIGN_MISMATCH",
          "flow_type must be " ++ manual.expectedFlowType.value ++ " for amount=" ++
            manual.amount.text⟩
  | _ => .error missing

/-! ## Completed facts -/

/-- `CompletedCashFlowFacts`: manual and generated fields, safe to aggregate. -/
structure CompletedCashFlowFacts where
  /-- the manual fields -/
  manual : ManualCashFlowFacts
  /-- the direction -/
  flowType : CashFlowType
  /-- the amount in CNY -/
  cnyAmount : Cents
  /-- the exchange rate -/
  exchangeRate : Decimal
  /-- the content fingerprint -/
  dedupKey : String
  /-- where the generated fields come from -/
  source : String
  /-- the row's modification stamp -/
  updatedAt : Cell
deriving DecidableEq

namespace CompletedCashFlowFacts

/-- `facts.record_id`. -/
def recordId (facts : CompletedCashFlowFacts) : String := facts.manual.recordId

/-- `facts.flow_date`. -/
def flowDate (facts : CompletedCashFlowFacts) : CivilDate := facts.manual.flowDate

/-- The issues of a CNY row whose rate is not one. -/
def cnyRateIssues (recordId : String) (manual : ManualCashFlowFacts)
    (exchangeRate : Except CashFlowValidationIssue Decimal) : List CashFlowValidationIssue :=
  match exchangeRate with
  | .ok rate =>
    if manual.currency = .cny ∧ ¬ rate.equal (.ofInt 1) then
      [⟨recordId, "exchange_rate", "CNY_RATE_NOT_ONE", "CNY exchange_rate must equal 1"⟩]
    else []
  | .error _ => []

/-- The issue of a CNY amount at money precision. -/
def cnyQuantIssues (recordId : String) (cnyAmount : Except CashFlowValidationIssue Decimal) :
    List CashFlowValidationIssue :=
  match cnyAmount with
  | .ok cny =>
    if (money? cny).isNone then [⟨recordId, "cny_amount", "CNY_AMOUNT_INVALID",
      "cny_amount cannot be represented at cash-flow money precision"⟩]
    else []
  | .error _ => []

/-- The issues of a CNY amount that is not amount times rate. -/
def cnyAmountIssues (recordId : String) (manual : ManualCashFlowFacts)
    (exchangeRate cnyAmount : Except CashFlowValidationIssue Decimal) :
    List CashFlowValidationIssue :=
  match exchangeRate, cnyAmount with
  | .ok rate, .ok cny =>
    match money? cny with
    | none => []
    | some quantized =>
      match money? (Decimal.mul ⟨manual.amount, -2⟩ rate) with
      | none => [⟨recordId, "exchange_rate", "EXCHANGE_RATE_INVALID",
          "amount * exchange_rate cannot be represented at cash-flow money precision"⟩]
      | some expected =>
        if quantized = expected then []
        else [⟨recordId, "cny_amount", "CNY_AMOUNT_MISMATCH",
          "cny_amount must equal amount * exchange_rate (" ++ expected.text ++ ")"⟩]
  | _, _ => []

/-- The issues of a fingerprint that disagrees with the manual facts. -/
def dedupIssues (recordId expected : String) (flowType : Except CashFlowValidationIssue CashFlowType)
    (dedupKey : Except CashFlowValidationIssue String) : List CashFlowValidationIssue :=
  match flowType, dedupKey with
  | .ok _, .ok key =>
    if expected ≠ "" ∧ key ≠ expected then
      [⟨recordId, "dedup_key", "DEDUP_KEY_MISMATCH",
        "dedup_key disagrees with canonical manual facts"⟩]
    else []
  | _, _ => []

/-- The issues `CompletedCashFlowFacts.validate` collects once the manual facts are known. -/
def issues (rt : Runtime) (record : RawCashFlowRecord) (manual : ManualCashFlowFacts) :
    List CashFlowValidationIssue :=
  let id := record.recordId
  let flowType := Ledger.flowType id manual (record.get "flow_type")
  let exchangeRate := finiteDecimal id "exchange_rate" (record.get "exchange_rate") false true
  let cnyAmount := finiteDecimal id "cny_amount" (record.get "cny_amount") false false
  let dedupKey := requiredText id "dedup_key" (record.get "dedup_key")
  issuesOf flowType ++ issuesOf exchangeRate ++ issuesOf cnyAmount ++
    cnyRateIssues id manual exchangeRate ++ cnyQuantIssues id cnyAmount ++
    cnyAmountIssues id manual exchangeRate cnyAmount ++ issuesOf dedupKey ++
    dedupIssues id (manual.expectedDedupKey rt) flowType dedupKey ++
    issuesOf (requiredText id "source" (record.get "source"))

/-- `CompletedCashFlowFacts.validate(record, manual=manual)`: the facts, or all issues of the
generated fields. -/
def validate (rt : Runtime) (record : RawCashFlowRecord) (manual : ManualCashFlowFacts) :
    Except (List CashFlowValidationIssue) CompletedCashFlowFacts :=
  let id := record.recordId
  match Ledger.flowType id manual (record.get "flow_type"),
    finiteDecimal id "exchange_rate" (record.get "exchange_rate") false true,
    finiteDecimal id "cny_amount" (record.get "cny_amount") false false,
    requiredText id "dedup_key" (record.get "dedup_key"),
    requiredText id "source" (record.get "source") with
  | .ok flowType, .ok exchangeRate, .ok cnyAmount, .ok dedupKey, .ok source =>
    match issues rt record manual, money? cnyAmount with
    | [], some quantized =>
      .ok ⟨manual, flowType, quantized, exchangeRate, dedupKey, source, record.get "updated_at"⟩
    | issues, _ => .error issues
  | _, _, _, _, _ => .error (issues rt record manual)

/-- `CompletedCashFlowFacts.validate(record)`. -/
def validateRecord (rt : Runtime) (record : RawCashFlowRecord) :
    Except (List CashFlowValidationIssue) CompletedCashFlowFacts :=
  match ManualCashFlowFacts.validate rt record with
  | .error issues => .error issues
  | .ok manual => validate rt record manual

end CompletedCashFlowFacts

end PortfolioManagement.Ledger
