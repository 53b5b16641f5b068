import PortfolioManagement.Lib.Digest
import PortfolioManagement.Domain.Money
import PortfolioManagement.Domain.Text

/-!
# The cash-flow row and its contracts

A ledger row reaches the service as a `CashFlow`, a transport object in which every business field
may be missing. `CompletedCashFlowFacts.require` is the gate to the facts the service may act on:
manual fields first, then the generated ones, each failed check reported as an issue that names the
field and a reason code.
-/

namespace PortfolioManagement

/-- `Currency`: the supported currencies. -/
inductive Currency
  | cny
  | usd
  | hkd
deriving DecidableEq, Repr

namespace Currency

/-- The enumeration value. -/
def value : Currency → String
  | .cny => "CNY"
  | .usd => "USD"
  | .hkd => "HKD"

/-- `Currency(candidate)`. -/
def ofText (s : String) : Option Currency :=
  if s = "CNY" then some .cny else if s = "USD" then some .usd
  else if s = "HKD" then some .hkd else none

/-- `CASH_ASSETS`: the CASH asset of a currency. -/
def cashAsset : Currency → String
  | .cny => "CNY-CASH"
  | .usd => "USD-CASH"
  | .hkd => "HKD-CASH"

/-- `CASH_NAMES`: the display name of a currency's CASH asset. -/
def cashName : Currency → String
  | .cny => "人民币现金"
  | .usd => "美元现金"
  | .hkd => "港币现金"

/-- All currencies, in the order of `CASH_ASSETS`. -/
def all : List Currency := [.cny, .usd, .hkd]

end Currency

/-- `CashFlowType`: the values derived from the sign of an amount. -/
inductive CashFlowType
  | deposit
  | withdraw
deriving DecidableEq, Repr

namespace CashFlowType

/-- The enumeration value. -/
def value : CashFlowType → String
  | .deposit => "DEPOSIT"
  | .withdraw => "WITHDRAW"

/-- Membership in `CASH_FLOW_TYPES`. -/
def ofText (s : String) : Option CashFlowType :=
  if s = "DEPOSIT" then some .deposit else if s = "WITHDRAW" then some .withdraw else none

/-- `expected_cash_flow_type`: the direction of a signed amount. -/
def ofAmount (amount : Cents) : CashFlowType := if 0 < amount then .deposit else .withdraw

end CashFlowType

/-- The fields `expected_cash_flow_dedup_key` hashes. -/
structure DedupFields where
  /-- the account -/
  account : String
  /-- the broker -/
  broker : String
  /-- the date of the flow -/
  flowDate : Date
  /-- the direction -/
  flowType : CashFlowType
  /-- the signed amount -/
  amount : Cents
  /-- the currency -/
  currency : Currency
deriving DecidableEq

/-- The text in a row's `dedup_key` field: the hash of some facts, or any other text. -/
inductive DedupKey
  | hash (fields : Digest DedupFields)
  | text (s : String)
deriving DecidableEq

/-- `CashFlow`: the transport object of a ledger row. Amounts are already quantized to cents. -/
structure CashFlow where
  /-- the row's record id; empty when the source gave none -/
  recordId : String
  /-- the date of the flow -/
  flowDate : Option Date
  /-- the account -/
  account : Option String
  /-- the broker -/
  broker : Option String
  /-- the signed amount -/
  amount : Option Cents
  /-- the currency -/
  currency : Option String
  /-- the amount in CNY -/
  cnyAmount : Option Cents
  /-- the exchange rate -/
  exchangeRate : Option Rat
  /-- the direction -/
  flowType : Option String
  /-- the content fingerprint -/
  dedupKey : Option DedupKey
  /-- where the row's generated fields come from -/
  source : Option String
  /-- a free remark -/
  remark : Option String
  /-- the row's modification stamp -/
  updatedAt : Option Nat
deriving DecidableEq

/-- `RawCashFlowRecord`: an untyped row before any default. -/
structure RawCashFlowRecord where
  /-- the record id, stripped -/
  recordId : String
  /-- the date of the flow -/
  flowDate : Option Date
  /-- the account -/
  account : Option String
  /-- the broker -/
  broker : Option String
  /-- the signed amount, at any precision -/
  amount : Option Rat
  /-- the currency -/
  currency : Option String
  /-- the amount in CNY, at any precision -/
  cnyAmount : Option Rat
  /-- the exchange rate -/
  exchangeRate : Option Rat
  /-- the direction -/
  flowType : Option String
  /-- the content fingerprint -/
  dedupKey : Option DedupKey
  /-- where the row's generated fields come from -/
  source : Option String
  /-- a free remark -/
  remark : Option String
  /-- the row's modification stamp -/
  updatedAt : Option Nat
deriving DecidableEq

/-- `RawCashFlowRecord.from_cash_flow`. -/
def RawCashFlowRecord.fromCashFlow (flow : CashFlow) : RawCashFlowRecord where
  recordId := strip flow.recordId
  flowDate := flow.flowDate
  account := flow.account
  broker := flow.broker
  amount := flow.amount.map Cents.toDecimal
  currency := flow.currency
  cnyAmount := flow.cnyAmount.map Cents.toDecimal
  exchangeRate := flow.exchangeRate
  flowType := flow.flowType
  dedupKey := flow.dedupKey
  source := flow.source
  remark := flow.remark
  updatedAt := flow.updatedAt

/-! ## Field checks -/

/-- `CashFlowValidationIssue`: why a raw row cannot become a fact. -/
structure CashFlowValidationIssue where
  /-- the record -/
  recordId : String
  /-- the field the check is about -/
  field : String
  /-- the machine-readable reason -/
  reasonCode : String
  /-- the reason as text -/
  message : String
deriving DecidableEq

/-- The issues of one check. -/
def issuesOf {α : Type} : Except CashFlowValidationIssue α → List CashFlowValidationIssue
  | .ok _ => []
  | .error issue => [issue]

/-- `_required_text`: a text field that is present and not blank, stripped. -/
def requiredText (recordId field : String) (raw : Option String) :
    Except CashFlowValidationIssue String :=
  let missing := ⟨recordId, field, upper field ++ "_MISSING", field ++ " must be nonblank text"⟩
  match raw with
  | none => .error missing
  | some s => if strip s = "" then .error missing else .ok (strip s)

/-- `_required_text` on the fingerprint field. -/
def requiredDedupKey (recordId : String) (raw : Option DedupKey) :
    Except CashFlowValidationIssue DedupKey :=
  let missing :=
    ⟨recordId, "dedup_key", "DEDUP_KEY_MISSING", "dedup_key must be nonblank text"⟩
  match raw with
  | none => .error missing
  | some (.hash fields) => .ok (.hash fields)
  | some (.text s) => if strip s = "" then .error missing else .ok (.text (strip s))

/-- `_parse_flow_date` of a transport object: present or missing. -/
def parseFlowDate (recordId : String) (raw : Option Date) : Except CashFlowValidationIssue Date :=
  match raw with
  | none => .error ⟨recordId, "flow_date", "FLOW_DATE_MISSING", "flow_date is required"⟩
  | some d => .ok d

/-- `_finite_decimal`: a number that is present and passes the sign check asked for. -/
def finiteDecimal (recordId field : String) (raw : Option Rat) (nonzero positive : Bool) :
    Except CashFlowValidationIssue Rat :=
  match raw with
  | none => .error ⟨recordId, field, upper field ++ "_MISSING", field ++ " is required"⟩
  | some x =>
    if nonzero && x = 0 then
      .error ⟨recordId, field, upper field ++ "_ZERO", field ++ " must be nonzero"⟩
    else if positive && x ≤ 0 then
      .error ⟨recordId, field, upper field ++ "_NOT_POSITIVE", field ++ " must be positive"⟩
    else .ok x

/-- `_supported_currency`. -/
def supportedCurrency (recordId : String) (raw : Option String) :
    Except CashFlowValidationIssue Currency :=
  let missing := ⟨recordId, "currency", "CURRENCY_MISSING", "currency is required"⟩
  match raw with
  | none => .error missing
  | some s =>
    if strip s = "" then .error missing
    else match Currency.ofText (upper (strip s)) with
      | some c => .ok c
      | none => .error ⟨recordId, "currency", "CURRENCY_UNSUPPORTED",
          "unsupported currency: " ++ upper (strip s)⟩

/-! ## Manual facts -/

/-- `ManualCashFlowFacts`: the validated fields the operator owns. -/
structure ManualCashFlowFacts where
  /-- the record id, stripped -/
  recordId : String
  /-- the date of the flow -/
  flowDate : Date
  /-- the account, stripped -/
  account : String
  /-- the broker, stripped -/
  broker : String
  /-- the signed amount -/
  amount : Cents
  /-- the currency -/
  currency : Currency
  /-- a free remark -/
  remark : Option String
deriving DecidableEq

namespace ManualCashFlowFacts

/-- The issue of an amount that vanishes at money precision. -/
def amountZero (recordId : String) : CashFlowValidationIssue :=
  ⟨recordId, "amount", "AMOUNT_ZERO", "amount must remain nonzero at cash-flow money precision"⟩

/-- `ManualCashFlowFacts.validate`: all issues of the manual fields are collected. -/
def validate (record : RawCashFlowRecord) :
    Except (List CashFlowValidationIssue) ManualCashFlowFacts :=
  let flowDate := parseFlowDate record.recordId record.flowDate
  let account := requiredText record.recordId "account" record.account
  let broker := requiredText record.recordId "broker" record.broker
  let amount := finiteDecimal record.recordId "amount" record.amount true false
  let currency := supportedCurrency record.recordId record.currency
  match flowDate, account, broker, amount, currency with
  | .ok flowDate, .ok account, .ok broker, .ok amount, .ok currency =>
    if money amount = 0 then .error [amountZero record.recordId]
    else .ok ⟨record.recordId, flowDate, account, broker, money amount, currency, record.remark⟩
  | flowDate, account, broker, amount, currency =>
    .error (issuesOf flowDate ++ issuesOf account ++ issuesOf broker ++ issuesOf amount ++
      issuesOf currency ++
      match amount with
      | .ok x => if money x = 0 then [amountZero record.recordId] else []
      | .error _ => [])

/-- `expected_flow_type`. -/
def expectedFlowType (manual : ManualCashFlowFacts) : CashFlowType :=
  CashFlowType.ofAmount manual.amount

/-- `expected_cash_flow_dedup_key` for the expected direction. -/
def expectedDedupKey (manual : ManualCashFlowFacts) : DedupKey :=
  .hash (.of ⟨manual.account, manual.broker, manual.flowDate, manual.expectedFlowType,
    manual.amount, manual.currency⟩)

end ManualCashFlowFacts

/-- `_flow_type`: supported, and agreeing with the sign of the amount. -/
def flowType (recordId : String) (manual : ManualCashFlowFacts) (raw : Option String) :
    Except CashFlowValidationIssue CashFlowType :=
  let missing := ⟨recordId, "flow_type", "FLOW_TYPE_MISSING", "flow_type is required"⟩
  match raw with
  | none => .error missing
  | some s =>
    if strip s = "" then .error missing
    else match CashFlowType.ofText (upper (strip s)) with
      | none => .error ⟨recordId, "flow_type", "FLOW_TYPE_UNSUPPORTED",
          "unsupported flow_type: " ++ upper (strip s)⟩
      | some t =>
        if t = manual.expectedFlowType then .ok t
        else .error ⟨recordId, "flow_type", "FLOW_TYPE_SIGN_MISMATCH",
          "flow_type must be " ++ manual.expectedFlowType.value ++ " for amount=" ++
            manual.amount.text⟩

/-! ## Completed facts -/

/-- `CompletedCashFlowFacts`: manual and generated fields, safe to act on. -/
structure CompletedCashFlowFacts where
  /-- the manual fields -/
  manual : ManualCashFlowFacts
  /-- the direction -/
  flowType : CashFlowType
  /-- the amount in CNY -/
  cnyAmount : Cents
  /-- the exchange rate -/
  exchangeRate : Rat
  /-- the content fingerprint -/
  dedupKey : DedupKey
  /-- where the generated fields come from -/
  source : String
  /-- the row's modification stamp -/
  updatedAt : Option Nat
deriving DecidableEq

namespace CompletedCashFlowFacts

/-- The issues of a CNY row whose rate is not one. -/
def cnyRateIssues (recordId : String) (manual : ManualCashFlowFacts)
    (exchangeRate : Except CashFlowValidationIssue Rat) : List CashFlowValidationIssue :=
  match exchangeRate with
  | .ok rate =>
    if manual.currency = .cny ∧ rate ≠ 1 then
      [⟨recordId, "exchange_rate", "CNY_RATE_NOT_ONE", "CNY exchange_rate must equal 1"⟩]
    else []
  | .error _ => []

/-- The issues of a CNY amount that disagrees with amount times rate. -/
def cnyAmountIssues (recordId : String) (manual : ManualCashFlowFacts)
    (exchangeRate cnyAmount : Except CashFlowValidationIssue Rat) :
    List CashFlowValidationIssue :=
  match exchangeRate, cnyAmount with
  | .ok rate, .ok cny =>
    let expected := money (manual.amount.toDecimal * rate)
    if money cny = expected then []
    else [⟨recordId, "cny_amount", "CNY_AMOUNT_MISMATCH",
      "cny_amount must equal amount * exchange_rate (" ++ expected.text ++ ")"⟩]
  | _, _ => []

/-- The issues of a fingerprint that disagrees with the manual facts. -/
def dedupIssues (recordId : String) (manual : ManualCashFlowFacts)
    (flowType : Except CashFlowValidationIssue CashFlowType)
    (dedupKey : Except CashFlowValidationIssue DedupKey) : List CashFlowValidationIssue :=
  match flowType, dedupKey with
  | .ok _, .ok key =>
    if key = manual.expectedDedupKey then []
    else [⟨recordId, "dedup_key", "DEDUP_KEY_MISMATCH",
      "dedup_key disagrees with canonical manual facts"⟩]
  | _, _ => []

/-- `CompletedCashFlowFacts.validate`: the generated fields are checked once the manual ones
passed, and their issues are collected. -/
def validate (record : RawCashFlowRecord) :
    Except (List CashFlowValidationIssue) CompletedCashFlowFacts :=
  match ManualCashFlowFacts.validate record with
  | .error issues => .error issues
  | .ok manual =>
    let id := record.recordId
    let flowType := PortfolioManagement.flowType id manual record.flowType
    let exchangeRate := finiteDecimal id "exchange_rate" record.exchangeRate false true
    let cnyAmount := finiteDecimal id "cny_amount" record.cnyAmount false false
    let dedupKey := requiredDedupKey id record.dedupKey
    let source := requiredText id "source" record.source
    let issues := issuesOf flowType ++ issuesOf exchangeRate ++ issuesOf cnyAmount ++
      cnyRateIssues id manual exchangeRate ++ cnyAmountIssues id manual exchangeRate cnyAmount ++
      issuesOf dedupKey ++ dedupIssues id manual flowType dedupKey ++ issuesOf source
    match flowType, exchangeRate, cnyAmount, dedupKey, source with
    | .ok flowType, .ok exchangeRate, .ok cnyAmount, .ok dedupKey, .ok source =>
      if issues = [] then
        .ok ⟨manual, flowType, money cnyAmount, exchangeRate, dedupKey, source, record.updatedAt⟩
      else .error issues
    | _, _, _, _, _ => .error issues

/-- `to_cash_flow`. -/
def toCashFlow (facts : CompletedCashFlowFacts) : CashFlow where
  recordId := facts.manual.recordId
  flowDate := some facts.manual.flowDate
  account := some facts.manual.account
  broker := some facts.manual.broker
  amount := some facts.manual.amount
  currency := some facts.manual.currency.value
  cnyAmount := some facts.cnyAmount
  exchangeRate := some facts.exchangeRate
  flowType := some facts.flowType.value
  dedupKey := some facts.dedupKey
  source := some facts.source
  remark := facts.manual.remark
  updatedAt := facts.updatedAt

end CompletedCashFlowFacts

/-- What a NAV run froze of the ledger for one account. -/
structure CashFlowDataset where
  /-- the account -/
  account : String
  /-- the NAV date -/
  navDate : Date
  /-- the rows that validated -/
  completedRows : List CompletedCashFlowFacts
  /-- the reasons the dataset cannot authorize a NAV -/
  blockers : List CashFlowValidationIssue
deriving DecidableEq

/-- The text of `CashFlowContractError`. -/
def contractErrorText (issues : List CashFlowValidationIssue) : String :=
  "cash_flow validation blockers: " ++ "; ".intercalate (issues.map fun item =>
    (if item.recordId = "" then "(new)" else item.recordId) ++ ":" ++ item.field ++ ":" ++
      item.reasonCode)

end PortfolioManagement
