import PortfolioManagement.Domain.Holding

/-!
# What an effect is about

A cash-flow effect carries the source it was discovered from: a completed ledger row, the raw row
when it does not validate, the tombstone of a row that disappeared, or an observed change of a CASH
holding. Sources are hashed to recognise a change, previews are hashed to bind a confirmation.
-/

namespace PortfolioManagement

/-! ## Holdings as the effect workflow sees them -/

/-- One row of `_holding_payload`. -/
structure HoldingRow where
  /-- the remote record id -/
  recordId : Nat
  /-- the business identity -/
  identity : HoldingIdentity
  /-- the quantity at money precision -/
  quantity : Cents
deriving DecidableEq

/-- `_holding_payload`: the row, or the empty payload of an absent holding. -/
abbrev HoldingPayload := Option HoldingRow

/-- `_holding_payload(holding)`. -/
def holdingPayload (h : Option Holding) : HoldingPayload :=
  h.map fun row => ⟨row.recordId, row.identity, money row.values.quantity⟩

/-- The `quantity` of a payload; an absent holding has `"0.00"`. -/
def HoldingPayload.quantity (p : HoldingPayload) : Cents := (p.map HoldingRow.quantity).getD 0

/-- The hash of an observed holding. -/
abbrev HoldingHash := Digest HoldingPayload

/-- `_holding_hash(holding)`. -/
def holdingHash (h : Option Holding) : HoldingHash := .of (holdingPayload h)

/-- `_money(holding.quantity if holding else 0)`. -/
def holdingAmount (h : Option Holding) : Cents := (h.map fun row => money row.values.quantity).getD 0

@[simp] theorem quantity_holdingPayload (h : Option Holding) :
    HoldingPayload.quantity (holdingPayload h) = holdingAmount h := by
  cases h <;> rfl

@[simp] theorem holdingAmount_none : holdingAmount none = 0 := rfl

@[simp] theorem holdingAmount_some (h : Holding) :
    holdingAmount (some h) = money h.values.quantity := rfl

/-! ## Sources -/

/-- `source_from_cash_flow`: the source of a completed row. -/
structure SourceFacts where
  /-- the record id -/
  recordId : String
  /-- the date of the flow -/
  flowDate : Date
  /-- the account -/
  account : String
  /-- the broker -/
  broker : String
  /-- the currency -/
  currency : Currency
  /-- the direction -/
  flowType : CashFlowType
  /-- the signed amount -/
  signedAmount : Cents
  /-- the amount in CNY -/
  cnyAmount : Cents
  /-- the exchange rate -/
  exchangeRate : Rat
  /-- the content fingerprint -/
  dedupKey : DedupKey
  /-- where the generated fields come from -/
  source : String
  /-- a free remark -/
  remark : Option String
  /-- the row's modification stamp -/
  updatedAt : Option Nat
deriving DecidableEq

/-- The source of an observed change of a CASH holding. -/
structure ExternalChange where
  /-- the identity text -/
  identity : String
  /-- the observed record id -/
  holdingRecordId : Option Nat
  /-- the date the drift was first seen with this hash -/
  flowDate : Option Date
  /-- the account part of the identity -/
  account : String
  /-- the broker part of the identity -/
  broker : String
  /-- the currency part of the asset -/
  currency : String
  /-- the observed amount -/
  observedAmount : Cents
  /-- the observed hash -/
  observedHash : HoldingHash
  /-- the amount confirmed before the drift -/
  lastConfirmedAmount : Option Cents
deriving DecidableEq

/-- The source of an OpenD observation that differs from the holding. -/
structure Reconciliation where
  /-- the identity text -/
  identity : String
  /-- the date of the observation -/
  flowDate : Date
  /-- the account -/
  account : String
  /-- the currency -/
  currency : Currency
  /-- the observed amount -/
  observedTarget : Cents
  /-- the holding at the observation -/
  currentHolding : Cents
  /-- the OpenD account -/
  accountId : Nat
  /-- the profile the observation came from -/
  profileFingerprint : String
  /-- the observation's source -/
  observationSource : String
deriving DecidableEq

/-- `FUTU_BROKER`. -/
def futuBroker : String := "富途"

/-- The source of an effect version. -/
inductive Source
  | completed (facts : SourceFacts)
  | raw (flow : CashFlow)
  | deleted (previous : Source)
  | externalChange (change : ExternalChange)
  | reconciliation (observation : Reconciliation)
deriving DecidableEq

namespace Source

/-- `source["record_id"]`. -/
def recordId : Source → String
  | .completed facts => facts.recordId
  | .raw flow => flow.recordId
  | .deleted previous => previous.recordId
  | .externalChange change => "holding:" ++ change.identity
  | .reconciliation observation => "futu-reconciliation:" ++ observation.identity

/-- `source.get("account")`. -/
def account : Source → Option String
  | .completed facts => some facts.account
  | .raw flow => flow.account
  | .deleted previous => previous.account
  | .externalChange change => some change.account
  | .reconciliation observation => some observation.account

/-- `source.get("broker")`. -/
def broker : Source → Option String
  | .completed facts => some facts.broker
  | .raw flow => flow.broker
  | .deleted previous => previous.broker
  | .externalChange change => some change.broker
  | .reconciliation _ => some futuBroker

/-- `source.get("currency")`. -/
def currency : Source → Option String
  | .completed facts => some facts.currency.value
  | .raw flow => flow.currency
  | .deleted previous => previous.currency
  | .externalChange change => some change.currency
  | .reconciliation observation => some observation.currency.value

/-- `source.get("signed_amount")`. -/
def signedAmount : Source → Option Cents
  | .completed facts => some facts.signedAmount
  | .raw flow => flow.amount
  | .deleted _ => some 0
  | .externalChange _ => some 0
  | .reconciliation _ => some 0

/-- `source["flow_date"]`. -/
def flowDate : Source → Option Date
  | .completed facts => some facts.flowDate
  | .raw flow => flow.flowDate
  | .deleted previous => previous.flowDate
  | .externalChange change => change.flowDate
  | .reconciliation observation => some observation.flowDate

/-- `source.get("deleted")`. -/
def isDeleted : Source → Bool
  | .deleted _ => true
  | _ => false

/-- `source.get("observed_hash")`. -/
def observedHash : Source → Option HoldingHash
  | .externalChange change => some change.observedHash
  | _ => none

/-- `source.get("last_confirmed_amount")`. -/
def lastConfirmedAmount : Source → Option Cents
  | .externalChange change => change.lastConfirmedAmount
  | _ => none

/-- `self._decimal(source.get("signed_amount") or "0")`. -/
def amountOrZero (s : Source) : Cents := s.signedAmount.getD 0

/-- `CASH_ASSETS` looked up with `str(source.get("currency") or "").upper()`. -/
def cashCurrency (s : Source) : Option Currency := Currency.ofText (upper (textOr s.currency))

/-- `_source_identity`. -/
def sourceIdentity (s : Source) : String × String × String :=
  (textOr s.account, textOr s.broker, upper (textOr s.currency))

/-- `{**previous_source, "deleted": True, "signed_amount": "0.00", ...}`. -/
def deletion (s : Source) : Source := .deleted s

/-- The source of a deletion, or the source itself when it already is one. -/
def tombstone (s : Source) : Source := if s.isDeleted then s else .deleted s

@[simp] theorem recordId_deleted (s : Source) : (Source.deleted s).recordId = s.recordId := rfl

@[simp] theorem sourceIdentity_deleted (s : Source) :
    (Source.deleted s).sourceIdentity = s.sourceIdentity := rfl

@[simp] theorem cashCurrency_deleted (s : Source) :
    (Source.deleted s).cashCurrency = s.cashCurrency := rfl

@[simp] theorem amountOrZero_deleted (s : Source) : (Source.deleted s).amountOrZero = 0 := rfl

@[simp] theorem isDeleted_deleted (s : Source) : (Source.deleted s).isDeleted = true := rfl

end Source

/-- The source hash. -/
abbrev SourceHash := Digest Source

/-- `sha256_json({"contract": ..., "source": source})`. -/
def sourceHash (s : Source) : SourceHash := .of s

@[simp] theorem sourceHash_inj {a b : Source} : sourceHash a = sourceHash b ↔ a = b :=
  Digest.of_inj

/-- `source_from_cash_flow`: the completed facts of a transport object, or the contract error. -/
def sourceFromCashFlow (flow : CashFlow) : Except Error Source :=
  match CompletedCashFlowFacts.validate (RawCashFlowRecord.fromCashFlow flow) with
  | .error issues => .error (.value (contractErrorText issues))
  | .ok facts =>
    if flow.recordId = "" then .error (.value "cash_flow record_id is required")
    else .ok (.completed {
      recordId := flow.recordId
      flowDate := facts.manual.flowDate
      account := facts.manual.account
      broker := facts.manual.broker
      currency := facts.manual.currency
      flowType := facts.flowType
      signedAmount := facts.manual.amount
      cnyAmount := facts.cnyAmount
      exchangeRate := facts.exchangeRate
      dedupKey := facts.dedupKey
      source := facts.source
      remark := facts.manual.remark
      updatedAt := facts.updatedAt })

/-- `_raw_source`. -/
def rawSource (flow : CashFlow) : Source := .raw flow

/-! ## Effect vocabulary -/

/-- `effect_kind`. -/
inductive EffectKind
  | cashFlow
  | externalChange
  | reconciliation
deriving DecidableEq, Repr

namespace EffectKind

/-- The stored text. -/
def text : EffectKind → String
  | .cashFlow => "cash_flow"
  | .externalChange => "cash_holding_external_change"
  | .reconciliation => "broker_cash_reconciliation"

end EffectKind

/-- `mode`. -/
inductive EffectMode
  | apply
  | recordOnly
deriving DecidableEq, Repr

/-- `KNOWN_STATES`. -/
inductive EffectState
  | scheduled | pending | blocked | previewed | stale | applying | compensationPending
  | applied | recordOnly
  | superseded | supersededByCashFlow
deriving DecidableEq, Repr

namespace EffectState

/-- The stored text. -/
def text : EffectState → String
  | .scheduled => "scheduled"
  | .pending => "pending"
  | .blocked => "blocked"
  | .previewed => "previewed"
  | .stale => "stale"
  | .applying => "applying"
  | .compensationPending => "compensation_pending"
  | .applied => "applied"
  | .recordOnly => "record_only"
  | .superseded => "superseded"
  | .supersededByCashFlow => "superseded_by_cash_flow"

/-- `TERMINAL_STATES`. -/
def terminal : List EffectState := [.applied, .recordOnly]

/-- `UNRESOLVED_STATES`. -/
def unresolved : List EffectState :=
  [.scheduled, .pending, .blocked, .previewed, .stale, .applying, .compensationPending]

/-- `UNRESOLVED_STATES - {"compensation_pending"}`. -/
def resolvable : List EffectState :=
  [.scheduled, .pending, .blocked, .previewed, .stale, .applying]

/-- `state.startswith("superseded")`. -/
def isSuperseded (s : EffectState) : Bool := s = .superseded || s = .supersededByCashFlow

/-- The states a version is discovered in. -/
def discovered : List EffectState := [.scheduled, .pending, .blocked]

/-- The states in which nothing of a version has been written. -/
def idle : List EffectState := [.scheduled, .pending, .blocked, .previewed, .stale]

end EffectState

/-- `external_action`. -/
inductive ExternalAction
  | applyDelta
  | alreadyReflected
  | acceptCurrent
  | restore
  | other (text : String)
deriving DecidableEq, Repr

namespace ExternalAction

/-- The option's text. -/
def text : ExternalAction → String
  | .applyDelta => "apply_delta"
  | .alreadyReflected => "already_reflected"
  | .acceptCurrent => "accept_current"
  | .restore => "restore"
  | .other s => s

end ExternalAction

/-- `target_source`. -/
inductive TargetSource
  | futuOpendCurrencyCash
  | lastConfirmedBaseline
  | manualCurrentIncludesEvent
  | estimatedCurrentPlusEvent
  | mixed
  | recordOnly
  | acceptedExternalBaseline
deriving DecidableEq, Repr

/-! ## Previews -/

/-- The OpenD evidence of a Futu target. -/
structure FutuEvidence where
  /-- where the snapshot came from -/
  source : String
  /-- the OpenD account -/
  accountId : Nat
  /-- the profile fingerprint -/
  profileFingerprint : String
  /-- all currency balances -/
  cashByCurrency : List (String × Option Cents)
deriving DecidableEq

/-- One row of `target_rows`. -/
structure TargetRow where
  /-- the identity of the target -/
  identity : HoldingIdentity
  /-- the fresh holding the target was computed from -/
  before : HoldingPayload
  /-- the absolute target -/
  target : HoldingState
  /-- the delta of the operation -/
  delta : Cents
  /-- how the target was determined -/
  targetSource : TargetSource
  /-- the evidence of a Futu target -/
  futuEvidence : Option FutuEvidence
deriving DecidableEq

/-- The hashed payload of a preview. -/
inductive PreviewPayload
  | recordOnly (effectId version : Nat) (source : SourceHash)
  | acceptCurrent (effectId version : Nat) (source : SourceHash) (before : HoldingPayload)
  | apply (effectId version : Nat) (source : SourceHash) (historicalApply : Bool)
      (externalAction : Option ExternalAction) (rows : List TargetRow)
deriving DecidableEq

/-- The preview hash. -/
abbrev PreviewHash := Digest PreviewPayload

/-- The result of `_build_preview`. -/
structure Preview where
  /-- the hashed payload -/
  payload : PreviewPayload
  /-- the warnings shown to the operator -/
  warnings : List String
deriving DecidableEq

namespace PreviewPayload

/-- `target_rows`. -/
def rows : PreviewPayload → List TargetRow
  | .apply _ _ _ _ _ rows => rows
  | _ => []

/-- `mode`. -/
def mode : PreviewPayload → EffectMode
  | .apply _ _ _ _ _ _ => .apply
  | _ => .recordOnly

/-- `target_source`. -/
def targetSource : PreviewPayload → TargetSource
  | .recordOnly _ _ _ => .recordOnly
  | .acceptCurrent _ _ _ _ => .acceptedExternalBaseline
  | .apply _ _ _ _ _ rows =>
    match (rows.map TargetRow.targetSource).dedup with
    | [s] => s
    | _ => .mixed

/-- `befores`, or `before` where there are none. -/
def befores : PreviewPayload → Option (List HoldingPayload)
  | .recordOnly _ _ _ => none
  | .acceptCurrent _ _ _ before => some [before]
  | .apply _ _ _ _ _ rows => some (rows.map TargetRow.before)

/-- `targets`. -/
def targets (p : PreviewPayload) : List HoldingState := p.rows.map TargetRow.target

/-- `effect_id`. -/
def effectId : PreviewPayload → Nat
  | .recordOnly id _ _ => id
  | .acceptCurrent id _ _ _ => id
  | .apply id _ _ _ _ _ => id

end PreviewPayload

namespace Preview

/-- `preview_hash`. -/
def previewHash (p : Preview) : PreviewHash := .of p.payload

/-- `mode`. -/
def mode (p : Preview) : EffectMode := p.payload.mode

end Preview

end PortfolioManagement
