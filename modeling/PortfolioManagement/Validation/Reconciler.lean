import PortfolioManagement.Validation.Validator

/-!
# The reconciliation of holdings

`evaluate_records` asks Futu once for every account it takes to be Futu's, looks a single row's name
up where the row is a candidate for that, and validates the rows against what it got.
-/

namespace PortfolioManagement.Validation

open Ledger (Cell)
open Monitor (RawHoldingRecord holdingBrokerScope BrokerScope)

/-- The reconciler's texts: those of a validation, and the text of a list, a mapping or a date. -/
structure ReconcilerRuntime extends ValidationRuntime where
  /-- `str` of a list, of a mapping or of a date -/
  strOf : Cell → String
  /-- it has a bracket, a brace or a dash in it -/
  strOf_caseless : ∀ value : Cell, ∃ c ∈ (strOf value).toList, c ∈ ['[', '\x7b', '-']

/-- A position of an observed portfolio. -/
structure PositionSnapshot where
  /-- `asset_id` -/
  assetId : String
  /-- `raw_code` -/
  rawCode : String
  /-- `asset_name` -/
  assetName : String
  /-- `security_type` -/
  securityType : String
  /-- `market` -/
  market : String
  /-- `currency` -/
  currency : String
  /-- `currency_explicit` -/
  currencyExplicit : Bool
deriving DecidableEq

/-- What an observer returns, as far as it is evidence. -/
structure PortfolioSnapshot where
  /-- `source_snapshot_id` -/
  sourceSnapshotId : Option String
  /-- `observed_at_utc` -/
  observedAtUtc : Option String
  /-- `profile_fingerprint` -/
  profileFingerprint : Option String
  /-- `account_fingerprint` -/
  accountFingerprint : Option String
  /-- `source` -/
  source : String
  /-- `positions` -/
  positions : List PositionSnapshot
deriving DecidableEq

/-- What a reconciler asks. -/
structure Observers where
  /-- `futu_observer`, with the text of what it raises -/
  futu : String → Except String PortfolioSnapshot
  /-- `fund_name_lookup`; `none` where it raises or returns no mapping -/
  fundName : String → Option (Items String Cell)
  /-- `hk_stock_name_lookup`; `none` where it raises or returns no mapping -/
  hkStockName : String → Option (Items String Cell)

/-- What an evaluation is asked for. -/
structure Request where
  /-- `record_id` -/
  recordId : Option String
  /-- `include_fund_name` -/
  includeFundName : Bool
  /-- `include_hk_stock_name` -/
  includeHkStockName : Bool

section
variable (rt : ReconcilerRuntime)

/-- `str(value or "")`. -/
def strOr (value : Cell) : String :=
  if value.truthy then
    match value with
    | .null => ""
    | .bool _ => "True"
    | .int n => toString n
    | .float x => rt.numberText (.float x)
    | .decimal x => rt.numberText (.decimal x)
    | .nonFinite => rt.numberText .nonFinite
    | .text s => s
    | .date _ | .datetime .. | .other .. => rt.strOf value
  else ""

/-- The names `_is_futu` knows. -/
def futuNames : List String := ["futu", "moomoo", "富途"]

/-- `_is_futu`. -/
def isFutu (value : Cell) : Bool := rt.lower (strip (strOr rt value)) ∈ futuNames

/-- `str(record.raw_fields.get("account") or "").strip()`. -/
def accountText (record : RawHoldingRecord) : String := strip (strOr rt (record.get "account"))

/-- `futu_accounts`. -/
def futuAccounts (records : List RawHoldingRecord) : List String :=
  let named := records.filter fun record => isFutu rt (record.get "broker") && accountText rt record ≠ ""
  ((named.map (accountText rt)).dedup).insertionSort (· ≤ ·)

/-- `str(value or "").strip()` of a snapshot's text. -/
def strippedText (value : Option String) : String := strip (value.getD "")

/-- A position as evidence. -/
def positionEvidence (position : PositionSnapshot) : FutuPositionEvidence where
  assetId := position.assetId
  rawCode := position.rawCode
  assetName := position.assetName
  securityType := rt.upper position.securityType
  market := rt.upper position.market
  currency := if rt.upper position.currency = "" then none else some (rt.upper position.currency)
  currencyExplicit := position.currencyExplicit

/-- `currency.isascii() and currency.isalpha() and 3 <= len(currency) <= 5`. -/
def isExplicitCurrency (currency : String) : Bool :=
  currency.toList.all (fun c => isCapital c || ('a' ≤ c && c ≤ 'z')) && 3 ≤ currency.toList.length &&
    currency.toList.length ≤ 5

/-- What makes a position no evidence. -/
def positionError (position : FutuPositionEvidence) : Option String :=
  if position.assetId = "" ∨ position.rawCode = "" then
    some "Futu position evidence lacks an exact identity"
  else if position.currencyExplicit ∧ ¬ isExplicitCurrency (position.currency.getD "") then
    some "Futu position explicit currency is invalid"
  else none

/-- `_evidence_from_snapshot`. -/
def evidenceFromSnapshot (account : String) (snapshot : PortfolioSnapshot) :
    Except String FutuAccountEvidence :=
  let sourceSnapshotId := strippedText snapshot.sourceSnapshotId
  let sourceAsOf := strippedText snapshot.observedAtUtc
  let profileFingerprint := strippedText snapshot.profileFingerprint
  let accountFingerprint := strippedText snapshot.accountFingerprint
  let positions := snapshot.positions.map (positionEvidence rt)
  if sourceSnapshotId = "" ∨ sourceAsOf = "" ∨ profileFingerprint = "" ∨ accountFingerprint = "" then
    .error "Futu observation lacks snapshot, time, profile, or account identity"
  else match positions.findSome? positionError with
    | some error => .error error
    | none => .ok ⟨account, if snapshot.source = "" then "futu" else snapshot.source, sourceSnapshotId,
        sourceAsOf, positions, profileFingerprint, accountFingerprint⟩

/-- The observations of an evaluation: the accounts it has asked for, and what it got. -/
structure Observations where
  /-- the calls of the observer, in their order -/
  calls : List String
  /-- `evidence_by_account` -/
  evidenceByAccount : Items String FutuAccountEvidence
  /-- `evidence_errors` -/
  evidenceErrors : Items String String

/-- One round of the loop over the accounts. -/
def observeAccount (observers : Observers) (o : Observations) (account : String) : Observations :=
  match (observers.futu account).bind (evidenceFromSnapshot rt account) with
  | .ok evidence =>
    { o with calls := o.calls ++ [account],
             evidenceByAccount := Items.set account evidence o.evidenceByAccount }
  | .error message =>
    { o with calls := o.calls ++ [account],
             evidenceErrors := Items.set account message o.evidenceErrors }

/-- The observations of all accounts. -/
def observeAccounts (observers : Observers) (records : List RawHoldingRecord) : Observations :=
  (futuAccounts rt records).foldl (observeAccount rt observers) ⟨[], [], []⟩

/-! ## Names -/

/-- `holding_broker_scope` of a raw value. -/
def rawScope : Cell → BrokerScope
  | .text s => holdingBrokerScope rt.toValueRuntime (some s)
  | _ => .unknown

/-- The name is missing, the account is there and the broker is not Futu. -/
def isNameCandidate (record : RawHoldingRecord) : Bool :=
  (match record.get "asset_name" with
    | .null => true
    | .text name => strip name = ""
    | _ => false) &&
  (match record.get "account" with
    | .text account => strip account ≠ ""
    | _ => false) &&
  rawScope rt (record.get "broker") = .nonFutu

/-- `is_fund_name_candidate`. -/
def isFundNameCandidate (record : RawHoldingRecord) : Bool :=
  (match record.get "asset_id" with
    | .text code => (strip code).toList.all Char.isDigit && (strip code).toList.length = 6
    | _ => false) &&
  (record.get "asset_type" = .text "cn_fund" || record.get "asset_type" = .text "otc_fund") &&
  isNameCandidate rt record

/-- `is_hk_stock_name_candidate`. -/
def isHkStockNameCandidate (record : RawHoldingRecord) : Bool :=
  (match record.get "asset_id" with
    | .text code => (normalizeHkStockCode rt.toValidationRuntime code).isSome
    | _ => false) &&
  record.get "asset_type" = .text "hk_stock" && isNameCandidate rt record

/-- `is_automatic_name_candidate`. -/
def isAutomaticNameCandidate (record : RawHoldingRecord) : Bool :=
  isFundNameCandidate rt record || isHkStockNameCandidate rt record

/-- A fund quote that names the fund it was asked for. -/
def fundNameOf (code : String) (quote : Items String Cell) : Option FundName :=
  match quote.lookup "name" with
  | some (.text name) =>
    if h : quote.lookup "code" = some (.text code) ∧ quote.lookup "source" = some (.text "tencent_jj") ∧
        strip name ≠ "" ∧ strip name ≠ code ∧ ((quote.lookup "source_as_of").getD .null).truthy then
      some {
        name := strip name
        code
        source := "tencent_jj"
        payload := Items.set "name" (.text (strip name)) quote
        nonblank := by
          rw [strip_strip]
          exact h.2.2.1
        named := by
          unfold Items.set
          rw [Items.lookup_update, if_pos rfl] }
    else none
  | _ => none

/-- The text a raw value is. -/
def rawText : Cell → String
  | .text s => s
  | _ => ""

/-- The single row an evaluation is about. -/
def requestedRow (request : Request) : List RawHoldingRecord → Option RawHoldingRecord
  | [record] =>
    if record.recordId ≠ "" ∧ request.recordId = some record.recordId then some record else none
  | _ => none

/-- `fund_names`. -/
def fundNames (observers : Observers) (request : Request) (records : List RawHoldingRecord) :
    Items String FundName :=
  match requestedRow request records with
  | some record =>
    let code := strip (rawText (record.get "asset_id"))
    if request.includeFundName ∧ isFundNameCandidate rt record then
      (((observers.fundName code).bind (fundNameOf code)).map fun name => (code, name)).toList
    else []
  | none => []

/-- `hk_stock_names`. -/
def hkStockNames (observers : Observers) (request : Request) (records : List RawHoldingRecord) :
    Items String (Items String Cell) :=
  match requestedRow request records with
  | some record =>
    if request.includeHkStockName ∧ isHkStockNameCandidate rt record then
      let code := (normalizeHkStockCode rt.toValidationRuntime (rawText (record.get "asset_id"))).getD ""
      ((verifiedHkName rt.toValidationRuntime (observers.hkStockName code) (some code)).map fun name =>
        (code, name.2)).toList
    else []
  | none => []

/-! ## Evaluations -/

/-- `HoldingsReconciliationEvaluation`, with what it was made from. -/
structure Evaluation where
  /-- the accounts the observer was called for, in their order -/
  calls : List String
  /-- the evidence the rows were validated against -/
  bundle : HoldingsEvidenceBundle
  /-- `report` -/
  report : HoldingsValidationReport

/-- `evaluate_records`. -/
def evaluateRecords (observers : Observers) (request : Request) (records : List RawHoldingRecord) :
    Evaluation :=
  let observed := observeAccounts rt observers records
  let bundle : HoldingsEvidenceBundle :=
    ⟨observed.evidenceByAccount, observed.evidenceErrors, fundNames rt observers request records,
      hkStockNames rt observers request records⟩
  ⟨observed.calls, bundle, validate rt.toValidationRuntime bundle records⟩

end

end PortfolioManagement.Validation
