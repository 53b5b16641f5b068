import PortfolioManagement.Domain.Enums
import PortfolioManagement.Ledger.Reconcile
import PortfolioManagement.Validation.Evidence

/-!
# The validation of raw holdings

`_validate_record` judges the fields of a row one by one. An outcome says whether the field is valid,
what stands in it, and what an authority proposes for it: the form of the asset id, the position Futu
reports, a quote's name, the policy of the asset type. The asset type a row has, or is to get, decides
what is proposed for its currency and its class.
-/

namespace PortfolioManagement.Validation

open Ledger (Cell)
open Monitor (RawHoldingRecord holdingText holdingDecimal holdingBrokerScope canonicalHoldingNumber
  holdingCurrencies nonblank duplicateHoldingGroups Identity)

/-- What a validation takes from the standard library beside the texts. Nothing is assumed about it. -/
structure ValidationRuntime extends TextRuntime where
  /-- a list of texts, or a text that `json.loads` reads as one -/
  tagsOf : Cell → Option (List String)
  /-- `parse_holding_date` reads the text -/
  isHoldingDate : String → Bool
  /-- `datetime.fromisoformat` reads the text as a time with an offset -/
  isAwareTime : String → Bool

/-- `FieldOutcome.status`. -/
inductive Status
  | valid
  | missingCompletable
  | missingManual
  | conflict
  | invalid
  | optionalMissing
deriving DecidableEq, Repr

/-- `FieldOutcome.current`. -/
inductive OutcomeValue
  | cell (value : Cell)
  | number (value : Rat)
  | tags (values : List String)
deriving DecidableEq

/-- A value of an outcome's evidence. -/
inductive EvidenceValue
  | text (s : String)
  | texts (values : List String)
  | items (values : Items String String)
  | cell (value : Cell)
deriving DecidableEq

/-- `FieldOutcome`. -/
structure FieldOutcome where
  /-- `field` -/
  field : String
  /-- `status` -/
  status : Status
  /-- `current` -/
  current : OutcomeValue
  /-- `proposed` -/
  proposed : Option String := none
  /-- `authority` -/
  authority : Option String := none
  /-- `authority_id` -/
  authorityId : Option String := none
  /-- `reason_code` -/
  reasonCode : String
  /-- `blocks_official_nav` -/
  blocksOfficialNav : Bool
  /-- `evidence` -/
  evidence : Option (Items String EvidenceValue) := none
deriving DecidableEq

/-- `RecordIssue`, with its `details`. -/
structure RecordIssue where
  /-- `kind` -/
  kind : String
  /-- `reason_code` -/
  reasonCode : String
  /-- the identity it is about, of a duplicate -/
  identity : Option Identity
  /-- the records it is about -/
  recordIds : List String
deriving DecidableEq

/-- `RecordValidation`. -/
structure RecordValidation where
  /-- `raw` -/
  raw : RawHoldingRecord
  /-- `outcomes` -/
  outcomes : List FieldOutcome
  /-- `issues` -/
  issues : List RecordIssue
deriving DecidableEq

/-- `_CASH_ASSET_ID_RE.match` with its two groups; `$` stands before a last line break too. -/
def cashAssetId (s : String) : Option (String × Bool) :=
  let currency := s.toList.takeWhile isCapital
  if currency.length < 3 ∨ 5 < currency.length then none
  else
    let rest := String.ofList (s.toList.drop currency.length)
    if rest = "-CASH" ∨ rest = "-CASH\n" then some (String.ofList currency, true)
    else if rest = "-MMF" ∨ rest = "-MMF\n" then some (String.ofList currency, false)
    else none

/-- `_MARKET_SUFFIX_RE.search` with its group. -/
def marketSuffix (s : String) : Option String :=
  let reversed := if s.toList.getLast? = some '\n' then s.toList.reverse.tail else s.toList.reverse
  match reversed.take 3 with
  | [second, first, dot] =>
    if isCapital first ∧ isCapital second ∧ dot = '.' then some (String.ofList [first, second]) else none
  | _ => none

/-- `_CURRENCY_RE.fullmatch`. -/
def isCurrencyCode (s : String) : Bool :=
  s.toList.all isCapital && 3 ≤ s.toList.length && s.toList.length ≤ 5

/-- `CURRENCY_TYPO_CORRECTIONS`. -/
def currencyTypoCorrections : Items String String := [("HDK", "HKD")]

/-- `CURRENCY_TYPO_POLICY_VERSION`. -/
def currencyTypoPolicyVersion : String := "currency-typo.v1"

/-- `asset_class_for_economic_exposure`. -/
def assetClassForEconomicExposure : Option AssetType → Option AssetClass
  | some .aStock => some .cnAsset
  | some .cash | some .mmf => some .cash
  | _ => none

/-- A value an authority proposes. -/
structure Proposal (α : Type) where
  /-- `proposed` -/
  value : α
  /-- `authority` -/
  authority : String
  /-- `authority_id` -/
  authorityId : Option String
  /-- the evidence -/
  evidence : Option (Items String String)
deriving DecidableEq

/-- The evidence of a proposal in an outcome. -/
def asEvidence (evidence : Option (Items String String)) : Option (Items String EvidenceValue) :=
  evidence.map fun items => items.map fun item => (item.1, .text item.2)

section
variable (rt : ValidationRuntime)

/-- `_text`. -/
def text (value : Cell) : Option String := holdingText rt.toValueRuntime value

/-- `_futu_authority_id`. -/
def futuAuthorityId (evidence : FutuAccountEvidence) (position : FutuPositionEvidence)
    (fieldName : String) : String :=
  let profile := if evidence.profileFingerprint = "" then "profile-unavailable"
    else evidence.profileFingerprint
  let account := if evidence.accountFingerprint = "" then "account-unavailable"
    else evidence.accountFingerprint
  "futu:" ++ evidence.account ++ ":" ++ profile ++ ":" ++ account ++ ":" ++
    position.authorityIdentity rt.toTextRuntime ++ ":" ++ fieldName

/-- Where a Futu value was observed. -/
def FutuAccountEvidence.payload (evidence : FutuAccountEvidence) : Items String String :=
  [("source", evidence.source), ("source_snapshot_id", evidence.sourceSnapshotId),
    ("source_as_of", evidence.sourceAsOf), ("profile_fingerprint", evidence.profileFingerprint),
    ("account_fingerprint", evidence.accountFingerprint)]

/-! ## Fields of their own -/

/-- `value is None or (isinstance(value, str) and not value.strip())`. -/
def isBlank : Cell → Bool
  | .null => true
  | .text s => strip s = ""
  | _ => false

/-- `_required_text`. -/
def requiredText (field upperField : String) (value : Cell) : FieldOutcome :=
  match text rt value with
  | none => ⟨field, .missingManual, .cell value, none, none, none, upperField ++ "_MISSING", true, none⟩
  | some normalized =>
    ⟨field, .valid, .cell (.text normalized), none, none, none, upperField ++ "_PRESENT", true, none⟩

/-- `_quantity`. -/
def quantity (value : Cell) : FieldOutcome :=
  if isBlank value then
    ⟨"quantity", .missingManual, .cell value, none, none, none, "QUANTITY_MISSING", true, none⟩
  else match holdingDecimal value with
    | none => ⟨"quantity", .invalid, .cell value, none, none, none, "QUANTITY_INVALID_OR_NONFINITE", true, none⟩
    | some x =>
      ⟨"quantity", .valid, .number (canonicalHoldingNumber x), none, none, none,
        if canonicalHoldingNumber x = 0 then "QUANTITY_ZERO_VALID" else "QUANTITY_VALID", true, none⟩

/-- `_optional_decimal`. -/
def optionalDecimal (field upperField : String) (value : Cell) : FieldOutcome :=
  if isBlank value then
    ⟨field, .optionalMissing, .cell value, none, none, none, upperField ++ "_OPTIONAL_MISSING", false, none⟩
  else match holdingDecimal value with
    | none => ⟨field, .invalid, .cell value, none, none, none, upperField ++ "_INVALID_OR_NONFINITE", false, none⟩
    | some x =>
      ⟨field, .valid, .number (canonicalHoldingNumber x), none, none, none, upperField ++ "_VALID", false, none⟩

/-- `_optional_enum` of the industry. -/
def optionalIndustry (value : Cell) : FieldOutcome :=
  match text rt value with
  | none =>
    ⟨"industry", .optionalMissing, .cell value, none, none, none, "INDUSTRY_OPTIONAL_MISSING", false, none⟩
  | some normalized =>
    match Industry.ofValue normalized with
    | none => ⟨"industry", .invalid, .cell value, none, none, none, "INDUSTRY_INVALID", false, none⟩
    | some parsed =>
      ⟨"industry", .valid, .cell (.text parsed.value), none, none, none, "INDUSTRY_VALID", false, none⟩

/-- `_optional_tag`. -/
def optionalTag (value : Cell) : FieldOutcome :=
  if value = .null ∨ value = .text "" then
    ⟨"tag", .optionalMissing, .cell value, none, none, none, "TAG_OPTIONAL_MISSING", false, none⟩
  else match rt.tagsOf value with
    | none => ⟨"tag", .invalid, .cell value, none, none, none, "TAG_INVALID", false, none⟩
    | some [] => ⟨"tag", .optionalMissing, .tags [], none, none, none, "TAG_OPTIONAL_MISSING", false, none⟩
    | some tags => ⟨"tag", .valid, .tags tags, none, none, none, "TAG_VALID", false, none⟩

/-- `_optional_transport_field`. -/
def optionalTransportField (field upperField : String) (value : Cell) : FieldOutcome :=
  match text rt value with
  | none =>
    ⟨field, .optionalMissing, .cell .null, none, none, none, upperField ++ "_OPTIONAL_MISSING", false, none⟩
  | some normalized =>
    if rt.isHoldingDate normalized then
      ⟨field, .valid, .cell (.text normalized), none, some "manual_raw_unverified", none,
        upperField ++ "_PRESENT", false, none⟩
    else ⟨field, .invalid, .cell value, none, none, none, upperField ++ "_INVALID", false, none⟩

/-! ## The asset type -/

/-- The type a position proposes. -/
def positionType (position : FutuPositionEvidence) : Option AssetType :=
  let market := rt.upper position.market
  if position.securityType = "ETF" then some .exchangeFund
  else if market = "HK" then some .hkStock
  else if market = "US" then some .usStock
  else if market ∈ ["SH", "SZ", "CN"] then some .aStock
  else none

/-- The type an authority proposes. -/
def proposedType (assetId : Option String) (position : Option FutuPositionEvidence)
    (futuEvidence : Option FutuAccountEvidence) : Option (Proposal AssetType) :=
  let explicit := rt.upper (assetId.getD "")
  match cashAssetId explicit with
  | some (_, isCash) =>
    some ⟨if isCash then .cash else .mmf, "asset_id_explicit", some ("asset_id:" ++ explicit), none⟩
  | none =>
    match position, futuEvidence with
    | some position, some evidence =>
      (positionType rt position).map fun proposed =>
        ⟨proposed, "futu_explicit", some (futuAuthorityId rt evidence position "type"),
          some (evidence.payload ++
            [("security_type", position.securityType), ("market", position.market)])⟩
    | _, _ => none

/-- `_asset_type`: the outcome, and the type the other fields are judged by. -/
def assetType (value : Cell) (proposal : Option (Proposal AssetType)) : FieldOutcome × Option AssetType :=
  match text rt value with
  | none =>
    match proposal with
    | none =>
      (⟨"asset_type", .missingManual, .cell value, none, none, none, "ASSET_TYPE_AUTHORITY_UNAVAILABLE",
        true, none⟩, none)
    | some p =>
      (⟨"asset_type", .missingCompletable, .cell value, some p.value.value, some p.authority,
        p.authorityId, "ASSET_TYPE_COMPLETION_AVAILABLE", true, asEvidence p.evidence⟩, some p.value)
  | some normalized =>
    match AssetType.ofValue (rt.lower normalized) with
    | none =>
      (⟨"asset_type", .invalid, .cell value, none, none, none, "ASSET_TYPE_INVALID", true, none⟩, none)
    | some current =>
      match proposal with
      | none =>
        (⟨"asset_type", .valid, .cell (.text current.value), none, some "manual_raw_unverified", none,
          "ASSET_TYPE_VALID", true, none⟩, some current)
      | some p =>
        if current ≠ p.value then
          (⟨"asset_type", .conflict, .cell (.text current.value), some p.value.value, some p.authority,
            p.authorityId, "ASSET_TYPE_AUTHORITY_CONFLICT", true, asEvidence p.evidence⟩, none)
        else
          (⟨"asset_type", .valid, .cell (.text current.value), some p.value.value, some p.authority,
            p.authorityId, "ASSET_TYPE_VALID", true, asEvidence p.evidence⟩, some current)

/-! ## The name -/

/-- `normalize_hk_stock_code` of a text. -/
def normalizeHkStockCode (value : String) : Option String :=
  let code := (rt.upper (strip value)).toList
  let digits :=
    if "HK.".toList.isPrefixOf code then code.drop 3
    else if "HK".toList.isPrefixOf code then code.drop 2
    else if ".HK".toList.isSuffixOf code then code.take (code.length - 3)
    else code
  if digits ≠ [] ∧ digits.length ≤ 5 ∧ digits.all Char.isDigit ∧ digits.any (· ≠ '0') then
    some (String.ofList (List.replicate (5 - digits.length) '0' ++ digits))
  else none

/-- `verified_hk_name`: the mapping with its name stripped. -/
def verifiedHkName (evidence : Option (Items String Cell)) (assetId : Option String) :
    Option (String × Items String Cell) :=
  match assetId.bind (normalizeHkStockCode rt), evidence with
  | some code, some evidence =>
    let get (key : String) : Cell := (evidence.lookup key).getD .null
    match get "name", get "source_as_of" with
    | .text name, .text sourceAsOf =>
      if get "code" ≠ .text code ∨ get "market" ≠ .text "HK" ∨ get "source" ≠ .text "tencent_hk" ∨
          strip name = "" ∨ (normalizeHkStockCode rt name).isSome ∨ strip sourceAsOf = "" ∨
          ¬ rt.isAwareTime sourceAsOf ∨ (get "is_stale").truthy ∨ (get "is_from_cache").truthy then none
      else some (strip name, Items.set "name" (.text (strip name)) evidence)
    | _, _ => none
  | _, _ => none

/-- The name a position proposes. -/
def positionName (position : Option FutuPositionEvidence)
    (futuEvidence : Option FutuAccountEvidence) : Option (Proposal String) :=
  position.bind fun position => (nonblank position.assetName).map fun name =>
    ⟨name, "futu_explicit", futuEvidence.map fun evidence => futuAuthorityId rt evidence position "name",
      futuEvidence.map FutuAccountEvidence.payload⟩

/-- `_asset_name`. -/
def assetName (value : Cell) (proposal : Option (Proposal String)) (fundName : Option FundName)
    (hkStockName : Option (String × String × Items String Cell)) : FieldOutcome :=
  match text rt value with
  | none =>
    match proposal, fundName, hkStockName with
    | some p, _, _ =>
      ⟨"asset_name", .missingCompletable, .cell value, some p.value, some p.authority, p.authorityId,
        "ASSET_NAME_COMPLETION_AVAILABLE", true, asEvidence p.evidence⟩
    | none, some fund, _ =>
      ⟨"asset_name", .missingCompletable, .cell value, some fund.name, some "fund_quote",
        some (fund.source ++ ":" ++ fund.code ++ ":name"), "ASSET_NAME_COMPLETION_AVAILABLE", true,
        some (fund.payload.map fun item => (item.1, .cell item.2))⟩
    | none, none, some (code, name, payload) =>
      ⟨"asset_name", .missingCompletable, .cell value, some name, some "hk_stock_quote",
        some ("tencent_hk:HK:" ++ code ++ ":name"), "ASSET_NAME_COMPLETION_AVAILABLE", true,
        some (payload.map fun item => (item.1, .cell item.2))⟩
    | none, none, none =>
      ⟨"asset_name", .missingManual, .cell value, none, none, none, "ASSET_NAME_MISSING", true, none⟩
  | some current =>
    match proposal with
    | none =>
      ⟨"asset_name", .valid, .cell (.text current), none, some "manual_raw_unverified", none,
        "ASSET_NAME_VALID", false, none⟩
    | some p =>
      if current ≠ p.value then
        ⟨"asset_name", .conflict, .cell (.text current), some p.value, some p.authority, p.authorityId,
          "ASSET_NAME_AUTHORITY_CONFLICT", false, asEvidence p.evidence⟩
      else
        ⟨"asset_name", .valid, .cell (.text current), some p.value, some p.authority, p.authorityId,
          "ASSET_NAME_VALID", false, asEvidence p.evidence⟩

/-! ## The currency -/

/-- The currency a position states. -/
def positionCurrency (position : Option FutuPositionEvidence)
    (futuEvidence : Option FutuAccountEvidence) : Option (Proposal String) :=
  match position with
  | some position =>
    match position.currency with
    | some currency =>
      if position.currencyExplicit ∧ currency ≠ "" then
        some ⟨rt.upper currency, "futu_explicit",
          futuEvidence.map fun evidence => futuAuthorityId rt evidence position "currency",
          futuEvidence.map fun evidence => evidence.payload ++
            [("raw_code", position.rawCode), ("market", position.market)]⟩
      else none
    | none => none
  | none => none

/-- The currency the asset id or the type of an asset names. -/
def typeCurrency (assetId : Option String) (assetType : Option AssetType) : Option (Proposal String) :=
  let explicit := rt.upper (assetId.getD "")
  match assetType, cashAssetId explicit with
  | some .cash, some (currency, _) | some .mmf, some (currency, _) =>
    some ⟨currency, "asset_id_explicit", some ("asset_id:" ++ explicit ++ ":currency"), none⟩
  | some .aStock, _ => some ⟨"CNY", "asset_type_policy", some "asset_type:a_stock", none⟩
  | some .cnFund, _ => some ⟨"CNY", "asset_type_policy", some "asset_type:cn_fund", none⟩
  | some .otcFund, _ => some ⟨"CNY", "asset_type_policy", some "asset_type:otc_fund", none⟩
  | some .usStock, _ => some ⟨"USD", "asset_type_policy", some "asset_type:us_stock", none⟩
  | some .usFund, _ => some ⟨"USD", "asset_type_policy", some "asset_type:us_fund", none⟩
  | some .exchangeFund, _ | some .fund, _ =>
    match marketSuffix explicit with
    | some "US" => some ⟨"USD", "asset_id_explicit", some ("asset_id:" ++ explicit ++ ":market"), none⟩
    | some "SH" | some "SZ" =>
      some ⟨"CNY", "asset_id_explicit", some ("asset_id:" ++ explicit ++ ":market"), none⟩
    | _ => none
  | _, _ => none

/-- The currency an authority proposes. -/
def proposedCurrency (assetId : Option String) (assetType : Option AssetType) (conflicted : Bool)
    (position : Option FutuPositionEvidence) (futuEvidence : Option FutuAccountEvidence) :
    Option (Proposal String) :=
  if conflicted then none
  else (positionCurrency rt position futuEvidence).orElse fun _ => typeCurrency rt assetId assetType

/-- The evidence of a correction. -/
def correctionEvidence (current : String) (candidates : List String)
    (proposal : Option (Proposal String)) : Items String EvidenceValue :=
  [("source", .text "currency_typo_policy"), ("policy_version", .text currencyTypoPolicyVersion),
      ("observed_code", .text current), ("candidates", .texts candidates)] ++
    ((proposal.bind (·.authorityId)).elim [] fun authorityId =>
      [("corroborating_authority_id", .text authorityId)]) ++
    ((proposal.bind (·.evidence)).elim [] fun evidence =>
      [("authority_evidence", .items evidence)] ++
        (((evidence.lookup "source_as_of").filter (· ≠ "")).elim [] fun sourceAsOf =>
          [("source_as_of", .text sourceAsOf)]))

/-- `sorted(candidates)`: the correction and what an authority proposes. -/
def correctionCandidates (correction : String) : Option (Proposal String) → List String
  | some p =>
    if p.value = correction then [correction]
    else if p.value < correction then [p.value, correction] else [correction, p.value]
  | none => [correction]

/-- What a code outside the known currencies gets. -/
def invalidCurrency (value : Cell) (current : String) (proposal : Option (Proposal String)) :
    FieldOutcome :=
  match currencyTypoCorrections.lookup current with
  | none => ⟨"currency", .invalid, .cell value, none, none, none, "CURRENCY_INVALID", true, none⟩
  | some correction =>
    if correction ∉ holdingCurrencies then
      ⟨"currency", .invalid, .cell value, none, none, none, "CURRENCY_INVALID", true, none⟩
    else
      let candidates := correctionCandidates correction proposal
      let evidence := correctionEvidence current candidates proposal
      if candidates.length = 1 then
        ⟨"currency", .conflict, .cell (.text current), some correction, some "currency_typo_policy",
          some (currencyTypoPolicyVersion ++ ":" ++ current ++ ":" ++ correction ++
            (proposal.bind (·.authorityId)).elim "" (":" ++ ·)),
          "CURRENCY_CORRECTION_AVAILABLE", true, some evidence⟩
      else
        ⟨"currency", .invalid, .cell value, none, none, none, "CURRENCY_CORRECTION_AMBIGUOUS", true,
          some evidence⟩

/-- What a row without a currency gets. -/
def missingCurrency (value : Cell) (unresolved : Bool) (futuReason : FutuReason)
    (proposal : Option (Proposal String)) : FieldOutcome :=
  match proposal with
  | some p =>
    ⟨"currency", .missingCompletable, .cell value, some p.value, some p.authority, p.authorityId,
      "CURRENCY_COMPLETION_AVAILABLE", true, asEvidence p.evidence⟩
  | none =>
    ⟨"currency", .missingManual, .cell value, none, none, none,
      if futuReason = .positionAmbiguous then "FUTU_POSITION_AMBIGUOUS"
      else if unresolved then "CURRENCY_ASSET_TYPE_UNRESOLVED"
      else "CURRENCY_EXPLICIT_EVIDENCE_REQUIRED", true, none⟩

/-- `_currency`. -/
def currency (value : Cell) (assetId : Option String) (assetType : Option AssetType)
    (conflicted : Bool) (position : Option FutuPositionEvidence)
    (futuEvidence : Option FutuAccountEvidence) (futuReason : FutuReason) : FieldOutcome :=
  let proposal := proposedCurrency rt assetId assetType conflicted position futuEvidence
  if proposal.any fun p => p.value ∉ holdingCurrencies then
    ⟨"currency", .invalid, .cell value, none, none, none, "CURRENCY_AUTHORITY_INVALID", true, none⟩
  else match (text rt value).map rt.upper with
    | none => missingCurrency value (conflicted || assetType.isNone) futuReason proposal
    | some current =>
      if ¬ isCurrencyCode current ∨ current ∉ holdingCurrencies then invalidCurrency value current proposal
      else match proposal with
        | none =>
          ⟨"currency", .valid, .cell (.text current), none, some "manual_raw_unverified", none,
            "CURRENCY_MANUAL_RAW_VALID", true, none⟩
        | some p =>
          if current ≠ p.value then
            ⟨"currency", .conflict, .cell (.text current), some p.value, some p.authority, p.authorityId,
              "CURRENCY_AUTHORITY_CONFLICT", true, asEvidence p.evidence⟩
          else
            ⟨"currency", .valid, .cell (.text current), some p.value, some p.authority, p.authorityId,
              "CURRENCY_AUTHORITY_MATCH", true, asEvidence p.evidence⟩

/-! ## The class -/

/-- `_asset_class`. -/
def assetClass (value : Cell) (assetType : Option AssetType) : FieldOutcome :=
  let authorityId := assetType.map fun t => "asset_type:" ++ t.value ++ ":asset_class"
  let proposed := assetClassForEconomicExposure assetType
  match text rt value with
  | none =>
    match proposed with
    | some proposed =>
      ⟨"asset_class", .missingCompletable, .cell value, some proposed.value, some "asset_type_policy",
        authorityId, "ASSET_CLASS_COMPLETION_AVAILABLE", false, none⟩
    | none =>
      ⟨"asset_class", .optionalMissing, .cell value, none, none, none, "ASSET_CLASS_OPTIONAL_MISSING",
        false, none⟩
  | some normalized =>
    match AssetClass.ofValue normalized with
    | none => ⟨"asset_class", .invalid, .cell value, none, none, none, "ASSET_CLASS_INVALID", false, none⟩
    | some current =>
      match proposed with
      | none =>
        ⟨"asset_class", .valid, .cell (.text current.value), none, some "manual_raw_unverified", none,
          "ASSET_CLASS_VALID", false, none⟩
      | some proposed =>
        if current ≠ proposed then
          ⟨"asset_class", .conflict, .cell (.text current.value), some proposed.value,
            some "asset_type_policy", authorityId, "ASSET_CLASS_AUTHORITY_CONFLICT", false, none⟩
        else
          ⟨"asset_class", .valid, .cell (.text current.value), some proposed.value,
            some "asset_type_policy", none, "ASSET_CLASS_VALID", false, none⟩

/-! ## Records -/

/-- The type outcome leaves the currency without a type to go by. -/
def Status.conflicted : Status → Bool
  | .conflict | .invalid | .missingManual => true
  | _ => false

section
variable (bundle : HoldingsEvidenceBundle) (record : RawHoldingRecord)

/-- What Futu says of a row. -/
def futuOf : Option FutuPositionEvidence × Option FutuAccountEvidence × FutuReason :=
  bundle.futuPosition rt.toTextRuntime (text rt (record.get "account")) (text rt (record.get "broker"))
    (text rt (record.get "asset_id"))

/-- `type_outcome` and `effective_type`. -/
def typeOf : FieldOutcome × Option AssetType :=
  assetType rt (record.get "asset_type")
    (proposedType rt (text rt (record.get "asset_id")) (futuOf rt bundle record).1
      (futuOf rt bundle record).2.1)

/-- The Hong Kong quote a row may take its name from: its code, its name and the whole mapping. -/
def hkStockNameOf : Option (String × String × Items String Cell) :=
  let assetId := text rt (record.get "asset_id")
  let code := (assetId.bind (normalizeHkStockCode rt)).getD ""
  if record.get "asset_type" = .text "hk_stock" ∧ (text rt (record.get "account")).isSome ∧
      holdingBrokerScope rt.toValueRuntime (text rt (record.get "broker")) = .nonFutu then
    (verifiedHkName rt (bundle.hkStockNames.lookup code) assetId).map fun name => (code, name)
  else none

/-- The name's outcome. -/
def nameOf : FieldOutcome :=
  assetName rt (record.get "asset_name")
    (positionName rt (futuOf rt bundle record).1 (futuOf rt bundle record).2.1)
    (bundle.fundNames.lookup ((text rt (record.get "asset_id")).getD ""))
    (hkStockNameOf rt bundle record)

/-- The currency's outcome. -/
def currencyOf : FieldOutcome :=
  currency rt (record.get "currency") (text rt (record.get "asset_id")) (typeOf rt bundle record).2
    (typeOf rt bundle record).1.status.conflicted (futuOf rt bundle record).1
    (futuOf rt bundle record).2.1 (futuOf rt bundle record).2.2

/-- The class's outcome. -/
def classOf : FieldOutcome := assetClass rt (record.get "asset_class") (typeOf rt bundle record).2

/-- `_validate_record`. -/
def validateRecord : RecordValidation :=
  let accountOutcome := requiredText rt "account" "ACCOUNT" (record.get "account")
  ⟨record,
    [requiredText rt "asset_id" "ASSET_ID" (record.get "asset_id"),
      accountOutcome,
      requiredText rt "broker" "BROKER" (record.get "broker"),
      quantity (record.get "quantity"),
      (typeOf rt bundle record).1,
      nameOf rt bundle record,
      currencyOf rt bundle record,
      classOf rt bundle record,
      optionalDecimal "avg_cost" "AVG_COST" (record.get "avg_cost"),
      optionalIndustry rt (record.get "industry"),
      optionalTag rt (record.get "tag"),
      optionalTransportField rt "created_at" "CREATED_AT" (record.get "created_at"),
      optionalTransportField rt "updated_at" "UPDATED_AT" (record.get "updated_at")],
    if accountOutcome.status ≠ .valid then
      [⟨"orphan", "ACCOUNT_ORPHAN_GLOBAL_BLOCKER", none, [record.recordId]⟩]
    else []⟩

end

/-- The issue of the rows that share an identity. -/
def duplicateIssue (group : Identity × List RawHoldingRecord) : RecordIssue :=
  ⟨"duplicate_identity", "DUPLICATE_HOLDING_IDENTITY", some group.1,
    (group.2.map RawHoldingRecord.recordId).insertionSort (· ≤ ·)⟩

/-- `HoldingsValidationReport`. -/
structure HoldingsValidationReport where
  /-- `records` -/
  records : List RecordValidation
  /-- `evidence_errors` -/
  evidenceErrors : Items String String

/-- `validate`, with `_mark_duplicates`. -/
def validate (bundle : HoldingsEvidenceBundle) (records : List RawHoldingRecord) :
    HoldingsValidationReport :=
  let groups := duplicateHoldingGroups rt.toValueRuntime records
  ⟨records.map fun record =>
      let validation := validateRecord rt bundle record
      { validation with
        issues := validation.issues ++ (groups.filter fun group => record ∈ group.2).map duplicateIssue },
    bundle.sourceErrors⟩

end

end PortfolioManagement.Validation
