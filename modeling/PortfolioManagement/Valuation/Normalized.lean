import PortfolioManagement.Snapshots.CanonicalNumbers

/-!
# Normalized valuations

One valuation of an account: its rows, the values declared beside them, the shares and the evidence. The
fields of a row, a component or a valuation are a structure; what `__post_init__` leaves of them is a
subtype of it. Evidence is kept as the value its JSON text stands for.

The canonical payload is a dict of texts, counts and evidence, and its digest is what an official NAV record
refers to. `_from_evidence_payload` rebuilds a valuation from the payload and compares what it built with
what it read.
-/

namespace PortfolioManagement.Valuation

open Snapshots

/-- `NORMALIZED_VALUATION_VERSION` -/
def normalizedVersion : String := "pm.normalized_valuation.v2"

/-- What the rebuilding raises. -/
inductive EvidenceError
  /-- the evidence, or a part of it, must be an object -/
  | notAnObject
  /-- a text that cannot be encoded -/
  | unencodableText
  /-- unsupported normalized valuation evidence version -/
  | version
  /-- normalized valuation evidence is not official -/
  | notOfficial
  /-- normalized valuation evidence source mismatch -/
  | source
  /-- a number is missing, not finite or too long -/
  | number (field : String)
  /-- a value that cannot be iterated -/
  | notIterable (field : String)
  /-- a row the constructor refuses -/
  | row
  /-- a component the constructor refuses -/
  | component
  /-- a valuation the constructor refuses -/
  | snapshot
  /-- `decimal.InvalidOperation` of a canonical text -/
  | contract (error : SnapshotError)
  /-- normalized valuation evidence is not canonical -/
  | notCanonical
  /-- normalized valuation evidence digest mismatch -/
  | digest
deriving DecidableEq

/-! ## Rows -/

/-- The fields of `NormalizedValuationRow`. -/
structure RowFields where
  /-- `record_id` -/
  recordId : Option String
  /-- `account` -/
  account : String
  /-- `asset_id` -/
  assetId : String
  /-- `asset_name` -/
  assetName : String
  /-- `asset_type` -/
  assetType : String
  /-- `normalized_type` -/
  normalizedType : String
  /-- `broker` -/
  broker : String
  /-- `quantity` -/
  quantity : Decimal
  /-- `avg_cost` -/
  avgCost : Option Decimal
  /-- `currency` -/
  currency : String
  /-- `asset_class` -/
  assetClass : Option String
  /-- `industry` -/
  industry : Option String
  /-- `tags` -/
  tags : List String
  /-- `price` -/
  price : Option Decimal
  /-- `cny_price` -/
  cnyPrice : Option Decimal
  /-- `market_value_cny` -/
  marketValueCny : Option Decimal
  /-- `source` -/
  source : String
deriving DecidableEq

namespace RowFields

variable (row : RowFields)

/-- The prices are absent together, or positive with the market value they give for the quantity. -/
def pricesOk (quantity : Decimal) : Bool :=
  match row.price, row.cnyPrice, row.marketValueCny with
  | none, none, none => true
  | some price, some cnyPrice, some marketValueCny =>
    0 < price.coefficient && 0 < cnyPrice.coefficient &&
      match (quantity.mul cnyPrice).quantize (-2) with
      | some expected => marketValueCny.equal ⟨expected, -2⟩
      | none => false
  | _, _, _ => false

/-- What `__post_init__` checks. -/
def valid : Bool :=
  (∀ text ∈ [row.account, row.assetId, row.assetType, row.normalizedType, row.currency],
    strip text ≠ "") &&
  match row.quantity.quantize (-8) with
  | some c => row.quantity.equal ⟨c, -8⟩ && c ≠ 0 && row.pricesOk ⟨c, -8⟩
  | none => false

/-- `business_key`. -/
def businessKey : String × String × String := (row.account, row.broker, row.assetId)

/-- The items of the payload, with the texts of its numbers. -/
def items (quantity : String) (avgCost price cnyPrice marketValueCny : Option String) :
    List (String × Json) :=
  [("record_id", .optionalText row.recordId),
    ("account", .text row.account),
    ("asset_id", .text row.assetId),
    ("asset_name", .text row.assetName),
    ("asset_type", .text row.assetType),
    ("normalized_type", .text row.normalizedType),
    ("broker", .text row.broker),
    ("quantity", .text quantity),
    ("avg_cost", .optionalText avgCost),
    ("currency", .text row.currency),
    ("asset_class", .optionalText row.assetClass),
    ("industry", .optionalText row.industry),
    ("tags", .array (row.tags.map Json.text)),
    ("price", .optionalText price),
    ("cny_price", .optionalText cnyPrice),
    ("market_value_cny", .optionalText marketValueCny),
    ("source", .text row.source)]

/-- `canonical_payload`. -/
def canonicalPayload : Except SnapshotError Json := do
  let quantity ← canonicalDecimal row.quantity
  let avgCost ← canonicalOptional row.avgCost
  let price ← canonicalOptional row.price
  let cnyPrice ← canonicalOptional row.cnyPrice
  let marketValueCny ← canonicalOptional row.marketValueCny
  return .object (Json.display (row.items quantity avgCost price cnyPrice marketValueCny))

end RowFields

/-- `NormalizedValuationRow`. -/
abbrev NormalizedValuationRow : Type := {row : RowFields // row.valid = true}

/-! ## Components -/

/-- The fields of `ValuationComponent`. -/
structure ComponentFields where
  /-- `name` -/
  name : String
  /-- `category` -/
  category : String
  /-- `value_cny` -/
  valueCny : Decimal
  /-- `source` -/
  source : String
  /-- the value of `provenance_json` -/
  provenance : Json

namespace ComponentFields

variable (component : ComponentFields)

/-- What `__post_init__` checks. -/
def valid : Bool :=
  strip component.name ≠ "" && component.category ∈ ["cash", "equity", "fund"] &&
    atPrecision (-2) component.valueCny && strip component.source ≠ ""

/-- The items of the payload, with the text of the value. -/
def items (valueCny : String) : List (String × Json) :=
  [("name", .text component.name),
    ("category", .text component.category),
    ("value_cny", .text valueCny),
    ("source", .text component.source),
    ("provenance", component.provenance)]

/-- `canonical_payload`. -/
def canonicalPayload : Except SnapshotError Json := do
  let valueCny ← canonicalDecimal component.valueCny
  return .object (Json.display (component.items valueCny))

end ComponentFields

/-- `ValuationComponent`. -/
abbrev ValuationComponent : Type := {component : ComponentFields // component.valid = true}

/-! ## Valuations -/

/-- The fields of `NormalizedValuationSnapshot`. `official` says who issued it. -/
structure SnapshotFields where
  /-- `account` -/
  account : String
  /-- `rows` -/
  rows : List NormalizedValuationRow
  /-- `components` -/
  components : List ValuationComponent
  /-- `shares` -/
  shares : Option Decimal
  /-- `nav_override` -/
  navOverride : Option Decimal
  /-- the value of `price_evidence_json` -/
  priceEvidence : Json
  /-- the value of `holdings_provenance_json` -/
  holdingsProvenance : Json
  /-- `warnings` -/
  warnings : List String
  /-- `excluded_zero_count` -/
  excludedZeroCount : Nat
  /-- `excluded_zero_key_digest` -/
  excludedZeroKeyDigest : String
  /-- `source` -/
  source : String
  /-- the value of `source_provenance_json` -/
  sourceProvenance : Json
  /-- `official_eligible` -/
  official : Bool

namespace SnapshotFields

variable (snapshot : SnapshotFields)

/-- What `__post_init__` checks. -/
def valid : Bool :=
  strip snapshot.account ≠ "" && snapshot.excludedZeroKeyDigest.length = 64 &&
    strip snapshot.source ≠ "" && (∀ row ∈ snapshot.rows, row.1.account = snapshot.account) &&
    (snapshot.rows.map fun row => row.1.businessKey).Nodup &&
    (snapshot.components.map fun component => component.1.name).Nodup &&
    ∀ shares ∈ snapshot.shares, 0 ≤ shares.coefficient

/-- The items of the payload, with what is written of its parts. -/
def items (rows components : List Json) (shares navOverride : Option String) :
    List (String × Json) :=
  [("contract_version", .text normalizedVersion),
    ("account", .text snapshot.account),
    ("rows", .array rows),
    ("components", .array components),
    ("shares", .optionalText shares),
    ("nav_override", .optionalText navOverride),
    ("price_evidence", snapshot.priceEvidence),
    ("holdings_provenance", snapshot.holdingsProvenance),
    ("warnings", .array (snapshot.warnings.map Json.text)),
    ("excluded_zero_count", .number (natLiteral snapshot.excludedZeroCount)),
    ("excluded_zero_key_digest", .text snapshot.excludedZeroKeyDigest),
    ("source", .text snapshot.source),
    ("source_provenance", snapshot.sourceProvenance),
    ("official_eligible", .ofBool snapshot.official)]

/-- `canonical_payload`. -/
def canonicalPayload : Except SnapshotError Members := do
  let rows ← snapshot.rows.mapM fun row => row.1.canonicalPayload
  let components ← snapshot.components.mapM fun component => component.1.canonicalPayload
  let shares ← canonicalOptional snapshot.shares
  let navOverride ← canonicalOptional snapshot.navOverride
  return Json.display (snapshot.items rows components shares navOverride)

end SnapshotFields

/-- `NormalizedValuationSnapshot`. -/
abbrev NormalizedValuationSnapshot : Type := {snapshot : SnapshotFields // snapshot.valid = true}

/-! ## Rebuilding -/

/-- What the interpreter adds to the contracts. -/
structure EvidenceRuntime extends PayloadRuntime where
  /-- `int` of a value -/
  int : Json → Option Int

section
variable (rt : EvidenceRuntime)

/-- `NormalizedValuationRow(...)`. -/
def RowFields.checked (row : RowFields) : Except EvidenceError NormalizedValuationRow :=
  if h : row.valid = true then .ok ⟨row, h⟩ else .error .row

/-- `ValuationComponent(...)`. -/
def ComponentFields.checked (component : ComponentFields) : Except EvidenceError ValuationComponent :=
  if h : component.valid = true then .ok ⟨component, h⟩ else .error .component

/-- `NormalizedValuationSnapshot(...)`. -/
def SnapshotFields.checked (snapshot : SnapshotFields) :
    Except EvidenceError NormalizedValuationSnapshot :=
  if h : snapshot.valid = true then .ok ⟨snapshot, h⟩ else .error .snapshot

/-- A contract error raised while a payload is rebuilt. -/
def raised {α : Type} : Except SnapshotError α → Except EvidenceError α
  | .ok a => .ok a
  | .error e => .error (.contract e)

/-- The text of code points, when it can be encoded. -/
def encodedText (text : Codes) : Except EvidenceError String :=
  match textOf? text with
  | some s => .ok s
  | none => .error .unencodableText

/-- `str(d.get(name) or "")`. -/
def textField (members : Members) (name : String) : Except EvidenceError String :=
  encodedText ((Json.get members name).strOrEmpty rt.repr)

/-- `str(d.get(name))`, when it is not `None`. -/
def optionalTextField (members : Members) (name : String) : Except EvidenceError (Option String) :=
  match Json.get members name with
  | .word .null => .ok none
  | v => (encodedText (v.str rt.repr)).map some

/-- `finite_decimal(d.get(name))`, when it is not `None`. -/
def optionalNumber (members : Members) (name : String) : Except EvidenceError (Option Decimal) :=
  match Json.get members name with
  | .word .null => .ok none
  | v =>
    match decimalOf v with
    | some x => .ok (some x)
    | none => .error (.number name)

/-- `finite_decimal(d.get(name)).quantize(...)`. -/
def quantizedNumber (exponent : Int) (members : Members) (name : String) :
    Except EvidenceError Decimal :=
  match (decimalOf (Json.get members name)).bind (·.quantize exponent) with
  | some c => .ok ⟨c, exponent⟩
  | none => .error (.number name)

/-- `tuple(str(item) for item in (d.get(name) or []))`. -/
def textList (members : Members) (name : String) : Except EvidenceError (List String) :=
  match (Json.get members name).iterated with
  | some items => items.mapM fun item => encodedText (item.str rt.repr)
  | none => .error (.notIterable name)

/-- `dict(d.get(name) or {})`. -/
def dictField (members : Members) (name : String) : Except EvidenceError Members :=
  let v := Json.get members name
  if v.truthy then
    match v with
    | .object inner => .ok inner
    | v =>
      match rt.pairs v with
      | some inner => .ok inner
      | none => .error .notAnObject
  else .ok []

/-- The row of a payload. -/
def rebuildRow (v : Json) : Except EvidenceError NormalizedValuationRow := do
  let .object members := v | throw .notAnObject
  let recordId ← textField rt members "record_id"
  let account ← textField rt members "account"
  let assetId ← textField rt members "asset_id"
  let assetName ← textField rt members "asset_name"
  let assetType ← textField rt members "asset_type"
  let normalizedType ← textField rt members "normalized_type"
  let broker ← textField rt members "broker"
  let quantity ← quantizedNumber (-8) members "quantity"
  let avgCost ← optionalNumber members "avg_cost"
  let currency ← textField rt members "currency"
  let assetClass ← optionalTextField rt members "asset_class"
  let industry ← optionalTextField rt members "industry"
  let tags ← textList rt members "tags"
  let price ← optionalNumber members "price"
  let cnyPrice ← optionalNumber members "cny_price"
  let marketValueCny ← optionalNumber members "market_value_cny"
  let source ← textField rt members "source"
  let row : RowFields := {
    recordId := if strip recordId = "" then none else some (strip recordId)
    account, assetId, assetName, assetType, normalizedType, broker, quantity, avgCost, currency,
    assetClass, industry, tags, price, cnyPrice, marketValueCny, source }
  row.checked

/-- `ValuationComponent.build` of a payload. -/
def rebuildComponent (v : Json) : Except EvidenceError ValuationComponent := do
  let .object members := v | throw .notAnObject
  let name ← textField rt members "name"
  let category ← textField rt members "category"
  let valueCny ← quantizedNumber (-2) members "value_cny"
  let source ← textField rt members "source"
  let provenance ← dictField rt members "provenance"
  let component : ComponentFields := ⟨name, category, valueCny, source, .object provenance⟩
  component.checked

/-- The items of `d.get(name) or []`, each rebuilt. -/
def rebuildList {α : Type} (rebuild : Json → Except EvidenceError α) (members : Members)
    (name : String) : Except EvidenceError (List α) :=
  match (Json.get members name).iterated with
  | some items => items.mapM rebuild
  | none => .error (.notIterable name)

/-- `int(d.get(name, -1))`, when it is not negative. -/
def countField (members : Members) (name : String) : Except EvidenceError Nat :=
  match (getItem (codes name) members).bind rt.int with
  | some n => if 0 ≤ n then .ok n.toNat else .error .snapshot
  | none => .error .snapshot

/-- The valuation a payload describes. -/
def rebuildSnapshot (members : Members) : Except EvidenceError NormalizedValuationSnapshot := do
  let rows ← rebuildList (rebuildRow rt) members "rows"
  let components ← rebuildList (rebuildComponent rt) members "components"
  let account ← textField rt members "account"
  let shares ← optionalNumber members "shares"
  let navOverride ← optionalNumber members "nav_override"
  let priceEvidence ← dictField rt members "price_evidence"
  let holdingsProvenance ← dictField rt members "holdings_provenance"
  let warnings ← textList rt members "warnings"
  let excludedZeroCount ← countField rt members "excluded_zero_count"
  let excludedZeroKeyDigest ← textField rt members "excluded_zero_key_digest"
  let source ← textField rt members "source"
  let sourceProvenance ← dictField rt members "source_provenance"
  let snapshot : SnapshotFields := {
    account, rows, components, shares, navOverride, warnings, excludedZeroCount,
    excludedZeroKeyDigest, source
    priceEvidence := .object priceEvidence
    holdingsProvenance := .object holdingsProvenance
    sourceProvenance := .object sourceProvenance
    official := true }
  snapshot.checked

/-- `digest_payload` of a dict: its texts have to be encoded. -/
def digestMembers (members : Members) : Except EvidenceError String :=
  if ∀ s ∈ texts (.object members), (textOf? s).isSome then .ok (rt.sha256 (.object members))
  else .error .unencodableText

/-- `digest`. -/
def NormalizedValuationSnapshot.digest (snapshot : NormalizedValuationSnapshot) :
    Except EvidenceError String := do
  let payload ← raised snapshot.1.canonicalPayload
  digestMembers rt payload

/-- `_from_evidence_payload`. -/
def fromEvidencePayload (payload : Json) (expectedDigest : String) :
    Except EvidenceError NormalizedValuationSnapshot := do
  let .object members := payload | throw .notAnObject
  if ¬ Json.same rt.equalNumbers (Json.get members "contract_version") (.text normalizedVersion) then
    throw .version
  if (Json.get members "official_eligible").isTrue = false then throw .notOfficial
  if ¬ Json.same rt.equalNumbers (Json.get members "source") (.text "valuation_service") then
    throw .source
  let snapshot ← rebuildSnapshot rt members
  let canonical ← raised snapshot.1.canonicalPayload
  if ¬ Json.same rt.equalNumbers (.object canonical) payload then throw .notCanonical
  let digest ← snapshot.digest rt
  if digest ≠ expectedDigest then throw .digest
  return snapshot

end

end PortfolioManagement.Valuation
