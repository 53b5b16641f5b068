import PortfolioManagement.Mutations.Values

/-!
# Absolute targets

A `HoldingTarget` carries the canonical values of a row, the fields it owns and the row it is bound to,
by record id and digest. Its constructor checks all of that again, so reading a payload back is building
the same target from the same parts.
-/

namespace PortfolioManagement.Mutations

open Json (text optionalText display)

/-! ## `Holding` -/

/-- A float of the model. -/
inductive ModelFloat (rt : NumberRuntime)
  | finite (x : FiniteFloat rt)
  | nan
  | infinity
  | negInfinity

/-- The float as a value. -/
def ModelFloat.json {rt : NumberRuntime} : ModelFloat rt → Json
  | finite x => x.json
  | nan => .word .nan
  | infinity => .word .infinity
  | negInfinity => .word .negInfinity

/-- `HoldingIdentity`. -/
structure HoldingIdentity where
  /-- `asset_id` -/
  assetId : Name
  /-- `account` -/
  account : Name
  /-- `broker` -/
  broker : Name
deriving DecidableEq

/-- `Holding`, with what is stored of it. -/
structure Holding (rt : MutationRuntime) where
  /-- `record_id` -/
  recordId : Option String
  /-- `asset_id` -/
  assetId : String
  /-- `asset_name` -/
  assetName : String
  /-- `asset_type` -/
  assetType : AssetType
  /-- `account` -/
  account : String
  /-- `broker` -/
  broker : String
  /-- `quantity` -/
  quantity : ModelFloat rt.toNumberRuntime
  /-- `avg_cost` -/
  avgCost : Option (ModelFloat rt.toNumberRuntime)
  /-- `currency` -/
  currency : String
  /-- `asset_class` -/
  assetClass : Option AssetClass
  /-- `industry` -/
  industry : Option Industry
  /-- `tag` -/
  tag : Option (List String)
  /-- `created_at`, by its `isoformat` -/
  createdAt : Option String
  /-- `updated_at`, by its `isoformat` -/
  updatedAt : Option String

/-! ## The registry -/

/-- The asset types of the registry. -/
def registeredTypes : List AssetType :=
  [.aStock, .cash, .otcFund, .other, .hkStock, .usStock, .exchangeFund, .usFund, .mmf, .crypto]

/-- The asset classes of the registry. -/
def registeredClasses : List AssetClass := [.usAsset, .alternative, .cnAsset, .cash, .hkAsset]

/-- The industries of the registry. -/
def registeredIndustries : List Industry :=
  [.finance, .ai, .zhonggai, .index, .blockchain, .energy, .consumption, .realEstate, .semiconductor,
    .cash, .tech, .other]

/-- `HOLDING_REQUIRED_VALUE_FIELDS`. -/
def requiredFields : List HoldingField := [.assetName, .assetType, .quantity, .currency]

section
variable {rt : MutationRuntime}

/-- `_validate_registry_selects` accepts the values. -/
def HoldingValues.Registered (v : HoldingValues rt) : Prop :=
  v.assetType ∈ registeredTypes ∧ (∀ c ∈ v.assetClass, c ∈ registeredClasses) ∧
    ∀ i ∈ v.industry, i ∈ registeredIndustries

instance (v : HoldingValues rt) : Decidable v.Registered :=
  inferInstanceAs (Decidable (_ ∧ _ ∧ _))

/-- Nothing stands in a field. -/
def HoldingValues.neutral (v : HoldingValues rt) : HoldingField → Bool
  | .assetName | .assetType | .quantity | .currency => false
  | .avgCost => v.avgCost.isNone
  | .assetClass => v.assetClass.isNone
  | .industry => v.industry.isNone
  | .tag => v.tag = []

/-- A dict with a value for each field. -/
def fieldDict (raw : HoldingField → Json) : Members :=
  display (HoldingField.sorted.map fun field => (field.name, raw field))

/-- `identity.as_dict()`. -/
def HoldingIdentity.asDict (identity : HoldingIdentity) : Members :=
  display [("asset_id", text identity.assetId), ("account", text identity.account),
    ("broker", text identity.broker)]

/-- The fields `holding_values` reads. -/
def Holding.raw (h : Holding rt) : HoldingField → Json
  | .assetName => text h.assetName
  | .assetType => text h.assetType.value
  | .quantity => h.quantity.json
  | .avgCost => h.avgCost.elim Json.none ModelFloat.json
  | .currency => text h.currency
  | .assetClass => optionalText (h.assetClass.map AssetClass.value)
  | .industry => optionalText (h.industry.map Industry.value)
  | .tag => h.tag.elim Json.none fun tags => .array (tags.map text)

/-- `str(record_id or "").strip() or None`. -/
def strippedId (recordId : Option String) : Option Name :=
  if h : strip (recordId.getD "") = "" then none else some ⟨strip (recordId.getD ""), validName_strip h⟩

end

section
variable (rt : MutationRuntime)

/-- `HoldingIdentity(asset_id, account, broker)`. -/
def HoldingIdentity.make (assetId account broker : Json) : Except MutationError HoldingIdentity := do
  let assetId ← requiredText rt "asset_id" assetId
  let account ← requiredText rt "account" account
  let broker ← requiredText rt "broker" broker
  return ⟨assetId, account, broker⟩

/-- `HoldingIdentity.from_holding`. -/
def HoldingIdentity.fromHolding (h : Holding rt) : Except MutationError HoldingIdentity :=
  HoldingIdentity.make rt (text h.assetId) (text h.account) (text h.broker)

/-- `holding_values`. -/
def holdingValues (h : Holding rt) : Except MutationError (HoldingValues rt) := canonicalValues rt h.raw

/-- `Holding(avg_cost=…)`: the cost is rounded. -/
def roundedCost : Option (FiniteFloat rt.toNumberRuntime) →
    Except MutationError (Option (FiniteFloat rt.toNumberRuntime))
  | none => .ok none
  | some x =>
    match rt.quantize x with
    | none => .error .arithmetic
    | some y => .ok (some y)

variable {rt} in
/-- A row of canonical parts. -/
def canonicalRow (recordId : Option Name) (identity : HoldingIdentity) (values : HoldingValues rt)
    (createdAt updatedAt : Option String) : Holding rt where
  recordId := recordId.map Subtype.val
  assetId := identity.assetId
  assetName := values.assetName
  assetType := values.assetType
  account := identity.account
  broker := identity.broker
  quantity := .finite values.quantity
  avgCost := values.avgCost.map .finite
  currency := values.currency
  assetClass := values.assetClass
  industry := values.industry
  tag := some values.tag
  createdAt
  updatedAt

/-- `Holding(…)` of canonical parts. -/
def buildHolding (recordId : Option Name) (identity : HoldingIdentity) (values : HoldingValues rt)
    (createdAt updatedAt : Option String) : Except MutationError (Holding rt) := do
  let avgCost ← roundedCost rt values.avgCost
  return canonicalRow recordId identity { values with avgCost } createdAt updatedAt

/-- `canonical_holding`. -/
def canonicalHolding (h : Holding rt) : Except MutationError (Holding rt) := do
  let identity ← HoldingIdentity.fromHolding rt h
  let values ← holdingValues rt h
  if ¬ values.Registered then throw .unsupportedSelect
  buildHolding rt (strippedId h.recordId) identity values h.createdAt h.updatedAt

/-- `EMPTY_HOLDING_DIGEST`. -/
def emptyHoldingDigest : String := rt.sha256 (.object (display [("holding", Json.none)]))

/-- `holding_state_digest` of a row. -/
def holdingStateDigest (h : Holding rt) : Except MutationError String := do
  let identity ← HoldingIdentity.fromHolding rt h
  let values ← holdingValues rt h
  return rt.sha256 (.object (display
    [("record_id", optionalText ((strippedId h.recordId).map Subtype.val)),
      ("identity", .object identity.asDict), ("values", .object (fieldDict values.raw)),
      ("created_at", optionalText h.createdAt), ("updated_at", optionalText h.updatedAt)]))

/-! ## `HoldingTarget` -/

/-- `HoldingTarget`, as its constructor leaves it. -/
structure HoldingTarget where
  /-- `identity` -/
  identity : HoldingIdentity
  /-- `values` -/
  values : HoldingValues rt
  /-- `owned_fields`, sorted -/
  ownedFields : List HoldingField
  /-- `base_record_id` -/
  baseRecordId : Option Name
  /-- `base_digest` -/
  baseDigest : Name
  /-- the registry lists the selects -/
  registered : values.Registered
  /-- the owned fields are a set -/
  sorted : ownedFields = HoldingField.sorted.filter (· ∈ ownedFields)
  /-- some field is owned -/
  owned : ownedFields ≠ []
  /-- a row that is created has no base, its required fields are owned and nothing else is set -/
  created : baseRecordId = none → baseDigest.1 = emptyHoldingDigest rt ∧
    (∀ field ∈ requiredFields, field ∈ ownedFields) ∧
      ∀ field ∈ HoldingField.sorted, field ∉ ownedFields → values.neutral field = true

/-- `str(base_record_id or "").strip() or None`. -/
def baseRecordIdOf (v : Json) : Except MutationError (Option Name) :=
  match textOf? (v.strOrEmpty rt.repr) with
  | none => .error .encoding
  | some s => .ok (strippedId (some s))

/-- What the constructor checks of canonical parts. -/
def HoldingTarget.ofParts (identity : HoldingIdentity) (values : HoldingValues rt)
    (ownedFields : List HoldingField) (baseRecordId : Option Name) (baseDigest : Name) :
    Except MutationError (HoldingTarget rt) :=
  let owned := HoldingField.sorted.filter (· ∈ ownedFields)
  if hregistered : values.Registered then
    if howned : owned ≠ [] then
      if hdigest : baseRecordId = none → baseDigest.1 = emptyHoldingDigest rt then
        if hrequired : baseRecordId = none → ∀ field ∈ requiredFields, field ∈ owned then
          if hneutral : baseRecordId = none → ∀ field ∈ HoldingField.sorted, field ∉ owned →
              values.neutral field = true then
            .ok {
              identity, values, ownedFields := owned, baseRecordId, baseDigest
              registered := hregistered
              sorted := List.filter_congr fun field hfield => by simp [owned, hfield]
              owned := howned
              created := fun hnone => ⟨hdigest hnone, hrequired hnone, hneutral hnone⟩ }
          else .error .createUnowned
        else .error .createRequired
      else .error .createDigest
    else .error .noOwned
  else .error .unsupportedSelect

/-- The values are those of all fields. -/
def completeValues (values : Members) : Prop :=
  (∀ field ∈ HoldingField.sorted, codes field.name ∈ values.map Prod.fst) ∧
    ∀ key ∈ values.map Prod.fst, key ∈ HoldingField.sorted.map fun field => codes field.name

instance (values : Members) : Decidable (completeValues values) :=
  inferInstanceAs (Decidable (_ ∧ _))

/-- `HoldingTarget(…)`. A value is null only where it may be cleared, so an owned field is never one
that cannot be. -/
def HoldingTarget.make (identity : HoldingIdentity) (values : Members) (ownedFields : List String)
    (baseRecordId baseDigest : Json) : Except MutationError (HoldingTarget rt) := do
  if ¬ completeValues values then throw .incompleteValues
  let canonical ← canonicalValues rt fun field => Json.get values field.name
  if ∃ name ∈ ownedFields, name ∉ HoldingField.sorted.map HoldingField.name then throw .unsupportedOwned
  let recordId ← baseRecordIdOf rt baseRecordId
  let digest ← requiredText rt "base_digest" baseDigest
  HoldingTarget.ofParts rt identity canonical
    (HoldingField.sorted.filter fun field => field.name ∈ ownedFields) recordId digest

/-- `HoldingTarget.from_holdings`. -/
def HoldingTarget.fromHoldings (base : Option (Holding rt)) (target : Holding rt)
    (ownedFields : List HoldingField) : Except MutationError (HoldingTarget rt) := do
  let canonicalTarget ← canonicalHolding rt target
  let identity ← HoldingIdentity.fromHolding rt canonicalTarget
  let targetValues ← holdingValues rt canonicalTarget
  match base with
  | none =>
    HoldingTarget.make rt identity (fieldDict targetValues.raw) (ownedFields.map HoldingField.name) Json.none
      (text (emptyHoldingDigest rt))
  | some base => do
    let canonicalBase ← canonicalHolding rt base
    let baseIdentity ← HoldingIdentity.fromHolding rt canonicalBase
    if identity ≠ baseIdentity then throw .identityChanged
    let baseValues ← holdingValues rt canonicalBase
    if ∃ field ∈ HoldingField.sorted, field ∉ ownedFields ∧
        Json.same rt.equalNumbers (targetValues.raw field) (baseValues.raw field) = false then
      throw .changesUnowned
    let recordId ← requiredText rt "base holding record_id" (optionalText canonicalBase.recordId)
    let digest ← holdingStateDigest rt canonicalBase
    HoldingTarget.make rt identity (fieldDict targetValues.raw) (ownedFields.map HoldingField.name) (text recordId)
      (text digest)

namespace HoldingTarget

variable {rt}

/-- `to_holding`. -/
def toHolding (t : HoldingTarget rt) : Except MutationError (Holding rt) :=
  buildHolding rt t.baseRecordId t.identity t.values none none

/-- `to_payload`. -/
def toPayload (t : HoldingTarget rt) : Members :=
  display [("identity", .object t.identity.asDict), ("values", .object (fieldDict t.values.raw)),
    ("owned_fields", .array (t.ownedFields.map fun field => text field.name)),
    ("base_record_id", optionalText (t.baseRecordId.map Subtype.val)),
    ("base_digest", text t.baseDigest)]

end HoldingTarget

/-- `str(item)` of the owned fields. -/
def ownedNames (items : List Json) : Except MutationError (List String) :=
  items.mapM fun item => (textOf? (item.str rt.repr)).elim (.error .encoding) .ok

/-- `HoldingTarget.from_payload`. -/
def HoldingTarget.fromPayload (payload : Members) : Except MutationError (HoldingTarget rt) :=
  match Json.get payload "identity" with
  | .object identity =>
    match Json.get payload "values" with
    | .object values =>
      match Json.get payload "owned_fields" with
      | .array items => do
        let resolved ← HoldingIdentity.make rt (Json.get identity "asset_id")
          (Json.get identity "account") (Json.get identity "broker")
        let names ← ownedNames rt items
        HoldingTarget.make rt resolved values names (Json.get payload "base_record_id")
          (Json.get payload "base_digest")
      | _ => .error (.payload "owned_fields")
    | _ => .error (.payload "values")
  | _ => .error (.payload "identity")

end

end PortfolioManagement.Mutations
