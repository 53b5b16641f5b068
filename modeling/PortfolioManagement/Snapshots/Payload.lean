import PortfolioManagement.Compensation.Log
import PortfolioManagement.Lib.JsonValues
import PortfolioManagement.Snapshots.ExactSet

/-!
# Payloads of exact-set plans

A plan is stored as a JSON dict: `to_payload` writes the rows before with their record ids, the desired
rows without, and the digest of all of it; `from_payload` validates every row again, sorts the rows and
recomputes the digest.

What the interpreter adds is in `PayloadRuntime`: the digest of a value, `float` of a decimal, `str` of a
value that is no text, `dict` of a value that is no dict and which texts are dates.
-/

namespace PortfolioManagement

/-! ## Dict displays -/

namespace Dict

/-- A dict display whose keys are literals. -/
def display (items : List (String × Value)) : Dict :=
  ofItems (items.map fun item => (codes item.1, item.2))

variable {items : List (String × Value)} {name : String} {value : Value}

theorem getItem_display (hnodup : (items.map Prod.fst).Nodup) (hmem : (name, value) ∈ items) :
    getItem (codes name) (display items).items = some value.json := by
  obtain ⟨before, after, rfl⟩ := List.append_of_mem hmem
  rw [display, List.map_append, List.map_cons]
  refine getItem_ofItems _ fun hlater => ?_
  rw [List.map_append, List.map_cons, List.nodup_append, List.nodup_cons] at hnodup
  simp only [List.map_map, List.mem_map, Function.comp_apply, codes_inj] at hlater
  obtain ⟨item, hitem, hname⟩ := hlater
  exact hnodup.2.1.1 (List.mem_map.mpr ⟨item, hitem, hname⟩)

/-- An item of a display is looked up. -/
theorem get_display (hnodup : (items.map Prod.fst).Nodup) (hmem : (name, value) ∈ items) :
    Json.get (display items).items name = value.json := by
  rw [Json.get, getItem_display hnodup hmem]
  rfl

theorem getItem_display_eq_none (hname : name ∉ items.map Prod.fst) :
    getItem (codes name) (display items).items = none := by
  rw [display, ofItems, getItem_foldl_set]
  · rfl
  · simpa [List.map_map, Function.comp_def] using hname

/-- A name that is not in the display is not found. -/
theorem get_display_eq_none (hname : name ∉ items.map Prod.fst) :
    Json.get (display items).items name = Json.none := by
  rw [Json.get, getItem_display_eq_none hname]
  rfl

theorem mem_keys_display {key : Codes} :
    key ∈ (display items).items.map Prod.fst ↔ ∃ name ∈ items.map Prod.fst, codes name = key := by
  rw [display, mem_keys_ofItems]
  simp [List.map_map, Function.comp_def]

/-- Displays of one length with the same names that are the same dict have the same values. -/
theorem value_eq_of_display_eq {items' : List (String × Value)} {value' : Value}
    (hnodup : (items.map Prod.fst).Nodup) (hnodup' : (items'.map Prod.fst).Nodup)
    (h : (display items).items = (display items').items) (hmem : (name, value) ∈ items)
    (hmem' : (name, value') ∈ items') : value.json = value'.json := by
  have hget := getItem_display hnodup hmem
  rw [h, getItem_display hnodup' hmem'] at hget
  exact (Option.some.inj hget).symm

end Dict

namespace Value

/-- A text. -/
def string (s : String) : Value := text (codes s)

/-- A text or `None`. -/
def optionalString (s : Option String) : Value := optional (s.map codes)

theorem json_string (s : String) : (string s).json = Json.text s := rfl

theorem json_optionalString (s : Option String) :
    (optionalString s).json = s.elim Json.none Json.text := by
  cases s <;> rfl

theorem optionalString_inj {s t : Option String} :
    (optionalString s).json = (optionalString t).json ↔ s = t := by
  rw [json_optionalString, json_optionalString]
  cases s <;> cases t <;> simp [Json.text, Json.none]

theorem json_bool (b : Bool) : (bool b).json = Json.ofBool b := rfl

end Value

theorem canonicalItems_map {values : List Value} : CanonicalItems (values.map Value.json) := by
  induction values with
  | nil => exact trivial
  | cons value values ih => exact ⟨value.canonical, ih⟩

/-- A list of values. -/
def Value.array (values : List Value) : Value := ⟨.array (values.map Value.json), canonicalItems_map⟩

namespace Snapshots

/-! ## Runtime and errors -/

/-- What the interpreter adds to the contracts. -/
structure PayloadRuntime where
  /-- `hashlib.sha256(canonical_json(value))`, as its hexadecimal digits -/
  sha256 : Json → String
  /-- `str` of a value that is no text -/
  repr : Json → Codes
  /-- the items of `dict(value)`, for a value that is no dict -/
  pairs : Json → Option Members
  /-- `float` of a decimal; `none` is an infinity -/
  float : Decimal → Option FloatValue
  /-- `==` of two numbers -/
  equalNumbers : Codes → Codes → Bool
  /-- the texts `date.fromisoformat` reads -/
  isDate : String → Bool

/-- What reading a payload raises. -/
inductive PayloadError
  /-- the payload must be an object -/
  | notAnObject
  /-- a text that cannot be encoded -/
  | unencodableText
  /-- `HoldingSnapshot` refuses a field -/
  | invalidField (name : String)
  /-- `HoldingSnapshot` has no such field -/
  | extraField
  /-- market_value_cny replay mismatch, and what else the validators leave of a row -/
  | invalidRow
  /-- the contracts refuse the rows -/
  | contract (error : SnapshotError)
  /-- a text must be nonblank -/
  | blank (field : String)
  /-- snapshot_plan.as_of must be YYYY-MM-DD -/
  | notADate
  /-- a digest must be a sha256 digest -/
  | digestLength
  /-- the contract version is another one -/
  | contractVersion
  /-- snapshot exact-set plan digest mismatch -/
  | planDigestMismatch
  /-- a flag of the authority must be boolean -/
  | notBoolean (field : String)
  /-- snapshot authority digest mismatch -/
  | authorityDigestMismatch
  /-- bound snapshot authority digest mismatch -/
  | boundDigestMismatch
  /-- snapshot authority scope/digest does not match the prepared plan -/
  | planNotMatched
  /-- not a holdings snapshot exact-set target -/
  | notATarget
  /-- unsupported holdings snapshot recovery target -/
  | unsupportedTarget
  /-- prepared snapshot target scope/digest mismatch -/
  | targetMismatch (names : List String)
  /-- prepared snapshot target is not confirmed -/
  | notConfirmed
  /-- prepared snapshot target requires NAV transition details -/
  | detailsRequired
  /-- snapshot recovery NAV details require snapshot_evidence -/
  | evidenceRequired
  /-- snapshot recovery NAV finality must be an object -/
  | finalityNotAnObject
  /-- snapshot recovery NAV details mismatch -/
  | detailsMismatch (names : List String)
  /-- planned/complete NAV base details disagree -/
  | baseDetailsDisagree
  /-- prepared snapshot NAV transition digest mismatch -/
  | transitionMismatch (names : List String)
deriving DecidableEq

/-- What a contract raises, raised while a payload is read. -/
def lifted {α : Type} : Except SnapshotError α → Except PayloadError α
  | .ok a => .ok a
  | .error e => .error (.contract e)

theorem lifted_ok {α : Type} {x : Except SnapshotError α} {a : α} : lifted x = .ok a ↔ x = .ok a := by
  cases x <;> simp [lifted]

/-! ## Writing -/

/-- The items of `snapshot_row_payload`. -/
def RowPayload.items (p : RowPayload) : List (String × Value) :=
  [("as_of", .string p.asOf),
    ("account", .string p.account),
    ("asset_id", .string p.assetId),
    ("broker", .string p.broker),
    ("quantity", .string p.quantity),
    ("currency", .string p.currency),
    ("price", .string p.price),
    ("cny_price", .string p.cnyPrice),
    ("market_value_cny", .string p.marketValueCny),
    ("dedup_key", .string p.dedupKey),
    ("asset_name", .optionalString p.assetName),
    ("avg_cost", .optionalString p.avgCost),
    ("source", .optionalString p.source),
    ("remark", .optionalString p.remark)]

/-- The payload of a row. -/
def RowPayload.value (p : RowPayload) : Value := .dict (.display p.items)

/-- `_snapshot_with_record_payload`: `record_id` is `None` when it is blank. -/
def RowPayload.recorded (recordId : String) (p : RowPayload) : Value :=
  .dict (.display (("record_id", .optionalString (if recordId = "" then none else some recordId)) ::
    p.items))

/-- `SNAPSHOT_EXACT_SET_VERSION` -/
def exactSetVersion : String := "pm.holdings_snapshot.exact_set.v1"

/-- `SNAPSHOT_DIGEST_VERSION` -/
def snapshotDigestVersion : String := "pm.holdings_snapshot.v2"

/-- The order of the rows inside `snapshot_digest`. -/
def HoldingSnapshot.businessOrder (row : HoldingSnapshot) : List String :=
  [row.asOf, row.account, row.assetId, row.broker]

section
variable (rt : PayloadRuntime)

/-- `snapshot_digest`. -/
def snapshotDigest (rows : List HoldingSnapshot) : Except SnapshotError String := do
  let payloads ← (sortBy HoldingSnapshot.businessOrder rows).mapM HoldingSnapshot.payload
  return rt.sha256 (Value.dict (.display
    [("version", .string snapshotDigestVersion), ("rows", .array (payloads.map RowPayload.value))])).json

namespace SnapshotExactSetPlan

variable (plan : SnapshotExactSetPlan)

/-- `row_digest`. -/
def rowDigest : Except SnapshotError String := snapshotDigest rt plan.desired

/-- The items of `canonical_payload`. -/
def canonicalItems : Except SnapshotError (List (String × Value)) := do
  let rowDigest ← plan.rowDigest rt
  let before ← plan.before.mapM fun row => row.payload.map (RowPayload.recorded row.id)
  let desired ← plan.desired.mapM fun row => row.payload.map RowPayload.value
  return [("contract_version", .string exactSetVersion),
    ("account", .string plan.account),
    ("as_of", .string plan.asOf),
    ("target_digest", .string plan.targetDigest),
    ("row_digest", .string rowDigest),
    ("before", .array before),
    ("desired", .array desired)]

/-- `plan_digest`. -/
def planDigest : Except SnapshotError String :=
  (plan.canonicalItems rt).map fun items => rt.sha256 (Value.dict (.display items)).json

/-- `to_payload`. -/
def toPayload : Except SnapshotError Dict := do
  let items ← plan.canonicalItems rt
  let digest ← plan.planDigest rt
  return .display (items ++ [("plan_digest", .string digest)])

end SnapshotExactSetPlan

end

/-! ## Reading rows -/

section
variable (rt : PayloadRuntime)

/-- `str(value or "")`, as a text. -/
def textOrEmpty (v : Json) : Except PayloadError String :=
  match textOf? (v.strOrEmpty rt.repr) with
  | some s => .ok s
  | none => .error .unencodableText

/-- A required text: `_require_nonblank_text` strips it. -/
def requiredText (members : Members) (name : String) : Except PayloadError String := do
  let text ← textOrEmpty rt (Json.get members name)
  if strip text = "" then throw (.invalidField name)
  return strip text

/-- An optional text: absent, `None` or a text. -/
def optionalText (members : Members) (name : String) : Except PayloadError (Option String) :=
  match Json.get members name with
  | .word .null => .ok none
  | .string s =>
    match textOf? s with
    | some s => .ok (some s)
    | none => .error .unencodableText
  | _ => .error (.invalidField name)

/-- `Decimal(str(value))`, when it is a finite number. -/
def decimalOf : Json → Option Decimal
  | .string s => (textOf? s).bind fun text => Decimal.ofText (strip text)
  | .number literal => (textOf? literal).bind Decimal.ofText
  | _ => none

/-- A number that is quantized and stored as a float: its coefficient before, and the float. -/
def quantizedFloat (exponent : Int) (name : String) (v : Json) : Except PayloadError (Int × FloatValue) :=
  match (decimalOf v).bind (·.quantize exponent) with
  | none => .error (.invalidField name)
  | some c =>
    match rt.float ⟨c, exponent⟩ with
    | none => .error (.invalidField name)
    | some x => .ok (c, x)

/-- `_quantize_quantity`. -/
def readQuantity (members : Members) : Except PayloadError FloatValue := do
  let (c, x) ← quantizedFloat rt (-8) "quantity" (Json.get members "quantity")
  if c = 0 then throw (.invalidField "quantity")
  return x

/-- `_preserve_unit_price_precision`. -/
def readUnitPrice (members : Members) (name : String) : Except PayloadError FloatValue :=
  match decimalOf (Json.get members name) with
  | none => .error (.invalidField name)
  | some d =>
    if 0 < d.coefficient then
      match rt.float d with
      | none => .error (.invalidField name)
      | some x => .ok x
    else .error (.invalidField name)

/-- `_quantize_market_value`. -/
def readMarketValue (members : Members) : Except PayloadError FloatValue :=
  (quantizedFloat rt (-2) "market_value_cny" (Json.get members "market_value_cny")).map Prod.snd

/-- `_quantize_avg_cost`. -/
def readAvgCost (members : Members) : Except PayloadError (Option FloatValue) :=
  match Json.get members "avg_cost" with
  | .word .null => .ok none
  | v => (quantizedFloat rt (-2) "avg_cost" v).map fun read => some read.2

/-- The fields of `HoldingSnapshot`. -/
def rowFields : List String :=
  ["record_id", "as_of", "account", "asset_id", "broker", "quantity", "currency", "price", "cny_price",
    "market_value_cny", "dedup_key", "asset_name", "avg_cost", "source", "remark"]

/-- `HoldingSnapshot(**members)`. What the validators leave of each number is checked again where the row
is built, and so is `_assert_replayable_market_value`. -/
def holdingSnapshot (members : Members) : Except PayloadError HoldingSnapshot := do
  if ∃ key ∈ members.map Prod.fst, key ∉ rowFields.map codes then throw .extraField
  let recordId ← optionalText members "record_id"
  let asOf ← requiredText rt members "as_of"
  let account ← requiredText rt members "account"
  let assetId ← requiredText rt members "asset_id"
  let broker ← requiredText rt members "broker"
  let quantity ← readQuantity rt members
  let currency ← requiredText rt members "currency"
  let price ← readUnitPrice rt members "price"
  let cnyPrice ← readUnitPrice rt members "cny_price"
  let marketValueCny ← readMarketValue rt members
  let dedupKey ← requiredText rt members "dedup_key"
  let assetName ← optionalText members "asset_name"
  let avgCost ← readAvgCost rt members
  let source ← optionalText members "source"
  let remark ← optionalText members "remark"
  if h : (∀ text ∈ [asOf, account, assetId, broker, currency, dedupKey], ValidName text) ∧
      (quantity.decimal.coefficient ≠ 0 ∧ atPrecision (-8) quantity.decimal) ∧
      (0 < price.decimal.coefficient ∧ 0 < cnyPrice.decimal.coefficient) ∧
      (atPrecision (-2) marketValueCny.decimal ∧ ∀ cost ∈ avgCost, atPrecision (-2) cost.decimal) ∧
      ((quantity.decimal.mul cnyPrice.decimal).quantize (-2)).isSome ∧
      (quantity.decimal.mul cnyPrice.decimal).quantize (-2) = marketValueCny.decimal.quantize (-2) then
    return {
      recordId, asOf, account, assetId, broker, quantity, currency, price, cnyPrice, marketValueCny,
      dedupKey, assetName, avgCost, source, remark
      texts := h.1
      quantized := h.2.1
      positive := h.2.2.1
      atMoney := h.2.2.2.1
      replayed := by
        obtain ⟨c, hc⟩ := Option.isSome_iff_exists.mp h.2.2.2.2.1
        exact ⟨c, hc, h.2.2.2.2.2 ▸ hc⟩ }
  else throw .invalidRow

/-- `_snapshot_from_payload`. -/
def snapshotFromPayload (row : Json) : Except PayloadError HoldingSnapshot :=
  match row with
  | .object members => holdingSnapshot rt members
  | v =>
    match rt.pairs v with
    | some members => holdingSnapshot rt members
    | none => .error .notAnObject

/-! ## Reading plans -/

/-- The rows of `payload.get(name) or []`. What is iterated and no list yields texts of one character or
keys of a dict, none of which is a row. -/
def payloadRows (members : Members) (name : String) : Except PayloadError (List HoldingSnapshot) :=
  let rows := Json.get members name
  if rows.truthy then
    match rows with
    | .array items => items.mapM (snapshotFromPayload rt)
    | _ => .error .notAnObject
  else .ok []

/-- `SnapshotExactSetPlan(...)`. -/
def exactSetPlan (account asOf targetDigest : String) (before desired : List HoldingSnapshot) :
    Except PayloadError SnapshotExactSetPlan :=
  if haccount : strip account = "" then .error (.blank "snapshot_plan.account")
  else if ¬ rt.isDate asOf then .error .notADate
  else if hdigest : targetDigest.length ≠ 64 then .error .digestLength
  else
    match hbefore : validateRows account asOf true .before before,
      hdesired : validateRows account asOf false .desired desired with
    | .ok (), .ok () => .ok ⟨account, asOf, targetDigest, before, desired, haccount,
        not_not.mp hdigest, hbefore, hdesired⟩
    | .error e, _ => .error (.contract e)
    | _, .error e => .error (.contract e)

/-- `build`. -/
def buildPlan (account asOf targetDigest : String) (before desired : List HoldingSnapshot) :
    Except PayloadError SnapshotExactSetPlan :=
  exactSetPlan rt account asOf targetDigest (sortBy HoldingSnapshot.sortKey before)
    (sortBy HoldingSnapshot.sortKey desired)

/-- `SnapshotExactSetPlan.from_payload`. -/
def planFromPayload (payload : Json) : Except PayloadError SnapshotExactSetPlan := do
  let .object members := payload | throw .notAnObject
  let account ← textOrEmpty rt (Json.get members "account")
  let asOf ← textOrEmpty rt (Json.get members "as_of")
  let targetDigest ← textOrEmpty rt (Json.get members "target_digest")
  let before ← payloadRows rt members "before"
  let desired ← payloadRows rt members "desired"
  let plan ← buildPlan rt account asOf targetDigest before desired
  if ¬ Json.same rt.equalNumbers (Json.get members "contract_version") (Json.text exactSetVersion) then
    throw .contractVersion
  let digest ← lifted (plan.planDigest rt)
  if ¬ Json.same rt.equalNumbers (Json.get members "plan_digest") (Json.text digest) then
    throw .planDigestMismatch
  return plan

end

end Snapshots

end PortfolioManagement
