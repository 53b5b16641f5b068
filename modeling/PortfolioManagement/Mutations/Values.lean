import PortfolioManagement.Domain.Enums
import PortfolioManagement.Domain.Keys
import PortfolioManagement.Lib.JsonValues

/-!
# Canonical values of a holding

`Holding` is the permissive transport model. Before a write, `canonical_holding_value` brings each field
into its canonical form: names and selects without blanks around them, finite numbers, a currency in
capitals, tags that are texts. What it makes of a field, it leaves alone afterwards, so a canonical value
is a type of its own. Building a `Holding` again rounds the average cost once more.
-/

namespace PortfolioManagement

namespace HoldingField

/-- The name of a field. -/
def name : HoldingField → String
  | assetName => "asset_name"
  | assetType => "asset_type"
  | quantity => "quantity"
  | avgCost => "avg_cost"
  | currency => "currency"
  | assetClass => "asset_class"
  | industry => "industry"
  | tag => "tag"

/-- `sorted(HOLDING_VALUE_FIELDS)`. -/
def sorted : List HoldingField :=
  [assetClass, assetName, assetType, avgCost, currency, industry, quantity, tag]

theorem mem_sorted (field : HoldingField) : field ∈ sorted := by
  cases field <;> decide

theorem name_injective : Function.Injective name := by
  intro f g h
  cases f <;> cases g <;> first | rfl | exact absurd h (by decide)

end HoldingField

namespace Mutations

open Json (text optionalText display)

/-! ## The interpreter -/

/-- An ASCII letter. -/
def isLetter (c : Char) : Bool :=
  let n := c.toNat
  (65 ≤ n && n ≤ 90) || (97 ≤ n && n ≤ 122)

/-- Three to five ASCII letters. -/
def isCurrencyCode (s : String) : Bool :=
  s.toList.all isLetter && 3 ≤ s.toList.length && s.toList.length ≤ 5

/-- How numbers are read. -/
structure NumberRuntime where
  /-- `repr(float(Decimal(text.replace(",", "").strip())))`, where that is a finite float -/
  floatOf : Codes → Option Codes
  /-- the `repr` of a finite float is a number literal that is read back -/
  floatOf_spec : ∀ text literal, floatOf text = some literal →
    IsNumeral literal ∧ floatOf literal = some literal

/-- A finite float, by the literal of its `repr`. -/
structure FiniteFloat (rt : NumberRuntime) where
  /-- the literal -/
  literal : Codes
  /-- it is a number -/
  numeral : IsNumeral literal
  /-- it is read back -/
  exact : rt.floatOf literal = some literal

theorem FiniteFloat.ext {rt : NumberRuntime} {x y : FiniteFloat rt} (h : x.literal = y.literal) :
    x = y := by
  cases x
  cases y
  cases h
  rfl

/-- What the contracts of a mutation take from the interpreter. -/
structure MutationRuntime extends NumberRuntime where
  /-- `str` of a value that is no text -/
  repr : Json → Codes
  /-- the text of a float is its `repr` -/
  repr_literal : ∀ x : FiniteFloat toNumberRuntime, repr (.number x.literal) = x.literal
  /-- `_quantize_decimal(x, MONEY_QUANT)`; `none` when the decimal context does not hold the result -/
  quantize : FiniteFloat toNumberRuntime → Option (FiniteFloat toNumberRuntime)
  /-- what was rounded stays as it is -/
  quantize_again : ∀ x y, quantize x = some y → quantize y = some y
  /-- `==` of two numbers -/
  equalNumbers : Codes → Codes → Bool
  /-- a number is equal to itself -/
  equalNumbers_self : ∀ literal, equalNumbers literal literal = true
  /-- `abs(x) > 1e-8` -/
  exceeds : FiniteFloat toNumberRuntime → Bool
  /-- `str.lower` -/
  lower : String → String
  /-- small letters and underscores stay -/
  lower_value : ∀ t : AssetType, lower t.value = t.value
  /-- `str.upper` -/
  upper : String → String
  /-- ASCII letters that `str.upper` wrote are capitals, and stay -/
  upper_upper : ∀ s, isCurrencyCode (upper s) = true → upper (upper s) = upper s
  /-- `sha256` of the canonical JSON text, in hexadecimal digits -/
  sha256 : Json → String
  /-- digits are a name -/
  validName_sha256 : ∀ v, ValidName (sha256 v)

/-- Why a mutation is refused. -/
inductive MutationError
  /-- a required text is blank -/
  | required (field : String)
  /-- a field cannot be null -/
  | cannotBeNull (field : String)
  /-- a value the field does not take -/
  | invalid (field : String)
  /-- a value the registry does not list -/
  | unsupportedSelect
  /-- a text with half of a surrogate pair -/
  | encoding
  /-- an `ArithmeticError` of the rounding -/
  | arithmetic
  /-- the values are not complete -/
  | incompleteValues
  /-- unsupported owned_fields -/
  | unsupportedOwned
  /-- owned_fields must not be empty -/
  | noOwned
  /-- create target must use the empty base digest -/
  | createDigest
  /-- create target must own required values -/
  | createRequired
  /-- create target has non-neutral unowned values -/
  | createUnowned
  /-- holding target identity changed -/
  | identityChanged
  /-- holding target changes unowned fields -/
  | changesUnowned
  /-- a part of the payload has another type -/
  | payload (part : String)
deriving DecidableEq

/-! ## Names and codes -/

/-- A stripped text that is not blank. -/
abbrev Name := {s : String // ValidName s}

/-- A currency as `canonical_holding_value` leaves it. -/
abbrev CurrencyCode (rt : MutationRuntime) :=
  {s : String // isCurrencyCode s = true ∧ rt.upper s = s}

section
variable (rt : MutationRuntime)

/-- `_required_text`. -/
def requiredText (field : String) (v : Json) : Except MutationError Name :=
  match textOf? (v.strOrEmpty rt.repr) with
  | none => .error .encoding
  | some s => if h : strip s = "" then .error (.required field) else .ok ⟨strip s, validName_strip h⟩

/-- `str(value).strip()`. -/
def strippedStr (v : Json) : Except MutationError String :=
  match textOf? (v.str rt.repr) with
  | none => .error .encoding
  | some s => .ok (strip s)

/-- `_finite_number`. -/
def finiteNumber (field : String) (v : Json) : Except MutationError (FiniteFloat rt.toNumberRuntime) :=
  if v.isTrue ∨ v.isFalse then .error (.invalid field)
  else match h : rt.floatOf (v.str rt.repr) with
    | none => .error (.invalid field)
    | some literal =>
      .ok ⟨literal, (rt.floatOf_spec _ _ h).1, (rt.floatOf_spec _ _ h).2⟩

/-! ## `canonical_holding_value` -/

/-- The currency. -/
def canonicalCurrency (v : Json) : Except MutationError (CurrencyCode rt) := do
  let candidate ← strippedStr rt v
  if h : isCurrencyCode (rt.upper candidate) = true then
    return ⟨rt.upper candidate, h, rt.upper_upper _ h⟩
  else throw (.invalid "currency")

/-- A select, by its text. -/
def canonicalSelect {α : Type} (field : String) (ofValue : String → Option α) (v : Json) :
    Except MutationError α := do
  let candidate ← strippedStr rt v
  if candidate = "" then throw (.required field)
  match ofValue candidate with
  | none => throw .unsupportedSelect
  | some x => return x

/-- The tags. -/
def canonicalTag : Json → Except MutationError (List String)
  | .array items => items.mapM fun item =>
    match item with
    | .string s => (textOf? s).elim (.error .encoding) .ok
    | _ => .error (.invalid "tag")
  | _ => .error (.invalid "tag")

/-- A value that is not null. -/
def notNull (field : String) : Json → Except MutationError Unit
  | .word .null => .error (.cannotBeNull field)
  | _ => .ok ()

/-- A value of a field that may be null. -/
def clearable {α : Type} (canonical : Json → Except MutationError α) :
    Json → Except MutationError (Option α)
  | .word .null => .ok none
  | v => (canonical v).map some

/-- The canonical values of a holding. -/
structure HoldingValues where
  /-- `asset_name` -/
  assetName : Name
  /-- `asset_type` -/
  assetType : AssetType
  /-- `quantity` -/
  quantity : FiniteFloat rt.toNumberRuntime
  /-- `avg_cost` -/
  avgCost : Option (FiniteFloat rt.toNumberRuntime)
  /-- `currency` -/
  currency : CurrencyCode rt
  /-- `asset_class` -/
  assetClass : Option AssetClass
  /-- `industry` -/
  industry : Option Industry
  /-- `tag` -/
  tag : List String

/-- `canonical_holding_value` of every field. -/
def canonicalValues (raw : HoldingField → Json) : Except MutationError (HoldingValues rt) := do
  notNull "asset_name" (raw .assetName)
  let assetName ← requiredText rt "asset_name" (raw .assetName)
  notNull "asset_type" (raw .assetType)
  let assetType ← canonicalSelect rt "asset_type" (fun s => AssetType.ofValue (rt.lower s)) (raw .assetType)
  notNull "quantity" (raw .quantity)
  let quantity ← finiteNumber rt "quantity" (raw .quantity)
  let avgCost ← clearable (finiteNumber rt "avg_cost") (raw .avgCost)
  notNull "currency" (raw .currency)
  let currency ← canonicalCurrency rt (raw .currency)
  let assetClass ← clearable (canonicalSelect rt "asset_class" AssetClass.ofValue) (raw .assetClass)
  let industry ← clearable (canonicalSelect rt "industry" Industry.ofValue) (raw .industry)
  notNull "tag" (raw .tag)
  let tag ← canonicalTag (raw .tag)
  return ⟨assetName, assetType, quantity, avgCost, currency, assetClass, industry, tag⟩

end

section
variable {rt : MutationRuntime}

/-- The literal of a float. -/
def FiniteFloat.json {rt : NumberRuntime} (x : FiniteFloat rt) : Json := .number x.literal

/-- The values, as they stand in a dict; a tuple counts as a list. -/
def HoldingValues.raw (v : HoldingValues rt) : HoldingField → Json
  | .assetName => text v.assetName
  | .assetType => text v.assetType.value
  | .quantity => v.quantity.json
  | .avgCost => v.avgCost.elim Json.none FiniteFloat.json
  | .currency => text v.currency
  | .assetClass => optionalText (v.assetClass.map AssetClass.value)
  | .industry => optionalText (v.industry.map Industry.value)
  | .tag => .array (v.tag.map text)

/-! ## Canonical values stay as they are -/

theorem requiredText_name (field : String) (name : Name) :
    requiredText rt field (text name.1) = .ok name := by
  unfold requiredText
  rw [Json.strOrEmpty_text, textOf?_codes]
  simp only
  rw [dif_neg (by rw [name.2.stripped]; exact name.2.ne_empty)]
  exact congrArg Except.ok (Subtype.ext name.2.stripped)

theorem strippedStr_text (s : String) : strippedStr rt (text s) = .ok (strip s) := by
  unfold strippedStr
  rw [show (text s).str rt.repr = codes s from rfl, textOf?_codes]

theorem finiteNumber_json (field : String) (x : FiniteFloat rt.toNumberRuntime) :
    finiteNumber rt field x.json = .ok x := by
  unfold finiteNumber
  rw [if_neg (by simp [FiniteFloat.json, Json.isTrue, Json.isFalse])]
  have hread : rt.floatOf (x.json.str rt.repr) = some x.literal := by
    rw [show x.json.str rt.repr = rt.repr (.number x.literal) from rfl, rt.repr_literal]
    exact x.exact
  split
  next hnone =>
    rw [hread] at hnone
    cases hnone
  next literal hsome =>
    rw [hread] at hsome
    exact congrArg Except.ok (FiniteFloat.ext (Option.some.inj hsome).symm)

theorem canonicalSelect_text {α : Type} {ofValue : String → Option α} {field value : String} {x : α}
    (hname : ValidName value) (hvalue : ofValue value = some x) :
    canonicalSelect rt field ofValue (text value) = .ok x := by
  unfold canonicalSelect
  rw [strippedStr_text, hname.stripped]
  show (if value = "" then _ else _) = _
  rw [if_neg hname.ne_empty]
  simp only [hvalue]
  rfl

theorem not_space_of_isLetter {c : Char} (h : isLetter c = true) : ¬ SpaceChar c := by
  simp only [isLetter, SpaceChar, isSpace, Bool.or_eq_true, Bool.and_eq_true, decide_eq_true_eq,
    beq_iff_eq] at h ⊢
  omega

theorem strip_code {s : String} (h : isCurrencyCode s = true) : strip s = s := by
  unfold isCurrencyCode at h
  simp only [Bool.and_eq_true, List.all_eq_true] at h
  rw [strip_eq_self_iff]
  exact ⟨fun c hc => not_space_of_isLetter (h.1.1 c (List.mem_of_mem_head? hc)),
    fun c hc => not_space_of_isLetter (h.1.1 c (List.mem_of_mem_getLast? hc))⟩

theorem canonicalTag_texts (tags : List String) : canonicalTag (.array (tags.map text)) = .ok tags := by
  unfold canonicalTag
  simp only
  induction tags with
  | nil => rfl
  | cons s tags ih =>
    rw [List.map_cons, List.mapM_cons, ih]
    simp only [text, textOf?_codes]
    rfl

theorem canonicalCurrency_code (code : CurrencyCode rt) :
    canonicalCurrency rt (text code.1) = .ok code := by
  unfold canonicalCurrency
  rw [strippedStr_text, strip_code code.2.1]
  have hupper := code.2.2
  have hcode : isCurrencyCode (rt.upper code.1) = true := by
    rw [hupper]
    exact code.2.1
  show (if h : isCurrencyCode (rt.upper code.1) = true then _ else _) = _
  rw [dif_pos hcode]
  exact congrArg Except.ok (Subtype.ext hupper)

theorem validName_assetType (t : AssetType) : ValidName t.value := by
  cases t <;> decide

theorem validName_assetClass (c : AssetClass) : ValidName c.value := by
  cases c <;> decide

theorem validName_industry (i : Industry) : ValidName i.value := by
  cases i <;> decide

theorem clearable_text {α : Type} {value : α → String} {canonical : Json → Except MutationError α}
    (h : ∀ x, canonical (text (value x)) = .ok x) (x : Option α) :
    clearable canonical (optionalText (x.map value)) = .ok x := by
  cases x with
  | none => rfl
  | some x =>
    show (canonical (text (value x))).map some = _
    rw [h]
    rfl

/-- Canonical values stay as they are. -/
theorem canonicalValues_raw (v : HoldingValues rt) : canonicalValues rt v.raw = .ok v := by
  have htype : canonicalSelect rt "asset_type" (fun s => AssetType.ofValue (rt.lower s))
      (text v.assetType.value) = .ok v.assetType :=
    canonicalSelect_text (validName_assetType _) (by rw [rt.lower_value, AssetType.ofValue_value])
  have hclass : clearable (canonicalSelect rt "asset_class" AssetClass.ofValue)
      (optionalText (v.assetClass.map AssetClass.value)) = .ok v.assetClass :=
    clearable_text (fun x => canonicalSelect_text (validName_assetClass x) (AssetClass.ofValue_value x)) _
  have hindustry : clearable (canonicalSelect rt "industry" Industry.ofValue)
      (optionalText (v.industry.map Industry.value)) = .ok v.industry :=
    clearable_text (fun x => canonicalSelect_text (validName_industry x) (Industry.ofValue_value x)) _
  have hcost : clearable (finiteNumber rt "avg_cost") (v.avgCost.elim Json.none FiniteFloat.json) =
      .ok v.avgCost := by
    cases v.avgCost with
    | none => rfl
    | some x =>
      show (finiteNumber rt "avg_cost" x.json).map some = _
      rw [finiteNumber_json]
      rfl
  unfold canonicalValues
  simp only [HoldingValues.raw, requiredText_name, htype, finiteNumber_json, hcost,
    canonicalCurrency_code, hclass, hindustry, canonicalTag_texts]
  rfl

end

end Mutations

end PortfolioManagement
