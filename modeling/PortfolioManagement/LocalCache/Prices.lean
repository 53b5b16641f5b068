import PortfolioManagement.Domain.Enums
import PortfolioManagement.Lib.JsonValues
import PortfolioManagement.LocalCache.CacheFile

/-!
# The price cache

`LocalPriceCache` keeps a price under its asset id, as a dict of texts and floats with the time it
expires, to the second. Reading deletes what has expired and builds a price from the dict again, which
rounds its two amounts; what was rounded when it was saved stays as it is.
-/

namespace PortfolioManagement.LocalCache

open Json (display text optionalText)

/-- What reading floats and times takes from the interpreter. -/
structure FloatRuntime where
  /-- `repr(float(value))` of what `float` makes a finite float of -/
  floatOf : Json → Option Codes
  /-- the text is a number that `float` reads back -/
  floatOf_spec : ∀ v literal, floatOf v = some literal →
    IsNumeral literal ∧ floatOf (.number literal) = some literal
  /-- a `datetime` field reads the text -/
  readsDateTime : String → Bool
  /-- the seconds since the time a text names, where `strptime` reads it -/
  secondsSince : Codes → Codes → Option ℚ

/-- A finite float, by the literal of its `repr`. -/
structure FloatLiteral (rt : FloatRuntime) where
  /-- the literal -/
  literal : Codes
  /-- it is a number -/
  numeral : IsNumeral literal
  /-- `float` reads it back -/
  exact : rt.floatOf (.number literal) = some literal

/-- The rounding of amounts. -/
structure PriceRuntime extends FloatRuntime where
  /-- `_quantize_decimal(v, MONEY_QUANT)` -/
  quantize : FloatLiteral toFloatRuntime → FloatLiteral toFloatRuntime
  /-- what is rounded stays as it is -/
  quantize_quantize : ∀ x, quantize (quantize x) = quantize x

/-- A time, by the text `strftime` gives it and what that leaves out: a fraction of the second, a zone. -/
structure Expiry (rt : FloatRuntime) where
  /-- the text -/
  text : String
  /-- the rest -/
  rest : String
  /-- a `datetime` field reads the text -/
  reads : rt.readsDateTime text
  /-- the text is not empty -/
  nonempty : text ≠ ""

/-- `PriceCache`. -/
structure PriceCache (rt : FloatRuntime) where
  /-- `asset_id` -/
  assetId : String
  /-- `asset_name` -/
  assetName : Option String
  /-- `asset_type` -/
  assetType : AssetType
  /-- `price` -/
  price : FloatLiteral rt
  /-- `currency` -/
  currency : String
  /-- `cny_price` -/
  cnyPrice : FloatLiteral rt
  /-- `change` -/
  change : Option (FloatLiteral rt)
  /-- `change_pct` -/
  changePct : Option (FloatLiteral rt)
  /-- `exchange_rate` -/
  exchangeRate : Option (FloatLiteral rt)
  /-- `data_source` -/
  dataSource : Option String
  /-- `expires_at` -/
  expiresAt : Option (Expiry rt)

/-- What reading raises. -/
inductive ReadError
  | attributeError
  | typeError
  | valueError
deriving DecidableEq, Repr

section
variable (rt : PriceRuntime)

/-- The validators of `PriceCache`. -/
def PriceCache.validated (p : PriceCache rt.toFloatRuntime) : PriceCache rt.toFloatRuntime :=
  { p with price := rt.quantize p.price, cnyPrice := rt.quantize p.cnyPrice }

/-- A number of a stored price. -/
def optionalNumber (x : Option (FloatLiteral rt.toFloatRuntime)) : Json :=
  x.elim Json.none fun x => .number x.literal

/-- The dict `save` keeps, with the time it is saved at. -/
def storedItems (p : PriceCache rt.toFloatRuntime) (now : Codes) : List (String × Json) :=
  [("asset_id", text p.assetId), ("asset_name", optionalText p.assetName),
    ("asset_type", text p.assetType.value), ("price", .number p.price.literal),
    ("currency", text p.currency), ("cny_price", .number p.cnyPrice.literal),
    ("change", optionalNumber rt p.change), ("change_pct", optionalNumber rt p.changePct),
    ("exchange_rate", optionalNumber rt p.exchangeRate), ("data_source", optionalText p.dataSource),
    ("expires_at", optionalText (p.expiresAt.map Expiry.text)), ("updated_at", .string now)]

theorem canonical_storedItems (p : PriceCache rt.toFloatRuntime) (now : Codes) :
    Canonical (.object (display (storedItems rt p now))) := by
  refine Json.canonical_display fun item hitem => ?_
  have hoptional : ∀ x : Option (FloatLiteral rt.toFloatRuntime), Canonical (optionalNumber rt x) := by
    intro x
    cases x with
    | none => exact trivial
    | some x => exact x.numeral
  have htext : ∀ x : Option String, Canonical (optionalText x) := by
    intro x
    cases x with
    | none => exact trivial
    | some x => exact trivial
  simp only [storedItems, List.mem_cons, List.not_mem_nil, or_false] at hitem
  rcases hitem with rfl | rfl | rfl | rfl | rfl | rfl | rfl | rfl | rfl | rfl | rfl | rfl
  · exact trivial
  · exact htext _
  · exact trivial
  · exact p.price.numeral
  · exact trivial
  · exact p.cnyPrice.numeral
  · exact hoptional _
  · exact hoptional _
  · exact hoptional _
  · exact htext _
  · exact htext _
  · exact trivial

/-- What `save` keeps of a price. -/
def stored (p : PriceCache rt.toFloatRuntime) (now : Codes) : Value :=
  ⟨.object (display (storedItems rt p now)), canonical_storedItems rt p now⟩

/-! ## Reading -/

/-- `str` field of a model. -/
def readText : Json → Except ReadError String
  | .string s => match textOf? s with
    | some s => .ok s
    | none => .error .valueError
  | _ => .error .valueError

/-- `Optional[str]` field of a model. -/
def readOptionalText : Json → Except ReadError (Option String)
  | .word .null => .ok none
  | v => (readText v).map some

/-- `float(value)`. -/
def readFloat (v : Json) : Except ReadError (FloatLiteral rt.toFloatRuntime) :=
  match h : rt.floatOf v with
  | some literal => .ok ⟨literal, (rt.floatOf_spec v literal h).1, (rt.floatOf_spec v literal h).2⟩
  | none => .error .typeError

/-- `float(value) if value is not None else None`. -/
def readOptionalFloat : Json → Except ReadError (Option (FloatLiteral rt.toFloatRuntime))
  | .word .null => .ok none
  | v => (readFloat rt v).map some

/-- `AssetType(value) if value else AssetType.OTHER`. -/
def readAssetType (v : Json) : Except ReadError AssetType :=
  if v.truthy then do
    let value ← readText v
    match AssetType.ofValue value with
    | some assetType => .ok assetType
    | none => .error .valueError
  else .ok .other

/-- `expires_at if expires_at else None` of a `datetime` field. -/
def readExpiry (v : Json) : Except ReadError (Option (Expiry rt.toFloatRuntime)) :=
  if v.truthy then do
    let value ← readText v
    if h : rt.readsDateTime value ∧ value ≠ "" then .ok (some ⟨value, "", h.1, h.2⟩)
    else .error .valueError
  else .ok none

/-- `data.get(name, default)`. -/
def getOr (data : Members) (name : String) (default : Json) : Json :=
  (getItem (codes name) data).getD default

/-- The price a stored dict is read as. -/
def readPrice (data : Members) : Except ReadError (PriceCache rt.toFloatRuntime) := do
  let assetId ← readText (getOr data "asset_id" (text ""))
  let assetName ← readOptionalText (Json.get data "asset_name")
  let assetType ← readAssetType (Json.get data "asset_type")
  let price ← readFloat rt (getOr data "price" (.number (codes "0")))
  let currency ← readText (getOr data "currency" (text "CNY"))
  let cnyPrice ← readFloat rt (Json.get data "cny_price")
  let change ← readOptionalFloat rt (Json.get data "change")
  let changePct ← readOptionalFloat rt (Json.get data "change_pct")
  let exchangeRate ← readOptionalFloat rt (Json.get data "exchange_rate")
  let dataSource ← readOptionalText (Json.get data "data_source")
  let expiresAt ← readExpiry rt (getOr data "expires_at" (text ""))
  return PriceCache.validated rt ⟨assetId, assetName, assetType, price, currency, cnyPrice, change,
    changePct, exchangeRate, dataSource, expiresAt⟩

/-- `expires_at and expires_at < now`. -/
def isExpired (now : Codes) : Json → Except ReadError Bool
  | .string s => .ok (s ≠ [] && decide (s < now))
  | v => if v.truthy then .error .typeError else .ok false

/-- `get`, as far as it answers: what it deletes is `PriceOp.get`. -/
def getPrice (assetId : String) (now : Codes) (allowExpired : Bool) (maxStale : ℚ) (d : Dict) :
    Except ReadError (Option (PriceCache rt.toFloatRuntime)) :=
  match getItem (codes assetId) d.items with
  | none => .ok none
  | some data =>
    if ¬ data.truthy then .ok none
    else match data with
      | .object data => do
        let expiresAt := getOr data "expires_at" (text "")
        if ← isExpired now expiresAt then
          let age := match expiresAt with
            | .string s => rt.secondsSince s now
            | _ => none
          match age with
          | some age =>
            if ¬ allowExpired ∨ maxStale ≤ 0 ∨ maxStale < age then .ok none
            else (readPrice rt data).map some
          | none => .ok none
        else (readPrice rt data).map some
      | _ => .error .attributeError

/-- One round of `get_all`: an entry that has expired or is no price is passed over. -/
def getAllEntry (now : Codes) : Json → Except ReadError (Option (PriceCache rt.toFloatRuntime))
  | .object data => do
    if ← isExpired now (getOr data "expires_at" (text "")) then return none
    else return (readPrice rt data).toOption
  | _ => .error .attributeError

/-- `get_all`, as far as it answers. -/
def getAll (now : Codes) (d : Dict) : Except ReadError (List (PriceCache rt.toFloatRuntime)) :=
  (d.items.mapM fun item => getAllEntry rt now item.2).map fun prices => prices.filterMap id

/-! ## Operations -/

end

theorem canonicalMembers_filter (test : Codes × Json → Bool) {items : Members}
    (h : CanonicalMembers items) : CanonicalMembers (items.filter test) := by
  induction items with
  | nil => exact trivial
  | cons item items ih =>
    obtain ⟨hv, hrest⟩ : Canonical item.2 ∧ CanonicalMembers items := h
    rw [List.filter_cons]
    split
    · exact ⟨hv, ih hrest⟩
    · exact ih hrest

/-- A dict without some of its items. -/
def withoutItems (drop : Codes → Json → Bool) (d : Dict) : Dict where
  items := d.items.filter fun item => !drop item.1 item.2
  canonical := ⟨List.Pairwise.sublist (List.Sublist.map _ List.filter_sublist) d.canonical.1,
    canonicalMembers_filter _ d.canonical.2⟩

/-- An operation of the price cache. -/
inductive PriceOp (rt : FloatRuntime)
  /-- `save(price, _flush=flush)` -/
  | save (price : PriceCache rt) (flush : Bool) (now : Codes)
  /-- `delete(asset_id)` -/
  | delete (assetId : String)
  /-- what `get(asset_id)` deletes -/
  | get (assetId : String) (now : Codes) (allowExpired : Bool)
  /-- what `get_all()` deletes -/
  | getAll (now : Codes)

section
variable (rt : PriceRuntime)

/-- An entry has expired. -/
def entryExpired (now : Codes) : Json → Bool
  | .object data => match isExpired now (getOr data "expires_at" (text "")) with
    | .ok expired => expired
    | .error _ => false
  | _ => false

/-- The operations on the dict. -/
def performPriceOp : PriceOp rt.toFloatRuntime → Dict → Option (Dict × Nat)
  | .save price _ now, d =>
    some (d.set (codes price.assetId) (stored rt (price.validated rt) now), 1)
  | .delete assetId, d =>
    if (getItem (codes assetId) d.items).isSome then
      some (withoutItems (fun key _ => key = codes assetId) d, 1)
    else none
  | .get assetId now allowExpired, d =>
    match getItem (codes assetId) d.items with
    | some data =>
      if entryExpired now data ∧ ¬ allowExpired then
        some (withoutItems (fun key _ => key = codes assetId) d, 1)
      else none
    | none => none
  | .getAll now, d =>
    let expired := d.items.filter fun item => entryExpired now item.2
    if expired = [] then none else some (withoutItems (fun _ data => entryExpired now data) d, expired.length)

/-- `_flush`; `get` and `get_all` write what they delete at once. -/
def PriceOp.flushes {rt : FloatRuntime} : PriceOp rt → Bool
  | .save _ flush _ => flush
  | .delete _ => false
  | .get .. | .getAll _ => true

/-- `LocalPriceCache`. -/
def localPriceCache : CacheClass where
  Op := PriceOp rt.toFloatRuntime
  perform := performPriceOp rt
  flushes := PriceOp.flushes
  payload _ d := d
  accept loaded := loaded

end

end PortfolioManagement.LocalCache
