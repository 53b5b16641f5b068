import PortfolioManagement.Lib.Rounding
import PortfolioManagement.Valuation.Pricing

/-!
# Unit prices

The way of a quote from its provider to the valuation: `normalize_price_payload` rounds its prices to cents, the
price cache rounds them again, and both may be passed more than once. The fixed quotes of cash, money market
funds and crypto values take the same way. What is left of the price in yuan is its cents.
-/

namespace PortfolioManagement.Valuation

open Snapshots

/-- What the quote boundary raises. -/
inductive QuoteError
  /-- must be a positive finite number -/
  | notPositive (field : String)
  /-- foreign-currency quote requires cny_price -/
  | noYuanPrice
  /-- `decimal.InvalidOperation` -/
  | invalidOperation (field : String)
  /-- rates missing -/
  | missingRate (key : String)

/-- A float that holds a decimal. -/
def floatOf (x : Decimal) : Json := .number (codes x.fixedPoint)

/-- It is `None`, or absent. -/
def isNone : Json → Bool
  | .word .null => true
  | _ => false

section
variable (rt : PriceRuntime)

/-- `str(value or "CNY").strip().upper()` -/
def quoteCurrency (fields : Members) : String :=
  let value := Json.get fields "currency"
  upper (strip (if value.truthy then rt.format value else "CNY"))

/-- `result.setdefault("fetched_at", bj_now_naive().isoformat())`, unless the quote is from the cache -/
def withFetchedAt (now : Codes) (fields : Members) : Members :=
  if (Json.get fields "is_from_cache").truthy || (getItem (codes "fetched_at") fields).isSome then fields
  else setItem (codes "fetched_at") (.string now) fields

/-- `positive_finite_decimal` of a field that is there -/
def requirePositive (fields : Members) (key : String) : Except QuoteError Unit :=
  let value := Json.get fields key
  if isNone value || (positiveFiniteDecimal value).isSome then .ok () else .error (.notPositive key)

/-- `quantize_money`, `quantize_rate` or `quantize_pct` of a field that is there -/
def quantizeField (exponent : Int) (fields : Members) (key : String) : Except QuoteError Members :=
  match Json.get fields key with
  | .word .null | .word .nan => .ok fields
  | value =>
    match (decimalOf value).bind (·.quantize exponent) with
    | some c => .ok (setItem (codes key) (floatOf ⟨c, exponent⟩) fields)
    | none => .error (.invalidOperation key)

/-- The fields that are rounded to cents. -/
def moneyKeys : List String := ["price", "prev_close", "open", "high", "low", "change", "cny_price"]

/-- `normalize_price_payload` -/
def normalizePricePayload (now : Codes) (payload : Members) : Except QuoteError Members := do
  let result := withFetchedAt now payload
  if isNone (Json.get result "price") then throw (.notPositive "price")
  requirePositive result "price"
  if quoteCurrency rt result ≠ "CNY" ∧ isNone (Json.get result "cny_price") = true then throw .noYuanPrice
  requirePositive result "cny_price"
  requirePositive result "exchange_rate"
  let result ← moneyKeys.foldlM (quantizeField (-2)) result
  let result ← quantizeField (-2) result "change_pct"
  let result ← quantizeField (-6) result "exchange_rate"
  requirePositive result "price"
  requirePositive result "cny_price"
  requirePositive result "exchange_rate"
  return result

/-! ## Fixed quotes -/

/-- `_currency_from_code` -/
def currencyFromCode (code : String) : String :=
  if '-' ∈ code.toList then String.ofList (code.toList.takeWhile (· ≠ '-')) else "CNY"

/-- `_rate_for_currency` -/
def rateForCurrency (currency : String) (rates : Items String Decimal) : Except QuoteError Decimal :=
  if currency = "CNY" then .ok ⟨1, 0⟩
  else
    match List.lookup (currency ++ "CNY") rates with
    | some rate => .ok rate
    | none => .error (.missingRate (currency ++ "CNY"))

/-- The payload of a fixed quote. -/
def fixedPayload (code name currency marketType : String) (rate : Decimal) : Members :=
  Json.display [("code", .text code), ("name", .text name), ("price", floatOf ⟨1, 0⟩), ("currency", .text currency),
    ("cny_price", floatOf rate), ("exchange_rate", floatOf rate), ("market_type", .text marketType),
    ("source", .text "fixed")]

/-- `get_cash_price_with_rates` -/
def getCashPriceWithRates (now : Codes) (code : String) (rates : Items String Decimal) :
    Except QuoteError Members := do
  let currency := currencyFromCode code
  let rate ← rateForCurrency currency rates
  normalizePricePayload rt now (fixedPayload code (currency ++ "现金") currency "cash" rate)

/-- `get_mmf_price_with_rates` -/
def getMmfPriceWithRates (now : Codes) (code : String) (rates : Items String Decimal) :
    Except QuoteError Members := do
  let payload ← getCashPriceWithRates rt now code rates
  let name := rt.format (Json.get payload "currency") ++ "货币基金"
  normalizePricePayload rt now
    (setItem (codes "market_type") (.text "mmf") (setItem (codes "name") (.text name) payload))

/-- The last part of a code. -/
def lastPart (code : String) : String :=
  String.ofList (code.toList.reverse.takeWhile (· ≠ '-')).reverse

/-- `get_crypto_value_price_with_rates` -/
def getCryptoValuePriceWithRates (now : Codes) (code : String) (rates : Items String Decimal) :
    Except QuoteError Members := do
  let currency := lastPart (upper code)
  let rate ← rateForCurrency currency rates
  normalizePricePayload rt now (fixedPayload code (currency ++ "计价虚拟币") currency "crypto" rate)

/-! ## The price cache -/

/-- `PriceCache` -/
structure PriceCache where
  /-- `asset_id` -/
  assetId : String
  /-- `asset_name` -/
  assetName : Json
  /-- `price`, in cents -/
  price : Int
  /-- `currency` -/
  currency : Json
  /-- `cny_price`, in cents -/
  cnyPrice : Int
  /-- `change` -/
  change : Json
  /-- `change_pct` -/
  changePct : Json
  /-- `exchange_rate` -/
  exchangeRate : Json
  /-- `data_source` -/
  dataSource : Json
  /-- `expires_at` -/
  expiresAt : Json

/-- `quantize_price_fields` -/
def quantizePriceField (name : String) (value : Json) : Except QuoteError Int :=
  match (decimalOf value).bind (·.quantize (-2)) with
  | some c => .ok c
  | none => .error (.invalidOperation name)

/-- The record `PriceCachePolicy.save` makes of a quote. -/
def PriceCache.ofPayload (code : String) (expiresAt : Json) (payload : Members) : Except QuoteError PriceCache := do
  let given := (getItem (codes "price") payload).getD (floatOf ⟨0, 0⟩)
  let price ← quantizePriceField "price" given
  let cnyPrice ← quantizePriceField "cny_price" ((getItem (codes "cny_price") payload).getD given)
  return {
    assetId := code
    assetName := Json.get payload "name"
    price := price
    currency := (getItem (codes "currency") payload).getD (.text "CNY")
    cnyPrice := cnyPrice
    change := Json.get payload "change"
    changePct := Json.get payload "change_pct"
    exchangeRate := Json.get payload "exchange_rate"
    dataSource := Json.get payload "source"
    expiresAt := expiresAt }

/-- The attributes of a record of the cache that a valuation reads. -/
def PriceCache.attributes (cached : PriceCache) : Members :=
  Json.display [("price", floatOf ⟨cached.price, -2⟩), ("currency", cached.currency),
    ("cny_price", floatOf ⟨cached.cnyPrice, -2⟩)]

/-- `price_cache_to_payload` before it is normalized. -/
def PriceCache.payload (cached : PriceCache) (isStale : Bool) : Members :=
  Json.display [("code", .text cached.assetId), ("name", cached.assetName), ("price", floatOf ⟨cached.price, -2⟩),
    ("currency", cached.currency), ("cny_price", floatOf ⟨cached.cnyPrice, -2⟩), ("change", cached.change),
    ("change_pct", cached.changePct), ("exchange_rate", cached.exchangeRate),
    ("source", if cached.dataSource.truthy then cached.dataSource else .text "cache"),
    ("expires_at", cached.expiresAt), ("is_from_cache", .ofBool true), ("is_stale", .ofBool isStale)]

/-- `price_cache_to_payload` -/
def priceCacheToPayload (now : Codes) (cached : PriceCache) (isStale : Bool) : Except QuoteError Members :=
  normalizePricePayload rt now (cached.payload isStale)

/-! ## The way of a quote -/

/-- What a provider says of an instrument: its price, and the rate of its currency to yuan. -/
structure ProviderQuote where
  /-- the price -/
  price : ℚ
  /-- the rate, which is 1 for yuan -/
  rate : ℚ

/-- The number in a field. -/
def HasNumber (fields : Members) (key : String) (x : ℚ) : Prop :=
  ∃ d, decimalOf (Json.get fields key) = some d ∧ d.value = x

/-- A provider's payload gives a quote: the price, and the price in yuan that the rate makes of it. -/
structure Gives (raw : Members) (quote : ProviderQuote) : Prop where
  price : HasNumber raw "price" quote.price
  cnyPrice : HasNumber raw "cny_price" (quote.price * quote.rate)
  rate : quote.rate = 1 ∨ HasNumber raw "exchange_rate" quote.rate

/-- The ways of a provider's payload to the valuation: it is normalized, again and again, it passes through the
cache, and what is no price may be added to it. -/
inductive Carried (raw : Members) : Payload → Prop
  | normalized {now : Codes} {quote : Members} (h : normalizePricePayload rt now raw = .ok quote) :
      Carried raw ⟨true, quote⟩
  | again {now : Codes} {quote next : Members} (hquote : Carried raw ⟨true, quote⟩)
      (h : normalizePricePayload rt now quote = .ok next) : Carried raw ⟨true, next⟩
  | labelled {quote : Members} {key : String} (value : Json) (hquote : Carried raw ⟨true, quote⟩)
      (hkey : key ∉ ["price", "cny_price"]) : Carried raw ⟨true, setItem (codes key) value quote⟩
  | stored {code : String} {expiresAt : Json} {quote : Members} {cached : PriceCache}
      (hquote : Carried raw ⟨true, quote⟩) (h : PriceCache.ofPayload code expiresAt quote = .ok cached) :
      Carried raw ⟨false, cached.attributes⟩
  | read {now : Codes} {code : String} {expiresAt : Json} {quote next : Members} {cached : PriceCache}
      {isStale : Bool} (hquote : Carried raw ⟨true, quote⟩)
      (h : PriceCache.ofPayload code expiresAt quote = .ok cached)
      (hread : priceCacheToPayload rt now cached isStale = .ok next) : Carried raw ⟨true, next⟩

end

end PortfolioManagement.Valuation
