import PortfolioManagement.Domain.Enums
import PortfolioManagement.Lib.Dict
import PortfolioManagement.Valuation.Normalized

/-!
# Pricing

`ValuationService.calculate_normalized_valuation` from the holdings and the prices it has: the quote of each
holding is looked up under its code, the code in upper case and the normalized code, in this order, and what it
gives decides the prices of the row. A quote is a dict or an object of the price cache.
-/

namespace PortfolioManagement.Valuation

open Snapshots

/-- What the interpreter adds to the valuation service. -/
structure PriceRuntime extends EvidenceRuntime where
  /-- `str.isdigit` of a character -/
  isDigit : Char → Bool
  /-- a value inside a formatted string -/
  format : Json → String
  /-- `datetime.now(UTC)`, formatted -/
  nowText : Codes

/-! ## Asset codes -/

/-- `code.endswith(ending)` -/
def endsWith (code ending : String) : Bool := ending.toList.isSuffixOf code.toList

/-- `_is_cash_code` -/
def isCashCode (code : String) : Bool := endsWith code "-CASH" || endsWith code "-MMF"

/-- `_split_market_suffix` of a code that is stripped and in upper case: the last of its endings `.US`, `.HK`,
`.SH` and `.SZ`; a line break in the part before it does not match. -/
def splitMarketSuffix (code : String) : String × Option String :=
  let base := code.toList.take (code.length - 3)
  match ["US", "HK", "SH", "SZ"].find? fun market => endsWith code ("." ++ market) with
  | some market => if '\n' ∈ base then (code, none) else (String.ofList base, some market)
  | none => (code, none)

section
variable (rt : PriceRuntime)

/-- `text.isdigit()` -/
def isDigits (text : String) : Bool := !text.toList.isEmpty && text.toList.all rt.isDigit

/-- `text.zfill(5)` -/
def fillToFive (text : String) : String :=
  String.ofList (List.replicate (5 - text.length) '0') ++ text

/-- `normalize_code` -/
def normalizeCode (code : String) : String :=
  let code := upper (strip code)
  if isCashCode code then code
  else
    let (base, suffix) := splitMarketSuffix code
    let rest := String.ofList (base.toList.drop 2)
    let marked := ['H', 'K'].isPrefixOf base.toList && isDigits rt rest
    let base := if marked then rest else base
    let suffix := if marked then some (suffix.getD "HK") else suffix
    if isDigits rt base then
      if suffix = some "HK" ∨ base.length ≤ 4 then fillToFive base else base
    else base

/-! ## Quotes -/

/-- A quote: a dict, or an object with these attributes. -/
structure Payload where
  /-- it is a dict -/
  isDict : Bool
  /-- its items, or its attributes -/
  fields : Members

/-- The truth of a quote: an empty dict is false. -/
def Payload.truthy (payload : Payload) : Bool := !payload.isDict || !payload.fields.isEmpty

/-- `_price_field` -/
def priceField (payload : Payload) (key : String) (default : Json) : Json :=
  (getItem (codes key) payload.fields).getD default

/-- A price map: the quotes of codes. -/
structure PriceMap where
  /-- the items -/
  items : Items String Payload
  /-- a code has one quote -/
  nodup : (items.map Prod.fst).Nodup

/-- `positive_finite_decimal`; `None` is 0 there. -/
def positiveFiniteDecimal (value : Json) : Option Decimal :=
  (decimalOf value).filter fun x => 0 < x.coefficient

/-- `d.setdefault(key, payload)` -/
def setdefault (key : String) (payload : Payload) (lookup : Items String Payload) : Items String Payload :=
  if key ∈ lookup.map Prod.fst then lookup else lookup ++ [(key, payload)]

/-- `price_lookup` -/
def priceLookup (prices : PriceMap) : Items String Payload :=
  prices.items.foldl (fun lookup item =>
    if item.1 = "" then lookup
    else
      let code := upper (strip item.1)
      setdefault (normalizeCode rt code) item.2 (setdefault code item.2 lookup)) prices.items

/-- The fields of a holding that the valuation reads. -/
structure HoldingInput where
  /-- `record_id` -/
  recordId : Option String
  /-- `asset_id` -/
  assetId : String
  /-- `asset_name` -/
  assetName : String
  /-- `asset_type` -/
  assetType : AssetType
  /-- `account` -/
  account : String
  /-- `broker` -/
  broker : String
  /-- `quantity` -/
  quantity : Decimal
  /-- `avg_cost` -/
  avgCost : Option Decimal
  /-- `currency` -/
  currency : String
  /-- `asset_class` -/
  assetClass : Option String
  /-- `industry` -/
  industry : Option String
  /-- `tag` -/
  tag : List String

/-- The quote of a holding: the first under one of its codes that is not false, or an empty dict. -/
def quoteOf (lookup : Items String Payload) (holding : HoldingInput) : Payload :=
  let code := strip holding.assetId
  (([holding.assetId, upper code, normalizeCode rt code].filterMap fun key => List.lookup key lookup).find?
    Payload.truthy).getD ⟨true, []⟩

/-- The prices a quote gives for a currency. -/
def quotedPrices (payload : Payload) (currency : String) : Option (Decimal × Decimal) :=
  if payload.truthy then do
    let price ← positiveFiniteDecimal (priceField payload "price" .none)
    let cnyPrice ← match priceField payload "cny_price" .none with
      | .word .null => if currency = "CNY" then some price else none
      | value => positiveFiniteDecimal value
    return (price, cnyPrice)
  else none

/-- A text of this value. -/
def isText (value : Json) (text : String) : Bool :=
  match value with
  | .string s => s == codes text
  | _ => false

/-- The valuation counts the quote as stale. -/
def staleFields (fields : Members) : Bool :=
  isText (Json.get fields "source") "cache_fallback" || (Json.get fields "is_stale").truthy

/-- `market_value_cny` of a quantity -/
def marketValueOf (quantity : Int) : Option (Decimal × Decimal) → Except EvidenceError (Option Decimal)
  | none => .ok none
  | some (_, cnyPrice) =>
    match (Decimal.mul ⟨quantity, -8⟩ cnyPrice).quantize (-2) with
    | some value => .ok (some ⟨value, -2⟩)
    | none => .error .row

/-- The fields of the row of a holding. -/
def rowFields (holding : HoldingInput) (account normalizedType : String) (quantity : Int)
    (prices : Option (Decimal × Decimal)) (marketValueCny : Option Decimal) (source : String) : RowFields where
  recordId := if strip (textOr holding.recordId) = "" then none else some (strip (textOr holding.recordId))
  account := account
  assetId := strip holding.assetId
  assetName := holding.assetName
  assetType := holding.assetType.value
  normalizedType := normalizedType
  broker := strip holding.broker
  quantity := ⟨quantity, -8⟩
  avgCost := holding.avgCost
  currency := upper (strip holding.currency)
  assetClass := holding.assetClass
  industry := holding.industry
  tags := holding.tag
  price := prices.map Prod.fst
  cnyPrice := prices.map Prod.snd
  marketValueCny := marketValueCny
  source := strip source

/-- `NormalizedValuationRow.from_holding` -/
def fromHolding (holding : HoldingInput) (account normalizedType : String)
    (prices : Option (Decimal × Decimal)) (source : String) : Except EvidenceError NormalizedValuationRow := do
  let rowAccount := strip (if holding.account = "" then account else holding.account)
  if rowAccount = "" ∨ rowAccount ≠ account ∨ strip source = "" then throw .row
  match holding.quantity.quantize (-8) with
  | none => throw .row
  | some quantity =>
    if quantity = 0 then throw .row
    let marketValueCny ← marketValueOf quantity prices
    (rowFields holding rowAccount normalizedType quantity prices marketValueCny source).checked

/-! ## The loop -/

/-- `is_cash_like` -/
def isCashLike (t : AssetType) (assetId : String) : Bool :=
  t = .cash || t = .mmf || isCashCode (upper assetId)

/-- `normalize_asset_type` -/
def normalizeAssetType (t : AssetType) (assetId : String) : String :=
  if isCashLike t assetId then "cash"
  else if t ∈ [AssetType.fund, .exchangeFund, .otcFund, .cnFund, .usFund, .hkFund] then "fund"
  else if t = .crypto then "crypto"
  else if t ∈ [AssetType.aStock, .hkStock, .usStock, .bond] then "stock"
  else "other"

/-- `price_meta` -/
structure PriceMeta where
  /-- `from_cache` -/
  fromCache : Nat
  /-- `from_realtime` -/
  fromRealtime : Nat
  /-- `stale_fallback` -/
  staleFallback : Nat
  /-- `missing` -/
  missing : Nat
  /-- `run_reused` -/
  runReused : Nat

/-- What the loop has made so far. -/
structure Progress where
  /-- `normalized_rows` -/
  rows : List NormalizedValuationRow
  /-- `excluded_zero_keys` -/
  excludedZeroKeys : List String
  /-- `normalization_warnings` -/
  normalizationWarnings : List String
  /-- `price_errors` -/
  priceErrors : List String
  /-- `price_meta` -/
  counts : PriceMeta

/-- `price_meta` after a holding. -/
def PriceMeta.count (counts : PriceMeta) (payload : Payload) (valid : Bool) : PriceMeta :=
  if valid then
    let cached := !payload.isDict || (Json.get payload.fields "is_from_cache").truthy
    let stale := payload.isDict && staleFields payload.fields
    let reused := payload.isDict && (Json.get payload.fields "is_from_run_pool").truthy
    { counts with
      fromCache := counts.fromCache + if cached then 1 else 0
      fromRealtime := counts.fromRealtime + if cached then 0 else 1
      staleFallback := counts.staleFallback + if stale then 1 else 0
      runReused := counts.runReused + if reused then 1 else 0 }
  else { counts with missing := counts.missing + 1 }

/-- `currency` of a holding; an empty one is that of its quote, and the row is refused. -/
def currencyOf (holding : HoldingInput) : String := upper holding.currency

/-- The prices of a holding's row: those of its quote, or 1 for cash and money market funds in yuan. -/
def rowPrices (payload : Payload) (holding : HoldingInput) : Option (Decimal × Decimal) :=
  match quotedPrices payload (currencyOf holding) with
  | some prices => some prices
  | none =>
    if currencyOf holding = "CNY" ∧ (holding.assetType = .cash ∨ holding.assetType = .mmf) then
      some (⟨1, 0⟩, ⟨1, 0⟩)
    else none

/-- The warning of a holding without a price. -/
def missingWarning (holding : HoldingInput) (normalizedType : String) : List String :=
  if normalizedType = "cash" ∧ currencyOf holding ≠ "CNY" then
    [holding.assetName ++ "(" ++ holding.assetId ++ "): 无法获取汇率"]
  else if holding.quantity.coefficient ≠ 0 then
    [holding.assetName ++ "(" ++ holding.assetId ++ "): 价格缺失，无法可靠估值"]
  else []

/-- The warning of a holding whose code says it is cash. -/
def typeWarning (holding : HoldingInput) (normalizedType : String) : List String :=
  if normalizedType = "cash" ∧ holding.assetType ≠ .cash ∧ holding.assetType ≠ .mmf ∧
      endsWith (upper (strip holding.assetId)) "-CASH" then
    ["分类兜底: " ++ holding.assetId ++ ": 原始 asset_type=" ++ holding.assetType.value ++
      "，按代码后缀归一为 cash"]
  else []

/-- `source` of a row -/
def rowSource (payload : Payload) (prices : Option (Decimal × Decimal)) : String :=
  if payload.truthy then rt.format (priceField payload "source" (.text "record_nav"))
  else if prices.isSome then "fixed_identity" else "missing_price"

/-- The loop's body. -/
def priceHolding (account : String) (lookup : Items String Payload) (progress : Progress)
    (holding : HoldingInput) : Except EvidenceError Progress := do
  let some quantity := holding.quantity.quantize (-8) | throw (.number "quantity")
  if quantity = 0 then
    let key := account ++ ":" ++ strip holding.broker ++ ":" ++ strip holding.assetId
    return { progress with excludedZeroKeys := progress.excludedZeroKeys ++ [key] }
  else
    let payload := quoteOf rt lookup holding
    let normalizedType := normalizeAssetType holding.assetType holding.assetId
    let prices := rowPrices payload holding
    let row ← fromHolding holding account normalizedType prices (rowSource rt payload prices)
    return {
      rows := progress.rows ++ [row]
      excludedZeroKeys := progress.excludedZeroKeys
      normalizationWarnings := progress.normalizationWarnings ++
        (typeWarning holding normalizedType).filter (· ∉ progress.normalizationWarnings)
      priceErrors := progress.priceErrors ++
        if prices.isSome then [] else missingWarning holding normalizedType
      counts := progress.counts.count payload (quotedPrices payload (currencyOf holding)).isSome }

/-- `price_evidence`: the quotes that are dicts. -/
def priceEvidence (prices : PriceMap) : Members :=
  Json.display ((prices.items.filter fun item => item.2.isDict).map fun item => (item.1, .object item.2.fields))

/-! ## Valuations -/

/-- The arguments of a valuation that has its prices, and what it reads besides. -/
structure ValuationInput where
  /-- `account` -/
  account : String
  /-- the holdings -/
  holdings : List HoldingInput
  /-- `supplemental`, the codes that are fetched beside those of the holdings -/
  supplemental : List String
  /-- `prices` -/
  prices : PriceMap
  /-- the warnings of the caller and of the fetch -/
  priceWarnings : List String
  /-- the total shares -/
  shares : Option Decimal
  /-- `holdings_provenance` -/
  holdingsProvenance : Members
  /-- `source_provenance` -/
  sourceProvenance : Members

/-- `_last_tencent_batch_meta` of the price fetcher, in the last warning -/
def tencentText (batch : Option Members) : String :=
  match batch with
  | some members =>
    match Json.get members "requests" with
    | .word .null => ""
    | requests =>
      let text (name : String) := rt.format (Json.get members name)
      "; tencent_batch=reqs=" ++ rt.format requests ++ ", elapsed_ms=" ++ text "elapsed_ms" ++
        ", returned=" ++ text "returned_codes" ++ "/" ++ text "requested_codes"
  | none => ""

/-- The last warning. -/
def summaryWarning (counts : PriceMeta) (batch : Option Members) : String :=
  "[价格汇总] realtime=" ++ toString counts.fromRealtime ++ ", cache=" ++ toString counts.fromCache ++
    ", stale_fallback=" ++ toString counts.staleFallback ++ ", missing=" ++ toString counts.missing ++
    ", run_reused=" ++ toString counts.runReused ++ tencentText rt batch

/-- The key by which rows are sorted. -/
def RowFields.sortKey (row : RowFields) : List String :=
  [row.account, row.broker, row.assetId, row.recordId.getD ""]

/-- `sorted(rows, key=...)` -/
def sortRows (rows : List NormalizedValuationRow) : List NormalizedValuationRow :=
  rows.mergeSort fun a b => !decide (b.1.sortKey < a.1.sortKey)

/-- What is assembled into a valuation. -/
structure Parts where
  /-- `rows` -/
  rows : List NormalizedValuationRow
  /-- `excluded_zero_keys` -/
  excludedZeroKeys : List String
  /-- `warnings` -/
  warnings : List String
  /-- `price_evidence` -/
  evidence : Members
  /-- `source_provenance` -/
  sourceProvenance : Members

/-- `normalized_shares` -/
def normalizedShares : Option Decimal → Except EvidenceError (Option Decimal)
  | none => .ok none
  | some shares =>
    match shares.quantize (-2) with
    | some c => .ok (some ⟨c, -2⟩)
    | none => .error .snapshot

/-- `tuple(dict.fromkeys(...))` of the warnings that are not blank -/
def uniqueWarnings (warnings : List String) : List String :=
  (warnings.filter fun warning => strip warning ≠ "").foldl
    (fun kept warning => if warning ∈ kept then kept else kept ++ [warning]) []

/-- The fields of a valuation of the service. -/
def snapshotFields (input : ValuationInput) (parts : Parts) (shares : Option Decimal) : SnapshotFields where
  account := strip input.account
  rows := sortRows parts.rows
  components := []
  shares := shares
  navOverride := none
  priceEvidence := .object parts.evidence
  holdingsProvenance := .object input.holdingsProvenance
  warnings := uniqueWarnings parts.warnings
  excludedZeroCount := parts.excludedZeroKeys.length
  excludedZeroKeyDigest :=
    rt.sha256 (.array ((parts.excludedZeroKeys.mergeSort fun a b => !decide (b < a)).map Json.text))
  source := "valuation_service"
  sourceProvenance := .object parts.sourceProvenance
  official := true

/-- `_from_valuation_service` -/
def assemble (input : ValuationInput) (parts : Parts) : Except EvidenceError NormalizedValuationSnapshot := do
  let shares ← normalizedShares input.shares
  if strip input.account = "" then throw .snapshot
  (snapshotFields rt input parts shares).checked

/-- The loop over the holdings. -/
def priceHoldings (input : ValuationInput) : Except EvidenceError Progress :=
  input.holdings.foldlM (priceHolding rt input.account (priceLookup rt input.prices))
    ⟨[], [], [], input.priceWarnings, ⟨0, 0, 0, 0, 0⟩⟩

/-- `calculate_normalized_valuation` with its prices; `batch` is what the price fetcher last recorded of a
batch. -/
def calculateNormalizedValuation (input : ValuationInput) (batch : Option Members) :
    Except EvidenceError NormalizedValuationSnapshot :=
  if input.holdings = [] ∧ input.supplemental = [] then
    assemble rt input ⟨[], [], input.priceWarnings, [], Json.display [("price_mode", .text "empty")]⟩
  else do
    let progress ← priceHoldings rt input
    assemble rt input ⟨progress.rows, progress.excludedZeroKeys,
      progress.normalizationWarnings ++ progress.priceErrors ++ [summaryWarning rt progress.counts batch],
      priceEvidence input.prices, input.sourceProvenance⟩

end

end PortfolioManagement.Valuation
