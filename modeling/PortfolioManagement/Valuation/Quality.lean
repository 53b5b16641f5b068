import Mathlib.Data.List.Dedup
import PortfolioManagement.Valuation.Pricing

/-!
# Valuation quality

`valuation_quality_evidence` of a valuation: which of its rows need a market quote, and what the price evidence
says about the quotes under exactly their codes. The valuation itself looked its quotes up under more codes and
read their prices; the theorem says when both come to the same.
-/

namespace PortfolioManagement.Valuation

open Snapshots

/-- What is said of one quote. -/
structure QuoteEvidence where
  /-- `code` -/
  code : Codes
  /-- `currency` -/
  currency : Codes
  /-- `source` -/
  source : Json
  /-- `observed_at_utc` -/
  observedAt : Json
  /-- `price_present` -/
  pricePresent : Bool
  /-- `cny_price_present` -/
  cnyPricePresent : Bool
  /-- `fx_present` -/
  fxPresent : Bool
  /-- `is_stale` -/
  isStale : Bool
  /-- `is_fallback` -/
  isFallback : Bool

/-- `x is not None` -/
def present : Json → Bool
  | .word .null => false
  | _ => true

/-- `x or y` -/
def orElse (x y : Json) : Json := if x.truthy then x else y

/-- `text.upper()` -/
def upperCodes (text : Codes) : Codes :=
  text.map fun n =>
    match charOf? n with
    | some c => (upperChar c).toNat
    | none => n

/-- `sorted(set(codes))` -/
def sortedSet (texts : List Codes) : List Codes := texts.dedup.mergeSort fun a b => !decide (b < a)

/-- `sorted(codes)` -/
def sortedTexts (texts : List Codes) : List Codes := texts.mergeSort fun a b => !decide (b < a)

section
variable (rt : PriceRuntime)

/-- One quote of the evidence. -/
def quoteEvidence (code : Codes) (payload : Members) : QuoteEvidence :=
  let currency := upperCodes ((Json.get payload "currency").strOrEmpty rt.repr)
  let source := Json.get payload "source"
  { code, currency
    source := orElse source (Json.get payload "data_source")
    observedAt := orElse (Json.get payload "fetched_at") (Json.get payload "observed_at")
    pricePresent := present (Json.get payload "price")
    cnyPricePresent := present (Json.get payload "cny_price")
    fxPresent := currency == codes "CNY" || present (Json.get payload "exchange_rate")
    isStale := (Json.get payload "is_stale").truthy || isText source "cache_fallback"
    isFallback := (Json.get payload "is_from_cache").truthy || isText source "cache_fallback" }

/-- `quotes`: the evidence that is a dict; its items are in key order. -/
def quotes (evidence : Members) : List QuoteEvidence :=
  evidence.filterMap fun item =>
    match item.2 with
    | .object payload => some (quoteEvidence rt item.1 payload)
    | _ => none

/-- `_requires_market_quote` of a row. -/
def requiresMarketQuote (row : RowFields) : Bool :=
  !((upper row.assetType = "CASH" || upper row.assetType = "MMF") && upper row.currency = "CNY")

/-- What `valuation_quality_evidence` reports. -/
structure QualityEvidence where
  /-- `observed_at_utc` -/
  observedAt : Codes
  /-- `prices.status` is `trusted` -/
  pricesTrusted : Bool
  /-- `prices.missing_codes` -/
  missingCodes : List Codes
  /-- `prices.stale_codes` -/
  staleCodes : List Codes
  /-- `prices.quotes` -/
  quotes : List QuoteEvidence
  /-- `fx.status` is `trusted` -/
  fxTrusted : Bool
  /-- `fx.missing_codes` -/
  missingFx : List Codes
  /-- `fx.missing_fact_time_codes` -/
  missingFxFactTime : List Codes
  /-- `fx.fact_times` -/
  factTimes : List Codes

/-- `required_codes`; every row has a quantity. -/
def requiredCodes (rows : List NormalizedValuationRow) : List Codes :=
  (rows.filter fun row => row.1.quantity.coefficient ≠ 0 ∧ requiresMarketQuote row.1).map fun row =>
    codes row.1.assetId

/-- `valuation_quality_evidence` -/
def valuationQualityEvidence (rows : List NormalizedValuationRow) (evidence : Members) : QualityEvidence :=
  let quotes := quotes rt evidence
  let pricedCodes := (quotes.filter fun q => q.pricePresent && q.cnyPricePresent).map (·.code)
  let missingCodes := sortedSet ((requiredCodes rows).filter (· ∉ pricedCodes))
  let staleCodes := sortedTexts ((quotes.filter (·.isStale)).map (·.code))
  let foreign := quotes.filter fun q => q.currency ≠ codes "CNY"
  let missingFx := sortedTexts ((foreign.filter fun q => !q.fxPresent).map (·.code))
  let missingFxFactTime := sortedTexts
    ((foreign.filter fun q => q.fxPresent && !q.observedAt.truthy).map (·.code))
  let observedTimes := sortedTexts ((quotes.filter (·.observedAt.truthy)).map fun q => q.observedAt.str rt.repr)
  { observedAt := observedTimes.getLast?.getD rt.nowText
    pricesTrusted := missingCodes.isEmpty && staleCodes.isEmpty
    missingCodes, staleCodes, quotes
    fxTrusted := missingFx.isEmpty && missingFxFactTime.isEmpty
    missingFx, missingFxFactTime
    factTimes := sortedSet observedTimes }

end

/-! ## What the evidence says -/

section
variable {rt : PriceRuntime}

theorem mem_sortedSet {texts : List Codes} {text : Codes} : text ∈ sortedSet texts ↔ text ∈ texts := by
  unfold sortedSet
  rw [List.mem_mergeSort, List.mem_dedup]

theorem mem_sortedTexts {texts : List Codes} {text : Codes} : text ∈ sortedTexts texts ↔ text ∈ texts :=
  List.mem_mergeSort

theorem isEmpty_iff_forall {α : Type} {l : List α} : l.isEmpty = true ↔ ∀ a, a ∉ l := by
  rw [List.isEmpty_iff, List.eq_nil_iff_forall_not_mem]

/-- There is a dict with both prices under a code. -/
def HasQuote (evidence : Members) (code : Codes) : Prop :=
  ∃ payload, (code, Json.object payload) ∈ evidence ∧ present (Json.get payload "price") = true ∧
    present (Json.get payload "cny_price") = true

/-- No dict of the evidence is stale. -/
def NoneStale (evidence : Members) : Prop :=
  ∀ code payload, (code, Json.object payload) ∈ evidence → staleFields payload = false

/-- The evidence counts the quotes as stale that the valuation does. -/
theorem isStale_quoteEvidence (code : Codes) (payload : Members) :
    (quoteEvidence rt code payload).isStale = staleFields payload := Bool.or_comm _ _

theorem mem_quotes {evidence : Members} {q : QuoteEvidence} : q ∈ quotes rt evidence ↔
    ∃ code payload, (code, Json.object payload) ∈ evidence ∧ q = quoteEvidence rt code payload := by
  unfold quotes
  rw [List.mem_filterMap]
  constructor
  · rintro ⟨⟨code, v⟩, hmem, h⟩
    cases v with
    | object payload => exact ⟨code, payload, hmem, (Option.some.inj h).symm⟩
    | word w => cases h
    | number literal => cases h
    | string s => cases h
    | array items => cases h
  · rintro ⟨code, payload, hmem, rfl⟩
    exact ⟨(code, .object payload), hmem, rfl⟩

/-- A code is missing when a row requires it and it has no quote. -/
theorem mem_missingCodes {rows : List NormalizedValuationRow} {evidence : Members} {code : Codes} :
    code ∈ (valuationQualityEvidence rt rows evidence).missingCodes ↔
      code ∈ requiredCodes rows ∧ ¬ HasQuote evidence code := by
  have hpriced : code ∈ ((quotes rt evidence).filter fun q => q.pricePresent && q.cnyPricePresent).map
      (·.code) ↔ HasQuote evidence code := by
    rw [List.mem_map]
    constructor
    · rintro ⟨q, hq, rfl⟩
      obtain ⟨hmem, hpresent⟩ := List.mem_filter.mp hq
      obtain ⟨code, payload, hpayload, rfl⟩ := mem_quotes.mp hmem
      obtain ⟨hprice, hcny⟩ := Bool.and_eq_true_iff.mp hpresent
      exact ⟨payload, hpayload, hprice, hcny⟩
    · rintro ⟨payload, hpayload, hprice, hcny⟩
      exact ⟨quoteEvidence rt code payload, List.mem_filter.mpr ⟨mem_quotes.mpr ⟨code, payload, hpayload, rfl⟩,
        Bool.and_eq_true_iff.mpr ⟨hprice, hcny⟩⟩, rfl⟩
  unfold valuationQualityEvidence
  simp only
  rw [mem_sortedSet, List.mem_filter, decide_eq_true_eq, hpriced]

/-- Prices are trusted when no code is missing and no quote is stale. -/
theorem pricesTrusted_iff {rows : List NormalizedValuationRow} {evidence : Members} :
    (valuationQualityEvidence rt rows evidence).pricesTrusted = true ↔
      (∀ code ∈ requiredCodes rows, HasQuote evidence code) ∧ NoneStale evidence := by
  have hmissing : (valuationQualityEvidence rt rows evidence).missingCodes.isEmpty = true ↔
      ∀ code ∈ requiredCodes rows, HasQuote evidence code := by
    rw [isEmpty_iff_forall]
    simp only [mem_missingCodes, not_and, not_not]
  have hstale : (valuationQualityEvidence rt rows evidence).staleCodes.isEmpty = true ↔ NoneStale evidence := by
    rw [isEmpty_iff_forall]
    unfold valuationQualityEvidence NoneStale
    simp only [mem_sortedTexts, List.mem_map, List.mem_filter, not_exists, not_and]
    constructor
    · intro h code payload hmem
      have hfresh := h code (quoteEvidence rt code payload)
      rw [isStale_quoteEvidence] at hfresh
      by_contra hstale
      exact hfresh ⟨mem_quotes.mpr ⟨code, payload, hmem, rfl⟩, Bool.not_eq_false _ ▸ hstale⟩ rfl
    · rintro h code q ⟨hq, hstale⟩ -
      obtain ⟨code', payload, hmem, rfl⟩ := mem_quotes.mp hq
      rw [isStale_quoteEvidence, h code' payload hmem] at hstale
      cases hstale
  have htrusted : (valuationQualityEvidence rt rows evidence).pricesTrusted =
      ((valuationQualityEvidence rt rows evidence).missingCodes.isEmpty &&
        (valuationQualityEvidence rt rows evidence).staleCodes.isEmpty) := rfl
  rw [htrusted, Bool.and_eq_true_iff, hmissing, hstale]

end

end PortfolioManagement.Valuation
