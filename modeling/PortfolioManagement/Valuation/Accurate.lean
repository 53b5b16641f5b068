import PortfolioManagement.Lib.DecimalRounding
import PortfolioManagement.Valuation.QuotesAlike
import PortfolioManagement.Valuation.UnitPrices

/-!
# The accuracy of valuations

A quote that reaches the valuation holds its price in yuan in cents, and rounding again leaves them alone. So a
row's market value is the quantity times the cents of the unit price, rounded; it is at most a cent from what the
provider's numbers give when the cents the unit price lost, times the quantity, are few. The total of a valuation
is the sum of its rows.
-/

namespace PortfolioManagement.Valuation

/-! ## Totals -/

/-- `row.market_value_cny or Decimal("0")` -/
def RowFields.amount (row : RowFields) : ℚ := (row.marketValueCny.map Decimal.value).getD 0

namespace SnapshotFields

variable (snapshot : SnapshotFields)

/-- The sum over the rows of some types. Sums of amounts are exact. -/
def rowValue (p : String → Bool) : ℚ :=
  ((snapshot.rows.filter fun row => p row.1.normalizedType).map fun row => row.1.amount).sum

/-- `_component_value` -/
def componentValue (category : String) : ℚ :=
  ((snapshot.components.filter fun component => component.1.category = category).map
    fun component => component.1.valueCny.value).sum

/-- `cash_value` -/
def cashValue : ℚ := snapshot.rowValue (· = "cash") + snapshot.componentValue "cash"

/-- `fund_value` -/
def fundValue : ℚ := snapshot.rowValue (· = "fund") + snapshot.componentValue "fund"

/-- `equity_value` -/
def equityValue : ℚ := snapshot.rowValue (· ∉ ["cash", "fund"]) + snapshot.componentValue "equity"

/-- `total_value` -/
def totalValue : ℚ := snapshot.cashValue + (snapshot.equityValue + snapshot.fundValue)

/-- The types part the rows. -/
theorem rowValue_parts : snapshot.rowValue (· = "cash") + (snapshot.rowValue (· ∉ ["cash", "fund"]) +
    snapshot.rowValue (· = "fund")) = (snapshot.rows.map fun row => row.1.amount).sum := by
  unfold rowValue
  induction snapshot.rows with
  | nil => simp
  | cons row rows ih =>
    rw [List.map_cons, List.sum_cons, ← ih]
    by_cases hcash : row.1.normalizedType = "cash"
    · simp [hcash, add_assoc]
    · by_cases hfund : row.1.normalizedType = "fund"
      · simp [hfund]
        ring
      · simp [hcash, hfund]
        ring

/-- The total of a valuation without components is the sum of its rows. -/
theorem totalValue_eq (h : snapshot.components = []) :
    snapshot.totalValue = (snapshot.rows.map fun row => row.1.amount).sum := by
  have hnone : ∀ category, snapshot.componentValue category = 0 := by
    intro category
    rw [componentValue, h]
    rfl
  rw [totalValue, cashValue, equityValue, fundValue, hnone, hnone, hnone, add_zero, add_zero, add_zero,
    rowValue_parts]

end SnapshotFields

open Snapshots Decimal

section
variable {rt : PriceRuntime}

/-! ## The cents of a quote -/

/-- The number in a field is a number of cents. -/
def HasCents (fields : Members) (key : String) (c : Int) : Prop :=
  ∃ d, decimalOf (Json.get fields key) = some d ∧ d.equal ⟨c, -2⟩ = true

/-- A quote holds positive prices in cents. -/
structure InCents (fields : Members) (c : Int) : Prop where
  price : ∃ k, 0 < k ∧ HasCents fields "price" k
  positive : 0 < c
  cnyPrice : HasCents fields "cny_price" c

theorem decimalOf_floatOf (x : Decimal) : decimalOf (floatOf x) = some x.expanded := by
  unfold floatOf
  rw [decimalOf, textOf?_codes, Option.bind_some, ofText_fixedPoint]

theorem decimalOf_cents (c : Int) : decimalOf (floatOf ⟨c, -2⟩) = some ⟨c, -2⟩ := by
  rw [decimalOf_floatOf]
  rfl

theorem get_setItem_self (key : String) (value : Json) (fields : Members) :
    Json.get (setItem (codes key) value fields) key = value := by
  rw [Json.get, getItem_setItem]
  rfl

theorem get_setItem_of_ne {key other : String} (h : other ≠ key) (value : Json) (fields : Members) :
    Json.get (setItem (codes key) value fields) other = Json.get fields other := by
  rw [Json.get, getItem_setItem_of_ne fun heq => h (codes_injective heq)]
  rfl

theorem hasCents_of_get {fields : Members} {key : String} {c : Int}
    (h : Json.get fields key = floatOf ⟨c, -2⟩) : HasCents fields key c :=
  ⟨_, by rw [h, decimalOf_cents], equal_self _⟩

theorem hasCents_congr {fields other : Members} {key : String} {c : Int}
    (h : Json.get other key = Json.get fields key) (hcents : HasCents fields key c) : HasCents other key c := by
  unfold HasCents
  rw [h]
  exact hcents

/-- A number that is read is there. -/
theorem getItem_of_decimalOf {fields : Members} {key : String} {d : Decimal}
    (h : decimalOf (Json.get fields key) = some d) :
    getItem (codes key) fields = some (Json.get fields key) := by
  unfold Json.get at h ⊢
  cases hget : getItem (codes key) fields with
  | none =>
    rw [hget] at h
    cases h
  | some value => rfl

/-- Quantizing a number of cents changes nothing. -/
theorem quantize_cents {d : Decimal} {c k : Int} (hd : d.equal ⟨c, -2⟩ = true) (h : d.quantize (-2) = some k) :
    k = c := by
  have hvalue : (⟨c, -2⟩ : Decimal).value * 10 ^ (-(-2) : Int) = (c : ℚ) := by
    unfold value
    rw [mul_assoc, ← zpow_add₀ (by norm_num)]
    norm_num
  rw [quantize_eq h, equal_iff_value.mp hd, hvalue, roundHalfUp_intCast]

/-! ## The quote boundary -/

theorem quantizeField_ok {exponent : Int} {fields next : Members} {key : String}
    (h : quantizeField exponent fields key = .ok next) :
    (∀ other ≠ key, Json.get next other = Json.get fields other) ∧
      ∀ d, decimalOf (Json.get fields key) = some d →
        ∃ c, d.quantize exponent = some c ∧ Json.get next key = floatOf ⟨c, exponent⟩ := by
  unfold quantizeField at h
  split at h
  next heq =>
    cases h
    refine ⟨fun _ _ => rfl, fun d hd => ?_⟩
    rw [heq] at hd
    cases hd
  next heq =>
    cases h
    refine ⟨fun _ _ => rfl, fun d hd => ?_⟩
    rw [heq] at hd
    cases hd
  next =>
    split at h
    next c hc =>
      cases h
      refine ⟨fun other hne => get_setItem_of_ne hne _ _, fun d hd => ⟨c, ?_, get_setItem_self _ _ _⟩⟩
      rwa [hd, Option.bind_some] at hc
    next => cases h

/-- Fields are quantized one after the other. -/
theorem quantizeFields_ok {exponent : Int} {keys : List String} (hnodup : keys.Nodup) :
    ∀ {fields next : Members}, keys.foldlM (quantizeField exponent) fields = .ok next →
      (∀ other ∉ keys, Json.get next other = Json.get fields other) ∧
        ∀ key ∈ keys, ∀ d, decimalOf (Json.get fields key) = some d →
          ∃ c, d.quantize exponent = some c ∧ Json.get next key = floatOf ⟨c, exponent⟩ := by
  induction keys with
  | nil =>
    intro fields next h
    cases h
    exact ⟨fun _ _ => rfl, fun _ hmem => absurd hmem List.not_mem_nil⟩
  | cons first keys ih =>
    intro fields next h
    obtain ⟨hfirst, hnodup⟩ := List.nodup_cons.mp hnodup
    rw [List.foldlM_cons] at h
    obtain ⟨middle, hstep, hrest⟩ := except_bind_ok h
    obtain ⟨hkept, hquantized⟩ := quantizeField_ok hstep
    obtain ⟨hkept', hquantized'⟩ := ih hnodup hrest
    refine ⟨fun other hother => ?_, fun key hkey d hd => ?_⟩
    · obtain ⟨hne, hother⟩ := not_or.mp (List.mem_cons.not.mp hother)
      rw [hkept' other hother, hkept other hne]
    · rcases List.mem_cons.mp hkey with rfl | hkey
      · rw [hkept' key hfirst]
        exact hquantized d hd
      · have hne : key ≠ first := fun heq => hfirst (heq ▸ hkey)
        exact hquantized' key hkey d (by rw [hkept key hne, hd])

theorem requirePositive_ok {fields : Members} {key : String} {d : Decimal} {u : Unit}
    (h : requirePositive fields key = .ok u) (hd : decimalOf (Json.get fields key) = some d) :
    0 < d.coefficient := by
  unfold requirePositive at h
  dsimp only at h
  split_ifs at h with hvalid
  have hsome : isNone (Json.get fields key) = false := by
    generalize Json.get fields key = v at hd
    cases v with
    | word w => cases hd
    | number | string | array | object => rfl
  rw [hsome, Bool.false_or, positiveFiniteDecimal, hd, Option.isSome_iff_exists] at hvalid
  obtain ⟨x, hx⟩ := hvalid
  rw [Option.filter_eq_some_iff] at hx
  rw [Option.some.inj hx.1]
  exact of_decide_eq_true hx.2

theorem decimalOf_of_requirePositive {fields : Members} {key : String} {u : Unit}
    (h : requirePositive fields key = .ok u) (hsome : ¬ isNone (Json.get fields key) = true) :
    ∃ d, decimalOf (Json.get fields key) = some d := by
  unfold requirePositive at h
  dsimp only at h
  split_ifs at h with hvalid
  rw [Bool.or_eq_true, or_iff_right hsome, positiveFiniteDecimal, Option.isSome_iff_exists] at hvalid
  obtain ⟨x, hx⟩ := hvalid
  exact ⟨x, (Option.filter_eq_some_iff.mp hx).1⟩

theorem get_withFetchedAt (now : Codes) (fields : Members) {key : String} (h : key ≠ "fetched_at") :
    Json.get (withFetchedAt now fields) key = Json.get fields key := by
  unfold withFetchedAt
  split
  · rfl
  · exact get_setItem_of_ne h _ _

/-- A normalized quote holds its price, and its price in yuan where it has one, in cents. -/
theorem normalize_ok {now : Codes} {payload quote : Members}
    (h : normalizePricePayload rt now payload = .ok quote) :
    (∃ d k, decimalOf (Json.get payload "price") = some d ∧ d.quantize (-2) = some k ∧ 0 < k ∧
      Json.get quote "price" = floatOf ⟨k, -2⟩) ∧
    ∀ d, decimalOf (Json.get payload "cny_price") = some d → ∃ c, d.quantize (-2) = some c ∧ 0 < c ∧
      Json.get quote "cny_price" = floatOf ⟨c, -2⟩ := by
  unfold normalizePricePayload at h
  obtain ⟨hprice, h⟩ := except_guard_ok h
  obtain ⟨_, hpositive, h⟩ := except_bind_ok h
  obtain ⟨-, h⟩ := except_guard_ok h
  obtain ⟨_, -, h⟩ := except_bind_ok h
  obtain ⟨_, -, h⟩ := except_bind_ok h
  obtain ⟨money, hmoney, h⟩ := except_bind_ok h
  obtain ⟨pct, hpct, h⟩ := except_bind_ok h
  obtain ⟨rate, hrate, h⟩ := except_bind_ok h
  obtain ⟨_, hlast, h⟩ := except_bind_ok h
  obtain ⟨_, hlastCny, h⟩ := except_bind_ok h
  obtain ⟨_, -, h⟩ := except_bind_ok h
  cases h
  have hkeys : moneyKeys.Nodup := by decide
  obtain ⟨-, hquantized⟩ := quantizeFields_ok hkeys hmoney
  have hkept : ∀ key, key ≠ "change_pct" → key ≠ "exchange_rate" → Json.get quote key = Json.get money key :=
    fun key hpctNe hrateNe => by
      rw [(quantizeField_ok hrate).1 key hrateNe, (quantizeField_ok hpct).1 key hpctNe]
  have hread : ∀ key ∈ moneyKeys, key ≠ "change_pct" → key ≠ "exchange_rate" → key ≠ "fetched_at" → ∀ d,
      decimalOf (Json.get payload key) = some d → ∀ u, requirePositive quote key = .ok u →
      ∃ c, d.quantize (-2) = some c ∧ 0 < c ∧ Json.get quote key = floatOf ⟨c, -2⟩ := by
    intro key hkey hpctNe hrateNe hfetched d hd u hu
    rw [← get_withFetchedAt now payload hfetched] at hd
    obtain ⟨c, hc, hget⟩ := hquantized key hkey d hd
    have hfinal := (hkept key hpctNe hrateNe).trans hget
    exact ⟨c, hc, requirePositive_ok hu (by rw [hfinal, decimalOf_cents]), hfinal⟩
  obtain ⟨d, hd⟩ := decimalOf_of_requirePositive hpositive hprice
  rw [get_withFetchedAt now payload (by decide)] at hd
  obtain ⟨k, hk, hpos, hget⟩ :=
    hread "price" (by decide) (by decide) (by decide) (by decide) d hd _ hlast
  exact ⟨⟨d, k, hd, hk, hpos, hget⟩, fun d hd =>
    hread "cny_price" (by decide) (by decide) (by decide) (by decide) d hd _ hlastCny⟩

/-- Normalizing again keeps the cents. -/
theorem InCents.normalize {now : Codes} {quote next : Members} {c : Int} (hquote : InCents quote c)
    (h : normalizePricePayload rt now quote = .ok next) : InCents next c := by
  obtain ⟨⟨-, k, -, -, hpos, hprice⟩, hcny⟩ := normalize_ok h
  obtain ⟨d, hd, hequal⟩ := hquote.cnyPrice
  obtain ⟨c', hc', -, hget⟩ := hcny d hd
  rw [quantize_cents hequal hc'] at hget
  exact ⟨⟨k, hpos, hasCents_of_get hprice⟩, hquote.positive, hasCents_of_get hget⟩

theorem quantizePriceField_ok {name : String} {value : Json} {k : Int}
    (h : quantizePriceField name value = .ok k) : ∃ d, decimalOf value = some d ∧ d.quantize (-2) = some k := by
  unfold quantizePriceField at h
  split at h
  next c hc =>
    cases h
    exact Option.bind_eq_some_iff.mp hc
  next => cases h

/-- A record of the cache holds the cents of its quote. -/
theorem InCents.cached {code : String} {expiresAt : Json} {quote : Members} {c : Int} {cached : PriceCache}
    (hquote : InCents quote c) (h : PriceCache.ofPayload code expiresAt quote = .ok cached) :
    0 < cached.price ∧ cached.cnyPrice = c := by
  obtain ⟨k, hk, d, hd, hequal⟩ := hquote.price
  obtain ⟨e, he, hequal'⟩ := hquote.cnyPrice
  unfold PriceCache.ofPayload at h
  dsimp only at h
  rw [getItem_of_decimalOf hd, getItem_of_decimalOf he, Option.getD_some, Option.getD_some] at h
  obtain ⟨price, hprice, h⟩ := except_bind_ok h
  obtain ⟨cnyPrice, hcnyPrice, h⟩ := except_bind_ok h
  cases h
  obtain ⟨d', hd', hprice⟩ := quantizePriceField_ok hprice
  obtain ⟨e', he', hcnyPrice⟩ := quantizePriceField_ok hcnyPrice
  cases hd.symm.trans hd'
  cases he.symm.trans he'
  exact ⟨quantize_cents hequal hprice ▸ hk, quantize_cents hequal' hcnyPrice⟩

theorem PriceCache.get_attributes (cached : PriceCache) :
    Json.get cached.attributes "price" = floatOf ⟨cached.price, -2⟩ ∧
      Json.get cached.attributes "cny_price" = floatOf ⟨cached.cnyPrice, -2⟩ := by
  have hnodup : ["price", "currency", "cny_price"].Nodup := by decide
  exact ⟨Json.get_display hnodup (by simp), Json.get_display hnodup (by simp)⟩

theorem PriceCache.get_payload (cached : PriceCache) (isStale : Bool) :
    Json.get (cached.payload isStale) "price" = floatOf ⟨cached.price, -2⟩ ∧
      Json.get (cached.payload isStale) "cny_price" = floatOf ⟨cached.cnyPrice, -2⟩ := by
  have hnodup : ["code", "name", "price", "currency", "cny_price", "change", "change_pct", "exchange_rate",
    "source", "expires_at", "is_from_cache", "is_stale"].Nodup := by decide
  exact ⟨Json.get_display hnodup (by simp), Json.get_display hnodup (by simp)⟩

/-- The price in yuan a provider gives, in cents. -/
def unitCents (quote : ProviderQuote) : Int := roundHalfUp (quote.price * quote.rate * 100)

/-- What reaches the valuation holds the cents of what the provider gave. -/
theorem Carried.inCents {raw : Members} {quote : ProviderQuote} (hgives : Gives raw quote) {payload : Payload}
    (h : Carried rt raw payload) : InCents payload.fields (unitCents quote) := by
  induction h with
  | normalized hnormalize =>
    obtain ⟨⟨-, k, -, -, hpos, hprice⟩, hcny⟩ := normalize_ok hnormalize
    obtain ⟨d, hd, hvalue⟩ := hgives.cnyPrice
    obtain ⟨c, hc, hcpos, hget⟩ := hcny d hd
    have hcents : c = unitCents quote := by
      rw [quantize_eq hc, hvalue, unitCents]
      norm_num
    rw [hcents] at hcpos hget
    exact ⟨⟨k, hpos, hasCents_of_get hprice⟩, hcpos, hasCents_of_get hget⟩
  | again _ hnormalize ih => exact ih.normalize hnormalize
  | labelled value _ hkey ih =>
    obtain ⟨k, hk, hprice⟩ := ih.price
    refine ⟨⟨k, hk, hasCents_congr (get_setItem_of_ne ?_ _ _) hprice⟩, ih.positive,
      hasCents_congr (get_setItem_of_ne ?_ _ _) ih.cnyPrice⟩
    · rintro rfl
      exact hkey (by decide)
    · rintro rfl
      exact hkey (by decide)
  | @stored code expiresAt quote cached _ hstored ih =>
    obtain ⟨hpos, hcny⟩ := ih.cached hstored
    obtain ⟨hprice, hcnyPrice⟩ := cached.get_attributes
    rw [hcny] at hcnyPrice
    exact ⟨⟨_, hpos, hasCents_of_get hprice⟩, ih.positive, hasCents_of_get hcnyPrice⟩
  | @read now code expiresAt quote next cached isStale _ hstored hread ih =>
    obtain ⟨hpos, hcny⟩ := ih.cached hstored
    obtain ⟨hprice, hcnyPrice⟩ := cached.get_payload isStale
    rw [hcny] at hcnyPrice
    have hpayload : InCents (cached.payload isStale) _ :=
      ⟨⟨_, hpos, hasCents_of_get hprice⟩, ih.positive, hasCents_of_get hcnyPrice⟩
    exact hpayload.normalize hread

theorem get_fixedPayload (code name currency marketType : String) (rate : Decimal) :
    Json.get (fixedPayload code name currency marketType rate) "price" = floatOf ⟨1, 0⟩ ∧
      Json.get (fixedPayload code name currency marketType rate) "cny_price" = floatOf rate ∧
      Json.get (fixedPayload code name currency marketType rate) "exchange_rate" = floatOf rate := by
  have hnodup : ["code", "name", "price", "currency", "cny_price", "exchange_rate", "market_type",
    "source"].Nodup := by decide
  exact ⟨Json.get_display hnodup (by simp), Json.get_display hnodup (by simp), Json.get_display hnodup (by simp)⟩

theorem hasNumber_of_get {fields : Members} {key : String} {x : Decimal} (h : Json.get fields key = floatOf x) :
    HasNumber fields key x.value := by
  refine ⟨x.expanded, by rw [h, decimalOf_floatOf], ?_⟩
  unfold expanded
  split
  next hexp =>
    rw [value_eq (x := x) hexp]
    simp [value]
  next => rfl

/-- The fixed quotes are those of a provider whose price is 1. -/
theorem gives_fixedPayload (code name currency marketType : String) (rate : Decimal) :
    Gives (fixedPayload code name currency marketType rate) ⟨1, rate.value⟩ := by
  obtain ⟨hprice, hcny, hrate⟩ := get_fixedPayload code name currency marketType rate
  have hone : (⟨1, 0⟩ : Decimal).value = 1 := by simp [value]
  constructor
  · exact hone ▸ hasNumber_of_get hprice
  · rw [one_mul]
    exact hasNumber_of_get hcny
  · exact .inr (hasNumber_of_get hrate)

/-- So are the quotes of cash, of money market funds and of crypto values. -/
theorem carried_fixed {now : Codes} {code : String} {rates : Items String Decimal} {quote : Members}
    (h : getCashPriceWithRates rt now code rates = .ok quote ∨ getMmfPriceWithRates rt now code rates = .ok quote ∨
      getCryptoValuePriceWithRates rt now code rates = .ok quote) :
    ∃ raw currency rate, rateForCurrency currency rates = .ok rate ∧ Gives raw ⟨1, rate.value⟩ ∧
      Carried rt raw ⟨true, quote⟩ := by
  have hcash : ∀ {quote}, getCashPriceWithRates rt now code rates = .ok quote → ∃ raw currency rate,
      rateForCurrency currency rates = .ok rate ∧ Gives raw ⟨1, rate.value⟩ ∧ Carried rt raw ⟨true, quote⟩ := by
    intro quote h
    unfold getCashPriceWithRates at h
    obtain ⟨rate, hrate, h⟩ := except_bind_ok h
    exact ⟨_, _, rate, hrate, gives_fixedPayload _ _ _ _ _, .normalized h⟩
  rcases h with h | h | h
  · exact hcash h
  · unfold getMmfPriceWithRates at h
    obtain ⟨payload, hpayload, h⟩ := except_bind_ok h
    obtain ⟨raw, currency, rate, hrate, hgives, hcarried⟩ := hcash hpayload
    exact ⟨raw, currency, rate, hrate, hgives,
      .again (.labelled _ (.labelled _ hcarried (by decide)) (by decide)) h⟩
  · unfold getCryptoValuePriceWithRates at h
    obtain ⟨rate, hrate, h⟩ := except_bind_ok h
    exact ⟨_, _, rate, hrate, gives_fixedPayload _ _ _ _ _, .normalized h⟩

/-! ## Market values -/

/-- A quote in cents gives its prices. -/
theorem InCents.quoted {payload : Payload} {c : Int} (h : InCents payload.fields c) (currency : String) :
    ∃ price cnyPrice, quotedPrices payload currency = some (price, cnyPrice) ∧
      cnyPrice.equal ⟨c, -2⟩ = true := by
  obtain ⟨k, hk, price, hprice, hequal⟩ := h.price
  obtain ⟨cnyPrice, hcny, hequal'⟩ := h.cnyPrice
  have hpositive : positiveFiniteDecimal (Json.get payload.fields "price") = some price := by
    rw [positiveFiniteDecimal, hprice, Option.filter_eq_some_iff]
    exact ⟨rfl, decide_eq_true ((pos_of_equal hequal).mpr hk)⟩
  have hpositive' : positiveFiniteDecimal (Json.get payload.fields "cny_price") = some cnyPrice := by
    rw [positiveFiniteDecimal, hcny, Option.filter_eq_some_iff]
    exact ⟨rfl, decide_eq_true ((pos_of_equal hequal').mpr h.positive)⟩
  have htruthy : payload.truthy = true := by
    unfold Payload.truthy
    cases hfields : payload.fields with
    | nil =>
      rw [hfields] at hprice
      cases hprice
    | cons item items => simp
  refine ⟨price, cnyPrice, ?_, hequal'⟩
  have hpriceField : priceField payload "price" .none = Json.get payload.fields "price" := rfl
  have hcnyField : priceField payload "cny_price" .none = Json.get payload.fields "cny_price" := rfl
  unfold quotedPrices
  rw [if_pos htruthy, hpriceField, hcnyField, hpositive]
  generalize Json.get payload.fields "cny_price" = value at hcny hpositive' ⊢
  cases value with
  | word w => cases hcny
  | number literal =>
    simp only [hpositive']
    rfl
  | string s =>
    simp only [hpositive']
    rfl
  | array items => cases hcny
  | object members => cases hcny

/-- Where a holding's price comes from: a provider, or the unit price of cash and money market funds in yuan. -/
def Sourced (rt : PriceRuntime) (input : ValuationInput) (holding : HoldingInput) (quote : ProviderQuote) : Prop :=
  let payload := quoteOf rt (priceLookup rt input.prices) holding
  (∃ raw, Gives raw quote ∧ Carried rt raw payload) ∨
    (quotedPrices payload (currencyOf holding) = none ∧ currencyOf holding = "CNY" ∧
      (holding.assetType = .cash ∨ holding.assetType = .mmf) ∧ quote = ⟨1, 1⟩)

theorem Sourced.rowPrices {input : ValuationInput} {holding : HoldingInput} {quote : ProviderQuote}
    (h : Sourced rt input holding quote) : 0 < unitCents quote ∧
      ∃ price cnyPrice, rowPrices (quoteOf rt (priceLookup rt input.prices) holding) holding =
        some (price, cnyPrice) ∧ cnyPrice.equal ⟨unitCents quote, -2⟩ = true := by
  unfold Valuation.rowPrices
  rcases h with ⟨raw, hgives, hcarried⟩ | ⟨hnone, hcny, htype, hquote⟩
  · have hcents := hcarried.inCents hgives
    obtain ⟨price, cnyPrice, hquoted, hequal⟩ := hcents.quoted (currencyOf holding)
    rw [hquoted]
    exact ⟨hcents.positive, price, cnyPrice, rfl, hequal⟩
  · have hone : unitCents quote = 100 := by
      have hcast := roundHalfUp_intCast 100
      rw [hquote, unitCents]
      norm_num at hcast ⊢
      exact hcast
    rw [hnone, hone]
    simp only [hcny, htype, and_self, if_true]
    exact ⟨by decide, _, _, rfl, by decide⟩

/-- The market value of a row is the amount the cents of its unit price give. -/
theorem holdingRow_value {input : ValuationInput} {holding : HoldingInput} {quote : ProviderQuote}
    {row : NormalizedValuationRow} (hsourced : Sourced rt input holding quote)
    (h : holdingRow rt input.account (priceLookup rt input.prices) holding = .ok row) :
    ∃ q m, holding.quantity.quantize (-8) = some q ∧
      (mul ⟨q, -8⟩ ⟨unitCents quote, -2⟩).quantize (-2) = some m ∧ row.1.marketValueCny = some ⟨m, -2⟩ := by
  obtain ⟨-, price, cnyPrice, hprices, hequal⟩ := hsourced.rowPrices
  obtain ⟨q, marketValueCny, hq, -, hvalue, hrow⟩ := fromHolding_ok h
  rw [hprices, marketValueOf, quantize_mul_congr _ hequal] at hvalue
  cases hm : (mul ⟨q, -8⟩ ⟨unitCents quote, -2⟩).quantize (-2) with
  | none =>
    rw [hm] at hvalue
    cases hvalue
  | some m =>
    rw [hm] at hvalue
    refine ⟨q, m, hq, hm, ?_⟩
    rw [hrow, ← Except.ok.inj hvalue]
    rfl

/-- The amount in cents that the provider's numbers give. -/
def exactCents (holding : HoldingInput) (quote : ProviderQuote) : ℚ :=
  holding.quantity.value * quote.price * quote.rate * 100

/-- The amount in cents that the cents of the unit price give for the quantity at its precision. -/
def centsOfUnit (holding : HoldingInput) (quote : ProviderQuote) : ℚ :=
  (mul ⟨(holding.quantity.quantize (-8)).getD 0, -8⟩ ⟨unitCents quote, -2⟩).value * 100

/-- Few cents are lost: the amount of the unit price in cents stays in the band of half cents around the cents
beside the exact amount. -/
def FewLost (holding : HoldingInput) (quote : ProviderQuote) : Prop :=
  InBand |exactCents holding quote| |centsOfUnit holding quote|

instance {holding : HoldingInput} {quote : ProviderQuote} : Decidable (FewLost holding quote) :=
  inferInstanceAs (Decidable (InBand _ _))

/-- The two amounts have one sign. -/
theorem cents_sign {holding : HoldingInput} {quote : ProviderQuote} {q : Int}
    (hq : holding.quantity.quantize (-8) = some q) (hpos : 0 < unitCents quote) :
    (0 ≤ exactCents holding quote ∧ 0 ≤ centsOfUnit holding quote) ∨
      (exactCents holding quote ≤ 0 ∧ centsOfUnit holding quote ≤ 0) := by
  have hunit : 0 < quote.price * quote.rate := by
    by_contra hle
    have hnonpos : quote.price * quote.rate * 100 ≤ 0 := by linarith
    have hround := roundHalfUp_nonpos hnonpos
    unfold unitCents at hpos
    omega
  have hquantity := quantize_eq hq
  have hscale : (0 : ℚ) ≤ 10 ^ (-(-8) : Int) := by positivity
  have hexact : exactCents holding quote = holding.quantity.value * (quote.price * quote.rate * 100) := by
    unfold exactCents
    ring
  unfold centsOfUnit
  rw [hq, Option.getD_some, hexact]
  rcases le_total 0 holding.quantity.value with hnonneg | hnonpos
  · have hq0 : 0 ≤ q := by
      rw [hquantity]
      exact roundHalfUp_nonneg (mul_nonneg hnonneg hscale)
    have hcoefficient := (fix_sign ⟨q * unitCents quote, -8 + -2⟩).1 (mul_nonneg hq0 hpos.le)
    exact .inl ⟨mul_nonneg hnonneg (by linarith), mul_nonneg (value_nonneg.mpr hcoefficient) (by norm_num)⟩
  · have hq0 : q ≤ 0 := by
      rw [hquantity]
      exact roundHalfUp_nonpos (mul_nonpos_of_nonpos_of_nonneg hnonpos hscale)
    have hcoefficient := (fix_sign ⟨q * unitCents quote, -8 + -2⟩).2 (mul_nonpos_of_nonpos_of_nonneg hq0 hpos.le)
    exact .inr ⟨mul_nonpos_of_nonpos_of_nonneg hnonpos (by linarith),
      mul_nonpos_of_nonpos_of_nonneg (value_nonpos.mpr hcoefficient) (by norm_num)⟩

/-- A row's market value is at most a cent from the exact amount when few cents are lost, and only then. -/
theorem value_accurate_iff {input : ValuationInput} {holding : HoldingInput} {quote : ProviderQuote}
    {row : NormalizedValuationRow} (hsourced : Sourced rt input holding quote)
    (h : holdingRow rt input.account (priceLookup rt input.prices) holding = .ok row) :
    (∃ v, row.1.marketValueCny = some v ∧
      |v.value - holding.quantity.value * quote.price * quote.rate| ≤ 1 / 100) ↔ FewLost holding quote := by
  obtain ⟨q, m, hq, hm, hrow⟩ := holdingRow_value hsourced h
  have hround : m = roundHalfUp (centsOfUnit holding quote) := by
    rw [quantize_eq hm, centsOfUnit, hq, Option.getD_some]
    norm_num
  have hcents : (⟨m, -2⟩ : Decimal).value - holding.quantity.value * quote.price * quote.rate =
      ((m : ℚ) - exactCents holding quote) / 100 := by
    have hvalue : (⟨m, -2⟩ : Decimal).value = m / 100 := by
      unfold value
      norm_num
      ring
    rw [hvalue, exactCents]
    ring
  have hscaled : |(⟨m, -2⟩ : Decimal).value - holding.quantity.value * quote.price * quote.rate| ≤ 1 / 100 ↔
      |(m : ℚ) - exactCents holding quote| ≤ 1 := by
    rw [hcents, abs_div, abs_of_pos (by norm_num : (0 : ℚ) < 100),
      div_le_div_iff_of_pos_right (by norm_num : (0 : ℚ) < 100)]
  unfold FewLost
  rw [← abs_roundHalfUp_sub_le_one (cents_sign hq hsourced.rowPrices.1), ← hround, ← hscaled]
  constructor
  · rintro ⟨v, hv, hle⟩
    rw [hrow] at hv
    rwa [Option.some.inj hv]
  · exact fun hle => ⟨_, hrow, hle⟩

/-! ## Valuations -/

/-- Each row is at most a cent from what the provider's numbers give, and the total is the sum of the rows. -/
structure Accurate (rt : PriceRuntime) (input : ValuationInput) (provided : HoldingInput → ProviderQuote)
    (snapshot : SnapshotFields) : Prop where
  rows : ∀ holding ∈ input.holdings, NonZero holding → ∃ row ∈ snapshot.rows,
    holdingRow rt input.account (priceLookup rt input.prices) holding = .ok row ∧
      ∃ v, row.1.marketValueCny = some v ∧
        |v.value - holding.quantity.value * (provided holding).price * (provided holding).rate| ≤ 1 / 100
  total : snapshot.totalValue = (snapshot.rows.map fun row => row.1.amount).sum

theorem valuation_accurate_iff {input : ValuationInput} {batch : Option Members}
    {snapshot : NormalizedValuationSnapshot} {provided : HoldingInput → ProviderQuote}
    (h : calculateNormalizedValuation rt input batch = .ok snapshot)
    (hsourced : ∀ holding ∈ input.holdings, NonZero holding → Sourced rt input holding (provided holding)) :
    Accurate rt input provided snapshot.1 ↔
      ∀ holding ∈ input.holdings, NonZero holding → FewLost holding (provided holding) := by
  obtain ⟨-, hforth, hcomponents, -⟩ := calculate_rows h
  constructor
  · intro haccurate holding hmem hnonzero
    obtain ⟨row, -, hrow, hvalue⟩ := haccurate.rows holding hmem hnonzero
    exact (value_accurate_iff (hsourced holding hmem hnonzero) hrow).mp hvalue
  · intro hfew
    refine ⟨fun holding hmem hnonzero => ?_, SnapshotFields.totalValue_eq _ hcomponents⟩
    obtain ⟨row, hmem', hrow⟩ := hforth holding hmem hnonzero
    exact ⟨row, hmem', hrow,
      (value_accurate_iff (hsourced holding hmem hnonzero) hrow).mpr (hfew holding hmem hnonzero)⟩

end

/-! ## A fund -/

theorem ok_getD {ε α : Type} {x : Except ε α} (d : α) (h : x.isOk = true) : x = .ok (x.toOption.getD d) := by
  cases x with
  | error e => cases h
  | ok a => rfl

/-- The payload of a fund's net value, 1.2345. -/
def navRaw : Members :=
  Json.display [("price", .number (codes "1.2345")), ("cny_price", .number (codes "1.2345")),
    ("currency", .text "CNY"), ("source", .text "tencent_jj")]

/-- The payload, normalized. -/
def navQuote : Members := (normalizePricePayload priceRuntime [] navRaw).toOption.getD []

/-- What its provider says. -/
def navGiven : ProviderQuote := ⟨12345 / 10000, 1⟩

/-- Units of the fund. -/
def fundUnits (units : Int) : HoldingInput :=
  { oneShare with assetId := "000001", assetType := .otcFund, quantity := ⟨units, 0⟩, currency := "CNY" }

/-- A valuation of them. -/
def fundInput (units : Int) : ValuationInput :=
  { oneQuote "000001" 0 with
    holdings := [fundUnits units]
    prices := ⟨[("000001", ⟨true, navQuote⟩)], single_nodup _ _⟩ }

theorem nav_sourced (units : Int) :
    ∀ holding ∈ (fundInput units).holdings, NonZero holding → Sourced priceRuntime (fundInput units) holding navGiven := by
  intro holding hmem _
  cases List.mem_singleton.mp hmem
  have hnumber : decimalOf (.number (codes "1.2345")) = some ⟨12345, -4⟩ := by decide +kernel
  have hvalue : (⟨12345, -4⟩ : Decimal).value = 12345 / 10000 := by
    unfold value
    norm_num
  have hquote : quoteOf priceRuntime (priceLookup priceRuntime (fundInput units).prices) (fundUnits units) =
      ⟨true, navQuote⟩ := by rfl
  refine .inl ⟨navRaw, ⟨⟨_, hnumber, hvalue⟩, ⟨_, hnumber, ?_⟩, .inl rfl⟩, ?_⟩
  · rw [hvalue, navGiven, mul_one]
  · rw [hquote]
    exact .normalized (ok_getD [] (by decide +kernel))

theorem fund_valued (units : Int) (h : units = 1 ∨ units = 100000) :
    ∃ snapshot, calculateNormalizedValuation priceRuntime (fundInput units) none = .ok snapshot := by
  refine exists_ok_of_isOk ?_
  rcases h with rfl | rfl <;> decide +kernel

theorem fund_nonZero (units : Int) (h : units = 1 ∨ units = 100000) : NonZero (fundUnits units) := by
  rcases h with rfl | rfl
  · exact ⟨100000000, by decide +kernel, by decide⟩
  · exact ⟨10000000000000, by decide +kernel, by decide⟩

end PortfolioManagement.Valuation
