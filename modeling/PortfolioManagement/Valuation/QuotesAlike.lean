import PortfolioManagement.Valuation.Evidence
import PortfolioManagement.Valuation.Quality

/-!
# Quotes of the valuation and of its evidence

The rows of a valuation are those of its holdings, in some order. What a holding's row says of its price is
what its quote gives; what the evidence says of it is what lies under exactly its code.
-/

namespace PortfolioManagement.Valuation

open Snapshots

section
variable {rt : PriceRuntime}

/-! ## The rows -/

/-- The row of a holding, priced from its quote. -/
structure RowOf (rt : PriceRuntime) (lookup : Items String Payload) (holding : HoldingInput) (row : RowFields) :
    Prop where
  assetId : row.assetId = strip holding.assetId
  assetType : row.assetType = holding.assetType.value
  currency : row.currency = upper (strip holding.currency)
  price : row.price = (rowPrices (quoteOf rt lookup holding) holding).map Prod.fst
  quantity : row.quantity.coefficient ≠ 0

/-- The quantity of a holding is not zero at its precision. -/
def NonZero (holding : HoldingInput) : Prop := ∃ c, holding.quantity.quantize (-8) = some c ∧ c ≠ 0

theorem RowFields.checked_ok {fields : RowFields} {row : NormalizedValuationRow}
    (h : fields.checked = .ok row) : row.1 = fields := by
  unfold RowFields.checked at h
  split_ifs at h with hvalid
  rw [← Except.ok.inj h]

theorem SnapshotFields.checked_ok {fields : SnapshotFields} {snapshot : NormalizedValuationSnapshot}
    (h : fields.checked = .ok snapshot) : snapshot.1 = fields := by
  unfold SnapshotFields.checked at h
  split_ifs at h with hvalid
  rw [← Except.ok.inj h]

/-- What a holding is made a row of. -/
theorem fromHolding_ok {holding : HoldingInput} {account normalizedType source : String}
    {prices : Option (Decimal × Decimal)} {row : NormalizedValuationRow}
    (h : fromHolding holding account normalizedType prices source = .ok row) :
    ∃ quantity marketValueCny, holding.quantity.quantize (-8) = some quantity ∧ quantity ≠ 0 ∧
      marketValueOf quantity prices = .ok marketValueCny ∧
      row.1 = rowFields holding account normalizedType quantity prices marketValueCny source := by
  unfold fromHolding at h
  obtain ⟨haccount, h⟩ := except_guard_ok h
  rw [not_or, not_or, not_not] at haccount
  rw [haccount.2.1] at h
  cases hquantity : holding.quantity.quantize (-8) with
  | none =>
    rw [hquantity] at h
    cases h
  | some quantity =>
    rw [hquantity] at h
    obtain ⟨hzero, h⟩ := except_guard_ok h
    obtain ⟨marketValueCny, hvalue, h⟩ := except_bind_ok h
    exact ⟨quantity, marketValueCny, rfl, hzero, hvalue, RowFields.checked_ok h⟩

/-- The row the loop makes of a holding. -/
def holdingRow (rt : PriceRuntime) (account : String) (lookup : Items String Payload) (holding : HoldingInput) :
    Except EvidenceError NormalizedValuationRow :=
  let payload := quoteOf rt lookup holding
  let prices := rowPrices payload holding
  fromHolding holding account (normalizeAssetType holding.assetType holding.assetId) prices
    (rowSource rt payload prices)

theorem RowOf.of_holdingRow {account : String} {lookup : Items String Payload} {holding : HoldingInput}
    {row : NormalizedValuationRow} (h : holdingRow rt account lookup holding = .ok row) :
    RowOf rt lookup holding row.1 := by
  obtain ⟨c, marketValueCny, -, hc, -, heq⟩ := fromHolding_ok h
  rw [heq]
  exact ⟨rfl, rfl, rfl, rfl, hc⟩

/-- The loop's body adds the row of a holding that is not zero, and nothing else. -/
theorem priceHolding_ok {account : String} {lookup : Items String Payload} {progress progress' : Progress}
    {holding : HoldingInput} (h : priceHolding rt account lookup progress holding = .ok progress') :
    (¬ NonZero holding ∧ progress'.rows = progress.rows) ∨
      (NonZero holding ∧ ∃ row, holdingRow rt account lookup holding = .ok row ∧
        progress'.rows = progress.rows ++ [row]) := by
  unfold priceHolding at h
  cases hquantity : holding.quantity.quantize (-8) with
  | none =>
    rw [hquantity] at h
    cases h
  | some quantity =>
    rw [hquantity] at h
    simp only at h
    by_cases hzero : quantity = 0
    · rw [if_pos hzero] at h
      cases h
      refine .inl ⟨?_, rfl⟩
      rintro ⟨c, hc, hne⟩
      rw [hquantity] at hc
      exact hne (Option.some.inj hc ▸ hzero)
    · rw [if_neg hzero] at h
      obtain ⟨row, hrow, h⟩ := except_bind_ok h
      cases h
      exact .inr ⟨⟨quantity, hquantity, hzero⟩, row, hrow, rfl⟩

/-- The rows of the loop are those of the holdings that are not zero. -/
theorem foldlM_rows {account : String} {lookup : Items String Payload} {holdings : List HoldingInput} :
    ∀ {progress progress' : Progress},
      holdings.foldlM (priceHolding rt account lookup) progress = .ok progress' →
      ∃ rows, progress'.rows = progress.rows ++ rows ∧
        (∀ row ∈ rows, ∃ holding ∈ holdings, NonZero holding ∧
          holdingRow rt account lookup holding = .ok row) ∧
        ∀ holding ∈ holdings, NonZero holding → ∃ row ∈ rows, holdingRow rt account lookup holding = .ok row := by
  induction holdings with
  | nil =>
    intro progress progress' h
    cases h
    exact ⟨[], (List.append_nil _).symm, fun _ h => absurd h List.not_mem_nil,
      fun _ h => absurd h List.not_mem_nil⟩
  | cons holding holdings ih =>
    intro progress progress' h
    rw [List.foldlM_cons] at h
    obtain ⟨middle, hstep, hrest⟩ := except_bind_ok h
    obtain ⟨rows, hrows, hback, hforth⟩ := ih hrest
    rcases priceHolding_ok hstep with ⟨hzero, hsame⟩ | ⟨hnonzero, row, hrow, hadded⟩
    · refine ⟨rows, hsame ▸ hrows, fun row hrow => ?_, fun h hmem hnonzero => ?_⟩
      · obtain ⟨h, hmem, hof⟩ := hback row hrow
        exact ⟨h, List.mem_cons_of_mem _ hmem, hof⟩
      · rcases List.mem_cons.mp hmem with rfl | hmem
        · exact absurd hnonzero hzero
        · exact hforth h hmem hnonzero
    · refine ⟨row :: rows, ?_, fun row' hrow' => ?_, fun h hmem hnonzero' => ?_⟩
      · rw [hrows, hadded, List.append_assoc]
        rfl
      · rcases List.mem_cons.mp hrow' with rfl | hrow'
        · exact ⟨holding, List.mem_cons_self, hnonzero, hrow⟩
        · obtain ⟨h, hmem, hof⟩ := hback row' hrow'
          exact ⟨h, List.mem_cons_of_mem _ hmem, hof⟩
      · rcases List.mem_cons.mp hmem with rfl | hmem
        · exact ⟨row, List.mem_cons_self, hrow⟩
        · obtain ⟨row', hrow', hof⟩ := hforth h hmem hnonzero'
          exact ⟨row', List.mem_cons_of_mem _ hrow', hof⟩

theorem mem_sortRows {rows : List NormalizedValuationRow} {row : NormalizedValuationRow} :
    row ∈ sortRows rows ↔ row ∈ rows := List.mem_mergeSort

/-- The fields of what is assembled. -/
theorem assemble_fields {input : ValuationInput} {parts : Parts} {snapshot : NormalizedValuationSnapshot}
    (h : assemble rt input parts = .ok snapshot) :
    ∃ shares, normalizedShares input.shares = .ok shares ∧ snapshot.1 = snapshotFields rt input parts shares := by
  unfold assemble at h
  obtain ⟨shares, hshares, h⟩ := except_bind_ok h
  obtain ⟨-, h⟩ := except_guard_ok h
  exact ⟨shares, hshares, SnapshotFields.checked_ok h⟩

theorem assemble_ok {input : ValuationInput} {parts : Parts} {snapshot : NormalizedValuationSnapshot}
    (h : assemble rt input parts = .ok snapshot) :
    snapshot.1.rows = sortRows parts.rows ∧ snapshot.1.components = [] ∧
      snapshot.1.priceEvidence = .object parts.evidence := by
  obtain ⟨shares, -, heq⟩ := assemble_fields h
  rw [heq]
  exact ⟨rfl, rfl, rfl⟩

/-- The prices that reach the evidence: none, when neither holdings nor supplemental codes are there. -/
def usedEvidence (input : ValuationInput) : Members :=
  if input.holdings = [] ∧ input.supplemental = [] then [] else priceEvidence input.prices

/-- A valuation's rows are what the loop makes of its holdings that are not zero. -/
theorem calculate_rows {input : ValuationInput} {batch : Option Members} {snapshot : NormalizedValuationSnapshot}
    (h : calculateNormalizedValuation rt input batch = .ok snapshot) :
    (∀ row ∈ snapshot.1.rows, ∃ holding ∈ input.holdings, NonZero holding ∧
      holdingRow rt input.account (priceLookup rt input.prices) holding = .ok row) ∧
    (∀ holding ∈ input.holdings, NonZero holding → ∃ row ∈ snapshot.1.rows,
      holdingRow rt input.account (priceLookup rt input.prices) holding = .ok row) ∧
    snapshot.1.components = [] ∧ snapshot.1.priceEvidence = .object (usedEvidence input) := by
  unfold calculateNormalizedValuation at h
  unfold usedEvidence
  split_ifs at h ⊢ with hempty
  · obtain ⟨hrows, hcomponents, hevidence⟩ := assemble_ok h
    refine ⟨fun row hrow => ?_, fun holding hmem => ?_, hcomponents, hevidence⟩
    · rw [hrows, mem_sortRows] at hrow
      exact absurd hrow List.not_mem_nil
    · rw [hempty.1] at hmem
      exact absurd hmem List.not_mem_nil
  · obtain ⟨progress, hprogress, h⟩ := except_bind_ok h
    obtain ⟨hrows, hcomponents, hevidence⟩ := assemble_ok h
    obtain ⟨rows, hsplit, hback, hforth⟩ := foldlM_rows hprogress
    rw [List.nil_append] at hsplit
    refine ⟨fun row hrow => ?_, fun holding hmem hnonzero => ?_, hcomponents, hevidence⟩
    · rw [hrows, mem_sortRows] at hrow
      exact hback row (hsplit ▸ hrow)
    · obtain ⟨row, hrow, hof⟩ := hforth holding hmem hnonzero
      refine ⟨row, ?_, hof⟩
      rw [hrows, mem_sortRows, hsplit]
      exact hrow

/-- The rows of a valuation are those of its holdings that are not zero. -/
theorem calculate_ok {input : ValuationInput} {batch : Option Members} {snapshot : NormalizedValuationSnapshot}
    (h : calculateNormalizedValuation rt input batch = .ok snapshot) :
    (∀ row ∈ snapshot.1.rows, ∃ holding ∈ input.holdings, NonZero holding ∧
      RowOf rt (priceLookup rt input.prices) holding row.1) ∧
    (∀ holding ∈ input.holdings, NonZero holding → ∃ row ∈ snapshot.1.rows,
      RowOf rt (priceLookup rt input.prices) holding row.1) ∧
    snapshot.1.priceEvidence = .object (usedEvidence input) := by
  obtain ⟨hback, hforth, -, hevidence⟩ := calculate_rows h
  refine ⟨fun row hrow => ?_, fun holding hmem hnonzero => ?_, hevidence⟩
  · obtain ⟨holding, hmem, hnonzero, hof⟩ := hback row hrow
    exact ⟨holding, hmem, hnonzero, .of_holdingRow hof⟩
  · obtain ⟨row, hrow, hof⟩ := hforth holding hmem hnonzero
    exact ⟨row, hrow, .of_holdingRow hof⟩

/-! ## The quotes -/

/-- A holding needs a market quote: it is not cash or a money market fund in yuan. -/
def NeedsQuote (holding : HoldingInput) : Prop :=
  ¬ ((holding.assetType = .cash ∨ holding.assetType = .mmf) ∧ upper (strip holding.currency) = "CNY")

theorem upper_assetType (t : AssetType) :
    (upper t.value = "CASH" ↔ t = .cash) ∧ (upper t.value = "MMF" ↔ t = .mmf) := by
  cases t <;> decide

/-- The evidence asks for a quote of the rows whose holdings need one. -/
theorem RowOf.requires_iff {lookup : Items String Payload} {holding : HoldingInput} {row : RowFields}
    (h : RowOf rt lookup holding row) : requiresMarketQuote row = true ↔ NeedsQuote holding := by
  have hcash := (upper_assetType holding.assetType).1
  have hmmf := (upper_assetType holding.assetType).2
  unfold requiresMarketQuote NeedsQuote
  rw [h.assetType, h.currency, upper_upper, Bool.not_eq_true', ← Bool.not_eq_true, Bool.and_eq_true_iff,
    Bool.or_eq_true_iff, decide_eq_true_eq, decide_eq_true_eq, decide_eq_true_eq, hcash, hmmf]

/-- The valuation takes the prices of a holding's row from its quote. -/
def Quoted (rt : PriceRuntime) (input : ValuationInput) (holding : HoldingInput) : Prop :=
  (quotedPrices (quoteOf rt (priceLookup rt input.prices) holding) (currencyOf holding)).isSome = true

/-- It is not marked as stale. -/
def NotStale (rt : PriceRuntime) (input : ValuationInput) (holding : HoldingInput) : Prop :=
  let payload := quoteOf rt (priceLookup rt input.prices) holding
  payload.isDict = true → staleFields payload.fields = false

/-- The holding was valued with a present quote that is not stale. -/
def FreshlyQuoted (rt : PriceRuntime) (input : ValuationInput) (holding : HoldingInput) : Prop :=
  Quoted rt input holding ∧ NotStale rt input holding

/-- The row of a holding has a price. -/
def Priced (rt : PriceRuntime) (input : ValuationInput) (holding : HoldingInput) : Prop :=
  (rowPrices (quoteOf rt (priceLookup rt input.prices) holding) holding).isSome = true

/-- A holding that needs a quote has a price only from it. -/
theorem Priced.quoted {input : ValuationInput} {holding : HoldingInput} (h : Priced rt input holding)
    (hneeds : NeedsQuote holding) : Quoted rt input holding := by
  unfold Priced rowPrices at h
  unfold Quoted
  cases hquoted : quotedPrices (quoteOf rt (priceLookup rt input.prices) holding) (currencyOf holding) with
  | some prices => rfl
  | none =>
    rw [hquoted] at h
    simp only at h
    split_ifs at h with hunit
    · -- a currency that is CNY in upper case has no blanks
      have hcny : upper holding.currency = "CNY" := hunit.1
      have hstrip : strip holding.currency = holding.currency := strip_of_upper (by rw [hcny]; simp [isSpace])
      exact absurd ⟨hunit.2, hstrip.symm ▸ hcny⟩ hneeds
    · cases h

/-- A quote that gives prices is one of the price map. -/
theorem quoteOf_mem {prices : PriceMap} {holding : HoldingInput}
    (h : (quoteOf rt (priceLookup rt prices) holding).truthy = true) :
    ∃ item ∈ prices.items, item.2 = quoteOf rt (priceLookup rt prices) holding := by
  -- the lookup holds quotes of the map only
  have hset : ∀ {lookup : Items String Payload} {key : String} {payload : Payload},
      ∀ entry ∈ setdefault key payload lookup, entry ∈ lookup ∨ entry = (key, payload) := by
    intro lookup key payload entry hentry
    unfold setdefault at hentry
    split_ifs at hentry with hkey
    · exact .inl hentry
    · rcases List.mem_append.mp hentry with hold | hnew
      · exact .inl hold
      · exact .inr (List.mem_singleton.mp hnew)
  have hlookup : ∀ entry ∈ priceLookup rt prices, ∃ item ∈ prices.items, item.2 = entry.2 := by
    unfold priceLookup
    refine List.foldlRecOn (motive := fun lookup : Items String Payload =>
      ∀ entry ∈ lookup, ∃ item ∈ prices.items, item.2 = entry.2) prices.items _ ?_ ?_
    · exact fun entry hentry => ⟨entry, hentry, rfl⟩
    · intro lookup hkeeps item hitem entry hentry
      split_ifs at hentry with hblank
      · exact hkeeps entry hentry
      · rcases hset entry hentry with hold | rfl
        · rcases hset entry hold with hold | rfl
          · exact hkeeps entry hold
          · exact ⟨item, hitem, rfl⟩
        · exact ⟨item, hitem, rfl⟩
  unfold quoteOf at h ⊢
  simp only at h ⊢
  cases hfound : ([holding.assetId, upper (strip holding.assetId), normalizeCode rt (strip holding.assetId)].filterMap
      fun key => List.lookup key (priceLookup rt prices)).find? Payload.truthy with
  | none =>
    rw [hfound] at h
    cases h
  | some payload =>
    obtain ⟨key, -, hkey⟩ := List.mem_filterMap.mp (List.mem_of_find?_eq_some hfound)
    exact hlookup (key, payload) (Items.mem_of_lookup hkey)

/-- The evidence holds the quotes of the map that are dicts. -/
theorem mem_priceEvidence {prices : PriceMap} {code : String} {fields : Members} :
    (codes code, Json.object fields) ∈ priceEvidence prices ↔ (code, (⟨true, fields⟩ : Payload)) ∈ prices.items := by
  have hnodup : (((prices.items.filter fun item => item.2.isDict).map fun item =>
      (item.1, Json.object item.2.fields)).map Prod.fst).Nodup := by
    rw [List.map_map]
    exact prices.nodup.sublist (List.filter_sublist.map _)
  unfold priceEvidence
  constructor
  · intro h
    obtain ⟨item, hitem, heq⟩ := Json.mem_display h
    obtain ⟨⟨code', payload⟩, hmem, rfl⟩ := List.mem_map.mp hitem
    obtain ⟨hmem, hdict⟩ := List.mem_filter.mp hmem
    obtain ⟨hcode, hfields⟩ := Prod.mk.inj heq
    have hsame : payload = ⟨true, fields⟩ := by
      obtain ⟨isDict, fields'⟩ := payload
      have hdict' : isDict = true := hdict
      rw [hdict', Json.object.inj hfields]
    rw [codes_inj.mp hcode, ← hsame]
    exact hmem
  · intro h
    have hmem : (code, Json.object fields) ∈ (prices.items.filter fun item => item.2.isDict).map fun item =>
        (item.1, Json.object item.2.fields) :=
      List.mem_map.mpr ⟨_, List.mem_filter.mpr ⟨h, rfl⟩, rfl⟩
    exact mem_of_getItem (Json.getItem_display hnodup hmem)

/-- A holding that is not stale in the evidence is not in the valuation. -/
theorem notStale_of_noneStale {input : ValuationInput} {holding : HoldingInput} (hmem : holding ∈ input.holdings)
    (hquoted : Quoted rt input holding) (h : NoneStale (usedEvidence input)) : NotStale rt input holding := by
  intro hdict
  have htruthy : (quoteOf rt (priceLookup rt input.prices) holding).truthy = true := by
    unfold Quoted quotedPrices at hquoted
    by_contra hfalse
    rw [if_neg hfalse] at hquoted
    cases hquoted
  obtain ⟨⟨code, payload⟩, hitem, hsame⟩ := quoteOf_mem htruthy
  have hnonempty : ¬ (input.holdings = [] ∧ input.supplemental = []) := fun hempty =>
    List.not_mem_nil (hempty.1 ▸ hmem)
  unfold usedEvidence at h
  rw [if_neg hnonempty] at h
  refine h (codes code) _ (mem_priceEvidence.mpr ?_)
  rw [← hsame] at hdict ⊢
  have hpayload : payload = ⟨true, payload.fields⟩ := by
    obtain ⟨isDict, fields⟩ := payload
    have hdict' : isDict = true := hdict
    rw [hdict']
  rw [← hpayload]
  exact hitem

/-! ## Agreement -/

/-- What the quality evidence should say of the prices of a valuation. -/
structure QualityAgrees (rt : PriceRuntime) (input : ValuationInput) (snapshot : NormalizedValuationSnapshot)
    (evidence : QualityEvidence) : Prop where
  /-- prices are trusted when every holding that needs a quote was valued with one that is not stale -/
  trusted : evidence.pricesTrusted = true ↔ ∀ holding ∈ input.holdings, NonZero holding → NeedsQuote holding →
    FreshlyQuoted rt input holding
  /-- a row without a price is never trusted -/
  unpriced : ∀ row ∈ snapshot.1.rows, row.1.price = none → evidence.pricesTrusted = false
  /-- a row priced from a quote that is not stale is never missing -/
  found : ∀ holding ∈ input.holdings, NonZero holding → FreshlyQuoted rt input holding →
    codes (strip holding.assetId) ∉ evidence.missingCodes

/-- There is a dict with both prices under exactly the code of a holding. -/
def OwnQuote (input : ValuationInput) (holding : HoldingInput) : Prop :=
  HasQuote (usedEvidence input) (codes (strip holding.assetId))

/-- When the evidence and the valuation agree. -/
structure QuotesAlike (rt : PriceRuntime) (input : ValuationInput) : Prop where
  /-- a code that is needed, and priced from a quote that is not stale, has its own dict with both prices -/
  own : ∀ holding ∈ input.holdings, NonZero holding → FreshlyQuoted rt input holding →
    (∃ other ∈ input.holdings, NonZero other ∧ NeedsQuote other ∧ strip other.assetId = strip holding.assetId) →
    OwnQuote input holding
  /-- when no needed quote is stale, no other one of the map is -/
  others : (∀ holding ∈ input.holdings, NonZero holding → NeedsQuote holding → FreshlyQuoted rt input holding) →
    NoneStale (usedEvidence input)
  /-- when every needed code has its own dict and none is stale, these give positive prices, and cash and money
  market funds in yuan have theirs -/
  positive : (∀ holding ∈ input.holdings, NonZero holding → NeedsQuote holding → OwnQuote input holding) →
    NoneStale (usedEvidence input) → ∀ holding ∈ input.holdings, NonZero holding → Priced rt input holding

theorem mem_requiredCodes {input : ValuationInput} {batch : Option Members}
    {snapshot : NormalizedValuationSnapshot} (h : calculateNormalizedValuation rt input batch = .ok snapshot)
    {code : Codes} : code ∈ requiredCodes snapshot.1.rows ↔
      ∃ holding ∈ input.holdings, NonZero holding ∧ NeedsQuote holding ∧ codes (strip holding.assetId) = code := by
  obtain ⟨hback, hforth, -⟩ := calculate_ok h
  unfold requiredCodes
  rw [List.mem_map]
  constructor
  · rintro ⟨row, hrow, rfl⟩
    obtain ⟨hmem, hrequires⟩ := List.mem_filter.mp hrow
    obtain ⟨holding, hholding, hnonzero, hof⟩ := hback row hmem
    have hneeds := hof.requires_iff.mp (of_decide_eq_true hrequires).2
    exact ⟨holding, hholding, hnonzero, hneeds, by rw [hof.assetId]⟩
  · rintro ⟨holding, hholding, hnonzero, hneeds, rfl⟩
    obtain ⟨row, hrow, hof⟩ := hforth holding hholding hnonzero
    refine ⟨row, List.mem_filter.mpr ⟨hrow, decide_eq_true ⟨hof.quantity, hof.requires_iff.mpr hneeds⟩⟩, ?_⟩
    rw [hof.assetId]

/-- The evidence of a valuation agrees with it exactly under the condition. -/
theorem qualityAgrees_iff {input : ValuationInput} {batch : Option Members}
    {snapshot : NormalizedValuationSnapshot} (h : calculateNormalizedValuation rt input batch = .ok snapshot) :
    QualityAgrees rt input snapshot (valuationQualityEvidence rt snapshot.1.rows (usedEvidence input)) ↔
      QuotesAlike rt input := by
  obtain ⟨hback, hforth, -⟩ := calculate_ok h
  -- prices are trusted when every needed code has its own dict and none is stale
  have htrusted : (valuationQualityEvidence rt snapshot.1.rows (usedEvidence input)).pricesTrusted = true ↔
      (∀ holding ∈ input.holdings, NonZero holding → NeedsQuote holding → OwnQuote input holding) ∧
        NoneStale (usedEvidence input) := by
    rw [pricesTrusted_iff]
    refine and_congr_left fun _ => ⟨fun hall holding hmem hnonzero hneeds => ?_, fun hall code hcode => ?_⟩
    · exact hall _ ((mem_requiredCodes h).mpr ⟨holding, hmem, hnonzero, hneeds, rfl⟩)
    · obtain ⟨holding, hmem, hnonzero, hneeds, rfl⟩ := (mem_requiredCodes h).mp hcode
      exact hall holding hmem hnonzero hneeds
  constructor
  · intro hagrees
    refine ⟨fun holding hmem hnonzero hfresh hother => ?_, fun hall => ?_, fun howns hnone holding hmem hnonzero => ?_⟩
    · obtain ⟨other, hother, hnonzero', hneeds, hsame⟩ := hother
      by_contra hmissing
      refine hagrees.found holding hmem hnonzero hfresh (mem_missingCodes.mpr ⟨?_, hmissing⟩)
      exact (mem_requiredCodes h).mpr ⟨other, hother, hnonzero', hneeds, by rw [hsame]⟩
    · exact (htrusted.mp (hagrees.trusted.mpr hall)).2
    · obtain ⟨row, hrow, hof⟩ := hforth holding hmem hnonzero
      by_contra hunpriced
      have hnoPrice : row.1.price = none := by
        rw [hof.price, Option.not_isSome_iff_eq_none.mp hunpriced]
        rfl
      have hfalse := hagrees.unpriced row hrow hnoPrice
      rw [htrusted.mpr ⟨howns, hnone⟩] at hfalse
      cases hfalse
  · intro halike
    refine ⟨⟨fun htrue holding hmem hnonzero hneeds => ?_, fun hall => ?_⟩, fun row hrow hnoPrice => ?_,
      fun holding hmem hnonzero hfresh hmissing => ?_⟩
    · obtain ⟨howns, hnone⟩ := htrusted.mp htrue
      have hquoted := (halike.positive howns hnone holding hmem hnonzero).quoted hneeds
      exact ⟨hquoted, notStale_of_noneStale hmem hquoted hnone⟩
    · refine htrusted.mpr ⟨fun holding hmem hnonzero hneeds => ?_, halike.others hall⟩
      exact halike.own holding hmem hnonzero (hall holding hmem hnonzero hneeds)
        ⟨holding, hmem, hnonzero, hneeds, rfl⟩
    · obtain ⟨holding, hmem, hnonzero, hof⟩ := hback row hrow
      by_contra htrue
      obtain ⟨howns, hnone⟩ := htrusted.mp (Bool.not_eq_false _ ▸ htrue)
      obtain ⟨prices, hprices⟩ := Option.isSome_iff_exists.mp (halike.positive howns hnone holding hmem hnonzero)
      rw [hof.price, hprices] at hnoPrice
      cases hnoPrice
    · obtain ⟨hrequired, hnot⟩ := mem_missingCodes.mp hmissing
      obtain ⟨other, hother, hnonzero', hneeds, hsame⟩ := (mem_requiredCodes h).mp hrequired
      exact hnot (halike.own holding hmem hnonzero hfresh ⟨other, hother, hnonzero', hneeds, codes_inj.mp hsame⟩)

/-- `valuation_quality_evidence` of a valuation. -/
def qualityOf (rt : PriceRuntime) (snapshot : NormalizedValuationSnapshot) : QualityEvidence :=
  match snapshot.1.priceEvidence with
  | .object evidence => valuationQualityEvidence rt snapshot.1.rows evidence
  | _ => valuationQualityEvidence rt snapshot.1.rows []

theorem qualityOf_eq {input : ValuationInput} {batch : Option Members} {snapshot : NormalizedValuationSnapshot}
    (h : calculateNormalizedValuation rt input batch = .ok snapshot) :
    qualityOf rt snapshot = valuationQualityEvidence rt snapshot.1.rows (usedEvidence input) := by
  unfold qualityOf
  rw [(calculate_ok h).2.2]

end

/-! ## Concrete valuations -/

/-- A runtime for valuations without excluded holdings. -/
def priceRuntime : PriceRuntime where
  toEvidenceRuntime := { checksumRuntime with
    sha256 := fun _ => "4f53cda18c2baa0c0354bb5f9a3ecbe5ed12ab4d8e11ba873c2f11161202b945" }
  isDigit := Char.isDigit
  format v :=
    match v with
    | .string s => (textOf? s).getD ""
    | _ => ""
  nowText := []

/-- One share in dollars. -/
def oneShare : HoldingInput where
  recordId := some "rec1"
  assetId := "AAPL"
  assetName := "Apple"
  assetType := .usStock
  account := "main"
  broker := "futu"
  quantity := ⟨1, 0⟩
  avgCost := none
  currency := "USD"
  assetClass := none
  industry := none
  tag := []

/-- A quote in dollars. -/
def dollarQuote (price : Nat) : Payload :=
  ⟨true, Json.display [("price", .number (natLiteral price)), ("cny_price", .number (natLiteral (7 * price))),
    ("currency", .text "USD"), ("source", .text "tencent")]⟩

theorem single_nodup (code : String) (payload : Payload) :
    (([(code, payload)] : Items String Payload).map Prod.fst).Nodup := List.nodup_singleton _

/-- The share, with one quote under a code. -/
def oneQuote (code : String) (price : Nat) : ValuationInput where
  account := "main"
  holdings := [oneShare]
  supplemental := []
  prices := ⟨[(code, dollarQuote price)], single_nodup code _⟩
  priceWarnings := []
  shares := some ⟨100, -2⟩
  holdingsProvenance := []
  sourceProvenance := []

theorem oneQuote_valued (code : String) (price : Nat) (h : code = "AAPL" ∨ code = "aapl")
    (hprice : price = 0 ∨ price = 100) :
    ∃ snapshot, calculateNormalizedValuation priceRuntime (oneQuote code price) none = .ok snapshot := by
  refine exists_ok_of_isOk ?_
  rcases h with rfl | rfl <;> rcases hprice with rfl | rfl <;> decide +kernel

theorem oneShare_nonZero : NonZero oneShare := ⟨100000000, by decide +kernel, by decide⟩

theorem oneShare_needsQuote : NeedsQuote oneShare := fun h => by
  rcases h.1 with h | h <;> cases h

/-- The evidence of the only quote. -/
theorem oneQuote_evidence (code : String) (price : Nat) :
    usedEvidence (oneQuote code price) = [(codes code, .object (dollarQuote price).fields)] := rfl

theorem oneQuote_noneStale (code : String) {price : Nat} (hprice : price = 0 ∨ price = 100) :
    NoneStale (usedEvidence (oneQuote code price)) := by
  intro code' payload hmem
  rw [oneQuote_evidence] at hmem
  cases List.mem_singleton.mp hmem
  rcases hprice with rfl | rfl <;> decide +kernel

theorem oneQuote_ownQuote {price : Nat} (hprice : price = 0 ∨ price = 100) :
    OwnQuote (oneQuote "AAPL" price) oneShare := by
  have hstrip : strip oneShare.assetId = "AAPL" := by decide +kernel
  refine ⟨(dollarQuote price).fields, ?_, ?_, ?_⟩
  · rw [oneQuote_evidence, hstrip]
    exact List.mem_cons_self
  · rcases hprice with rfl | rfl <;> decide +kernel
  · rcases hprice with rfl | rfl <;> decide +kernel

end PortfolioManagement.Valuation
