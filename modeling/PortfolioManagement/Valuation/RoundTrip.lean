import PortfolioManagement.Valuation.Normalized

/-!
# Valuations that are rebuilt

A field that the canonical payload writes is read back as it was, and a number of at most 28 significant
digits as a number of its value and of the same text. So a row, a component and a valuation of such numbers
are rebuilt with the canonical payload they were read from.
-/

namespace PortfolioManagement.Valuation

open Snapshots

variable {rt : EvidenceRuntime}

/-! ## Fields -/

section
variable {members : Members} {name : String}

theorem encodedText_codes (s : String) : encodedText (codes s) = .ok s := by
  unfold encodedText
  rw [textOf?_codes]

theorem textField_eq {s : String} (h : Json.get members name = .text s) :
    textField rt members name = .ok s := by
  unfold textField
  rw [h, Json.strOrEmpty_text, encodedText_codes]

theorem textField_optional {s : Option String} (h : Json.get members name = .optionalText s) :
    textField rt members name = .ok (s.getD "") := by
  cases s with
  | none =>
    unfold textField
    rw [h]
    exact encodedText_codes ""
  | some s => exact textField_eq h

theorem optionalTextField_eq {s : Option String} (h : Json.get members name = .optionalText s) :
    optionalTextField rt members name = .ok s := by
  unfold optionalTextField
  rw [h]
  cases s with
  | none => rfl
  | some s =>
    show (encodedText (codes s)).map some = .ok (some s)
    rw [encodedText_codes]
    rfl

theorem textList_eq {l : List String} (h : Json.get members name = .array (l.map Json.text)) :
    textList rt members name = .ok l := by
  unfold textList
  rw [h, Json.iterated_array]
  refine mapM_ok_of_forall₂ (List.forall₂_map_left_iff.mpr (List.forall₂_same.mpr fun s _ => ?_))
  exact encodedText_codes s

theorem dictField_eq {inner : Members} (h : Json.get members name = .object inner) :
    dictField rt members name = .ok inner := by
  unfold dictField
  rw [h]
  cases inner <;> rfl

/-- Numbers of one value, or no numbers. -/
inductive SameNumber : Option Decimal → Option Decimal → Prop
  | none : SameNumber none none
  | some {x y : Decimal} (h : x.equal y = true) : SameNumber (some x) (some y)

theorem optionalNumber_eq {x : Option Decimal} {text : Option String} (hfits : ∀ d ∈ x, d.Fits)
    (hcanonical : canonicalOptional x = .ok text) (h : Json.get members name = .optionalText text) :
    ∃ read, optionalNumber members name = .ok read ∧ canonicalOptional read = .ok text ∧
      SameNumber read x := by
  unfold optionalNumber
  rw [h]
  cases x with
  | none =>
    cases hcanonical
    exact ⟨none, rfl, rfl, .none⟩
  | some x =>
    obtain ⟨t, ht, rfl⟩ := canonicalOptional_some_ok.mp hcanonical
    obtain ⟨read, hread, hequal, -, hagain⟩ := canonicalDecimal_read (hfits x rfl) ht
    refine ⟨some read, ?_, canonicalOptional_some_ok.mpr ⟨t, hagain, rfl⟩, .some hequal⟩
    rw [Json.text] at hread
    simp only [Json.optionalText, Option.elim_some, Json.text]
    rw [hread]

theorem quantizedNumber_eq {x : Decimal} {exponent c : Int} {text : String}
    (hquantize : x.quantize exponent = some c) (hequal : x.equal ⟨c, exponent⟩ = true)
    (hcanonical : canonicalDecimal x = .ok text) (h : Json.get members name = .text text) :
    quantizedNumber exponent members name = .ok ⟨c, exponent⟩ ∧
      canonicalDecimal ⟨c, exponent⟩ = .ok text := by
  have hshort : (⟨c, exponent⟩ : Decimal).Short := Decimal.natAbs_of_quantize hquantize
  have hfits : x.Fits := hshort.fits.congr hequal
  obtain ⟨read, hread, hsame, -, -⟩ := canonicalDecimal_read hfits hcanonical
  have hagain : read.quantize exponent = some c :=
    (Decimal.eq_of_equal (f := fun d => d.quantize exponent)
      (fun d k => Decimal.quantize_extended d k exponent) hsame).trans hquantize
  refine ⟨?_, (canonicalDecimal_congr hfits hequal).symm.trans hcanonical⟩
  unfold quantizedNumber
  rw [h, hread, Option.bind_some, hagain]

end

/-! ## Rows -/

/-- A row that its payload can carry: a stripped record id, and no number that is rounded. -/
structure RowFields.Carried (row : RowFields) : Prop where
  recordId : ∀ id ∈ row.recordId, ValidName id
  avgCost : ∀ x ∈ row.avgCost, x.Fits
  price : ∀ x ∈ row.price, x.Fits
  cnyPrice : ∀ x ∈ row.cnyPrice, x.Fits

namespace RowFields

variable {row row' : RowFields}

/-- The numbers of a row, quantized. -/
theorem valid_ok (h : row.valid = true) : ∃ c, row.quantity.quantize (-8) = some c ∧
    row.quantity.equal ⟨c, -8⟩ = true ∧ c ≠ 0 ∧ row.pricesOk ⟨c, -8⟩ = true ∧
    ∀ text ∈ [row.account, row.assetId, row.assetType, row.normalizedType, row.currency],
      strip text ≠ "" := by
  unfold valid at h
  cases hc : row.quantity.quantize (-8) with
  | none =>
    rw [hc] at h
    simp at h
  | some c =>
    rw [hc] at h
    simp only [Bool.and_eq_true, decide_eq_true_eq] at h
    exact ⟨c, rfl, h.2.1.1, h.2.1.2, h.2.2, h.1⟩

/-- A row of the same texts, with prices of the same values and the quantity quantized. -/
theorem valid_of_ok {c : Int} (hc : (⟨c, -8⟩ : Decimal).quantize (-8) = some c)
    (hquantity : row.quantity = ⟨c, -8⟩) (hne : c ≠ 0) (hprices : row.pricesOk ⟨c, -8⟩ = true)
    (htexts : ∀ text ∈ [row.account, row.assetId, row.assetType, row.normalizedType, row.currency],
      strip text ≠ "") : row.valid = true := by
  unfold valid
  rw [hquantity, hc]
  simp only [Bool.and_eq_true, decide_eq_true_eq]
  exact ⟨htexts, ⟨Decimal.equal_self _, hne⟩, hprices⟩

theorem pricesOk_congr (quantity : Decimal) (hprice : SameNumber row'.price row.price)
    (hcnyPrice : SameNumber row'.cnyPrice row.cnyPrice)
    (hmarketValue : SameNumber row'.marketValueCny row.marketValueCny) :
    row'.pricesOk quantity = row.pricesOk quantity := by
  unfold pricesOk
  generalize row'.price = p', row.price = p at hprice ⊢
  generalize row'.cnyPrice = c', row.cnyPrice = c at hcnyPrice ⊢
  generalize row'.marketValueCny = m', row.marketValueCny = m at hmarketValue ⊢
  cases hprice with
  | none => cases hcnyPrice <;> cases hmarketValue <;> rfl
  | some hp =>
    cases hcnyPrice with
    | none => cases hmarketValue <;> rfl
    | some hc =>
      cases hmarketValue with
      | none => rfl
      | @some v' v hm =>
        have hequal : ∀ z, v'.equal z = v.equal z := fun z => Bool.eq_iff_iff.mpr
          ⟨Decimal.equal_trans (Decimal.equal_symm hm), Decimal.equal_trans hm⟩
        simp only [Decimal.pos_of_equal hp, Decimal.pos_of_equal hc,
          Decimal.quantize_mul_congr quantity hc, hequal]

theorem canonicalPayload_ok {v : Json} (h : row.canonicalPayload = .ok v) :
    ∃ quantity avgCost price cnyPrice marketValueCny,
      canonicalDecimal row.quantity = .ok quantity ∧ canonicalOptional row.avgCost = .ok avgCost ∧
      canonicalOptional row.price = .ok price ∧ canonicalOptional row.cnyPrice = .ok cnyPrice ∧
      canonicalOptional row.marketValueCny = .ok marketValueCny ∧
      v = .object (Json.display (row.items quantity avgCost price cnyPrice marketValueCny)) := by
  unfold canonicalPayload at h
  obtain ⟨quantity, hquantity, h⟩ := except_bind_ok h
  obtain ⟨avgCost, havgCost, h⟩ := except_bind_ok h
  obtain ⟨price, hprice, h⟩ := except_bind_ok h
  obtain ⟨cnyPrice, hcnyPrice, h⟩ := except_bind_ok h
  obtain ⟨marketValueCny, hmarketValueCny, h⟩ := except_bind_ok h
  exact ⟨quantity, avgCost, price, cnyPrice, marketValueCny, hquantity, havgCost, hprice, hcnyPrice,
    hmarketValueCny, (Except.ok.inj h).symm⟩

theorem nodup_items (quantity : String) (avgCost price cnyPrice marketValueCny : Option String) :
    ((row.items quantity avgCost price cnyPrice marketValueCny).map Prod.fst).Nodup := by
  show (["record_id", "account", "asset_id", "asset_name", "asset_type", "normalized_type", "broker",
    "quantity", "avg_cost", "currency", "asset_class", "industry", "tags", "price", "cny_price",
    "market_value_cny", "source"] : List String).Nodup
  decide

/-- The market value of a valid row is at money precision. -/
theorem fits_marketValueCny (h : row.valid = true) : ∀ x ∈ row.marketValueCny, x.Fits := by
  obtain ⟨c, -, -, -, hprices, -⟩ := valid_ok h
  intro x hx
  unfold pricesOk at hprices
  rw [hx] at hprices
  cases hp : row.price <;> cases hc : row.cnyPrice <;> rw [hp, hc] at hprices <;> try cases hprices
  rename_i price cnyPrice
  simp only [Bool.and_eq_true] at hprices
  cases hexpected : ((⟨c, -8⟩ : Decimal).mul cnyPrice).quantize (-2) with
  | none =>
    rw [hexpected] at hprices
    cases hprices.2
  | some expected =>
    rw [hexpected] at hprices
    exact ⟨_, Decimal.natAbs_of_quantize hexpected, hprices.2⟩

end RowFields

/-- A record id is stripped when it is read. -/
theorem recordId_getD {recordId : Option String} (h : ∀ id ∈ recordId, ValidName id) :
    (if strip (recordId.getD "") = "" then none else some (strip (recordId.getD ""))) = recordId := by
  cases recordId with
  | none => rfl
  | some id =>
    have hname := h id rfl
    rw [Option.getD_some, hname.stripped, if_neg hname.ne_empty]

/-- A row is rebuilt from its payload. -/
theorem rebuildRow_eq {row : NormalizedValuationRow} (hcarried : row.1.Carried) {v : Json}
    (h : row.1.canonicalPayload = .ok v) :
    ∃ rebuilt : NormalizedValuationRow, rebuildRow rt v = .ok rebuilt ∧
      rebuilt.1.canonicalPayload = .ok v ∧ rebuilt.1.businessKey = row.1.businessKey := by
  obtain ⟨row, hvalid⟩ := row
  obtain ⟨quantity, avgCost, price, cnyPrice, marketValueCny, hquantity, havgCost, hprice, hcnyPrice,
    hmarketValueCny, rfl⟩ := RowFields.canonicalPayload_ok h
  obtain ⟨c, hquantize, hequal, hne, hprices, htexts⟩ := RowFields.valid_ok hvalid
  generalize hmembers : Json.display (row.items quantity avgCost price cnyPrice marketValueCny) = members
  have hfield : ∀ name value, (name, value) ∈ row.items quantity avgCost price cnyPrice marketValueCny →
      Json.get members name = value := fun _ _ hmem =>
    hmembers ▸ Json.get_display (RowFields.nodup_items quantity avgCost price cnyPrice marketValueCny) hmem
  have hagain : (⟨c, -8⟩ : Decimal).quantize (-8) = some c :=
    (Decimal.eq_of_equal (f := fun d => d.quantize (-8))
      (fun d k => Decimal.quantize_extended d k (-8)) hequal).symm.trans hquantize
  obtain ⟨hreadQuantity, htextQuantity⟩ := quantizedNumber_eq hquantize hequal hquantity
    (hfield "quantity" _ (by simp [RowFields.items]))
  obtain ⟨avgCost', hreadAvgCost, htextAvgCost, hsameAvgCost⟩ := optionalNumber_eq
    hcarried.avgCost havgCost (hfield "avg_cost" _ (by simp [RowFields.items]))
  obtain ⟨price', hreadPrice, htextPrice, hsamePrice⟩ := optionalNumber_eq
    hcarried.price hprice (hfield "price" _ (by simp [RowFields.items]))
  obtain ⟨cnyPrice', hreadCnyPrice, htextCnyPrice, hsameCnyPrice⟩ := optionalNumber_eq
    hcarried.cnyPrice hcnyPrice (hfield "cny_price" _ (by simp [RowFields.items]))
  obtain ⟨marketValueCny', hreadMarketValue, htextMarketValue, hsameMarketValue⟩ := optionalNumber_eq
    (RowFields.fits_marketValueCny hvalid) hmarketValueCny (hfield "market_value_cny" _ (by simp [RowFields.items]))
  have hrebuilt : RowFields.valid { row with
      quantity := ⟨c, -8⟩, avgCost := avgCost', price := price', cnyPrice := cnyPrice'
      marketValueCny := marketValueCny' } = true :=
    RowFields.valid_of_ok hagain rfl hne ((RowFields.pricesOk_congr _ hsamePrice hsameCnyPrice
      hsameMarketValue).trans hprices) htexts
  refine ⟨⟨_, hrebuilt⟩, ?_, ?_, rfl⟩
  · unfold rebuildRow
    simp only
    rw [textField_optional (s := row.recordId) (hfield _ _ (by simp [RowFields.items])),
      textField_eq (s := row.account) (hfield _ _ (by simp [RowFields.items])),
      textField_eq (s := row.assetId) (hfield _ _ (by simp [RowFields.items])),
      textField_eq (s := row.assetName) (hfield _ _ (by simp [RowFields.items])),
      textField_eq (s := row.assetType) (hfield _ _ (by simp [RowFields.items])),
      textField_eq (s := row.normalizedType) (hfield _ _ (by simp [RowFields.items])),
      textField_eq (s := row.broker) (hfield _ _ (by simp [RowFields.items])), hreadQuantity, hreadAvgCost,
      textField_eq (s := row.currency) (hfield _ _ (by simp [RowFields.items])),
      optionalTextField_eq (s := row.assetClass) (hfield _ _ (by simp [RowFields.items])),
      optionalTextField_eq (s := row.industry) (hfield _ _ (by simp [RowFields.items])),
      textList_eq (l := row.tags) (hfield _ _ (by simp [RowFields.items])), hreadPrice, hreadCnyPrice,
      hreadMarketValue, textField_eq (s := row.source) (hfield _ _ (by simp [RowFields.items]))]
    simp only [bind, Except.bind, recordId_getD hcarried.recordId]
    exact dif_pos hrebuilt
  · unfold RowFields.canonicalPayload
    simp only
    rw [htextQuantity, htextAvgCost, htextPrice, htextCnyPrice, htextMarketValue]
    simp only [bind, Except.bind]
    exact congrArg (fun members => Except.ok (Json.object members)) hmembers

/-! ## Components -/

/-- Evidence that `dict` keeps: an object, in the form JSON gives it. -/
def IsObject (v : Json) : Prop := (∃ members, v = .object members) ∧ Canonical v

namespace ComponentFields

variable {component : ComponentFields}

theorem canonicalPayload_ok {v : Json} (h : component.canonicalPayload = .ok v) :
    ∃ valueCny, canonicalDecimal component.valueCny = .ok valueCny ∧
      v = .object (Json.display (component.items valueCny)) := by
  unfold canonicalPayload at h
  obtain ⟨valueCny, hvalueCny, h⟩ := except_bind_ok h
  exact ⟨valueCny, hvalueCny, (Except.ok.inj h).symm⟩

theorem nodup_items (valueCny : String) : ((component.items valueCny).map Prod.fst).Nodup := by
  show (["name", "category", "value_cny", "source", "provenance"] : List String).Nodup
  decide

theorem valid_iff : component.valid = true ↔ strip component.name ≠ "" ∧
    component.category ∈ ["cash", "equity", "fund"] ∧ atPrecision (-2) component.valueCny = true ∧
    strip component.source ≠ "" := by
  unfold valid
  simp only [Bool.and_eq_true, decide_eq_true_eq, and_assoc]

/-- The value of a valid component, quantized. -/
theorem quantize_valueCny (h : component.valid = true) : ∃ c, component.valueCny.quantize (-2) = some c ∧
    component.valueCny.equal ⟨c, -2⟩ = true := by
  have hprecision := (valid_iff.mp h).2.2.1
  unfold atPrecision at hprecision
  cases hc : component.valueCny.quantize (-2) with
  | none =>
    rw [hc] at hprecision
    cases hprecision
  | some c =>
    rw [hc] at hprecision
    exact ⟨c, rfl, hprecision⟩

end ComponentFields

/-- A component is rebuilt from its payload. -/
theorem rebuildComponent_eq {component : ValuationComponent} (hobject : IsObject component.1.provenance)
    {v : Json} (h : component.1.canonicalPayload = .ok v) :
    ∃ rebuilt : ValuationComponent, rebuildComponent rt v = .ok rebuilt ∧
      rebuilt.1.canonicalPayload = .ok v ∧ rebuilt.1.name = component.1.name := by
  obtain ⟨component, hvalid⟩ := component
  obtain ⟨valueCny, hvalueCny, rfl⟩ := ComponentFields.canonicalPayload_ok h
  obtain ⟨c, hquantize, hequal⟩ := ComponentFields.quantize_valueCny hvalid
  obtain ⟨⟨inner, hinner⟩, -⟩ := hobject
  generalize hmembers : Json.display (component.items valueCny) = members
  have hfield : ∀ name value, (name, value) ∈ component.items valueCny →
      Json.get members name = value := fun _ _ hmem =>
    hmembers ▸ Json.get_display (ComponentFields.nodup_items valueCny) hmem
  have hagain : (⟨c, -2⟩ : Decimal).quantize (-2) = some c :=
    (Decimal.eq_of_equal (f := fun d => d.quantize (-2))
      (fun d k => Decimal.quantize_extended d k (-2)) hequal).symm.trans hquantize
  obtain ⟨hreadValue, htextValue⟩ := quantizedNumber_eq hquantize hequal hvalueCny
    (hfield "value_cny" _ (by simp [ComponentFields.items]))
  have hprovenance : Json.get members "provenance" = .object inner :=
    (hfield _ component.provenance (by simp [ComponentFields.items])).trans hinner
  have hrebuilt : ComponentFields.valid { component with valueCny := ⟨c, -2⟩ } = true := by
    obtain ⟨hname, hcategory, -, hsource⟩ := ComponentFields.valid_iff.mp hvalid
    refine ComponentFields.valid_iff.mpr ⟨hname, hcategory, ?_, hsource⟩
    unfold atPrecision
    rw [hagain]
    exact Decimal.equal_self _
  refine ⟨⟨_, hrebuilt⟩, ?_, ?_, rfl⟩
  · unfold rebuildComponent
    simp only
    rw [textField_eq (s := component.name) (hfield _ _ (by simp [ComponentFields.items])),
      textField_eq (s := component.category) (hfield _ _ (by simp [ComponentFields.items])), hreadValue,
      textField_eq (s := component.source) (hfield _ _ (by simp [ComponentFields.items])),
      dictField_eq hprovenance]
    simp only [bind, Except.bind, ← hinner]
    exact dif_pos hrebuilt
  · unfold ComponentFields.canonicalPayload
    simp only
    rw [htextValue]
    simp only [bind, Except.bind]
    exact congrArg (fun members => Except.ok (Json.object members)) hmembers

/-! ## Valuations -/

/-- A list that was written item by item is rebuilt item by item. -/
theorem rebuildList_eq {α : Type} {write : α → Except SnapshotError Json}
    (rebuild : Json → Except EvidenceError α) (R : α → α → Prop) {members : Members} {name : String}
    {as : List α} {vs : List Json} (hwritten : as.mapM write = .ok vs)
    (hread : ∀ a ∈ as, ∀ v, write a = .ok v → ∃ b, rebuild v = .ok b ∧ write b = .ok v ∧ R b a)
    (hget : Json.get members name = .array vs) :
    ∃ bs, rebuildList rebuild members name = .ok bs ∧ bs.mapM write = .ok vs ∧
      List.Forall₂ R bs as := by
  unfold rebuildList
  rw [hget, Json.iterated_array]
  simp only
  have hpointwise := forall₂_of_mapM_ok hwritten
  clear hwritten hget
  induction hpointwise with
  | nil => exact ⟨[], rfl, rfl, .nil⟩
  | @cons a v as vs hav _ ih =>
    obtain ⟨b, hb, hagain, hR⟩ := hread a List.mem_cons_self v hav
    obtain ⟨bs, hbs, hrest, hRs⟩ := ih fun a' ha' => hread a' (List.mem_cons_of_mem _ ha')
    refine ⟨b :: bs, ?_, ?_, .cons hR hRs⟩
    · rw [List.mapM_cons, hb, hbs]
      rfl
    · rw [List.mapM_cons, hagain, hrest]
      rfl

/-- A valuation the service issued, that its payload can carry. -/
structure SnapshotFields.Issued (snapshot : SnapshotFields) : Prop where
  official : snapshot.official = true
  source : snapshot.source = "valuation_service"
  rows : ∀ row ∈ snapshot.rows, row.1.Carried
  components : ∀ component ∈ snapshot.components, IsObject component.1.provenance
  shares : ∀ x ∈ snapshot.shares, x.Fits
  navOverride : ∀ x ∈ snapshot.navOverride, x.Fits
  priceEvidence : IsObject snapshot.priceEvidence
  holdingsProvenance : IsObject snapshot.holdingsProvenance
  sourceProvenance : IsObject snapshot.sourceProvenance

namespace SnapshotFields

variable {snapshot : SnapshotFields}

theorem canonicalPayload_ok {payload : Members} (h : snapshot.canonicalPayload = .ok payload) :
    ∃ rows components shares navOverride,
      (snapshot.rows.mapM fun row => row.1.canonicalPayload) = .ok rows ∧
      (snapshot.components.mapM fun component => component.1.canonicalPayload) = .ok components ∧
      canonicalOptional snapshot.shares = .ok shares ∧
      canonicalOptional snapshot.navOverride = .ok navOverride ∧
      payload = Json.display (snapshot.items rows components shares navOverride) := by
  unfold canonicalPayload at h
  obtain ⟨rows, hrows, h⟩ := except_bind_ok h
  obtain ⟨components, hcomponents, h⟩ := except_bind_ok h
  obtain ⟨shares, hshares, h⟩ := except_bind_ok h
  obtain ⟨navOverride, hnavOverride, h⟩ := except_bind_ok h
  exact ⟨rows, components, shares, navOverride, hrows, hcomponents, hshares, hnavOverride,
    (Except.ok.inj h).symm⟩

theorem nodup_items (rows components : List Json) (shares navOverride : Option String) :
    ((snapshot.items rows components shares navOverride).map Prod.fst).Nodup := by
  show (["contract_version", "account", "rows", "components", "shares", "nav_override",
    "price_evidence", "holdings_provenance", "warnings", "excluded_zero_count",
    "excluded_zero_key_digest", "source", "source_provenance", "official_eligible"] :
    List String).Nodup
  decide

theorem valid_iff : snapshot.valid = true ↔ strip snapshot.account ≠ "" ∧
    snapshot.excludedZeroKeyDigest.length = 64 ∧ strip snapshot.source ≠ "" ∧
    (∀ row ∈ snapshot.rows, row.1.account = snapshot.account) ∧
    (snapshot.rows.map fun row => row.1.businessKey).Nodup ∧
    (snapshot.components.map fun component => component.1.name).Nodup ∧
    ∀ shares ∈ snapshot.shares, 0 ≤ shares.coefficient := by
  unfold valid
  simp only [Bool.and_eq_true, decide_eq_true_eq, and_assoc]

end SnapshotFields

/-- The sign of a number of the same value. -/
theorem SameNumber.nonneg {x y : Option Decimal} (h : SameNumber x y)
    (hy : ∀ d ∈ y, 0 ≤ d.coefficient) : ∀ d ∈ x, 0 ≤ d.coefficient := by
  cases h with
  | none => exact fun d hd => absurd hd (by simp)
  | @some x y hequal =>
    intro d hd
    cases hd
    have hvalue : 0 ≤ y.coefficient := hy y rfl
    rcases hvalue.eq_or_lt with hzero | hpos
    · exact ((Decimal.coefficient_eq_zero_of_equal hequal).mpr hzero.symm).ge
    · exact ((Decimal.pos_of_equal hequal).mpr hpos).le

section
variable {snapshot : NormalizedValuationSnapshot} {payload : Members}

/-- A valuation is rebuilt from its payload. -/
theorem rebuildSnapshot_eq (hint : ∀ n : Nat, rt.int (.number (natLiteral n)) = some (n : Int))
    (hissued : snapshot.1.Issued) (h : snapshot.1.canonicalPayload = .ok payload) :
    ∃ rebuilt : NormalizedValuationSnapshot, rebuildSnapshot rt payload = .ok rebuilt ∧
      rebuilt.1.canonicalPayload = .ok payload := by
  obtain ⟨snapshot, hvalid⟩ := snapshot
  obtain ⟨rows, components, shares, navOverride, hrows, hcomponents, hshares, hnavOverride, hpayload⟩ :=
    SnapshotFields.canonicalPayload_ok h
  obtain ⟨haccount, hdigest, hsource, haccounts, hkeys, hnames, hsign⟩ :=
    SnapshotFields.valid_iff.mp hvalid
  have hfield : ∀ name value, (name, value) ∈ snapshot.items rows components shares navOverride →
      Json.get payload name = value := fun _ _ hmem =>
    hpayload ▸ Json.get_display (SnapshotFields.nodup_items rows components shares navOverride) hmem
  obtain ⟨rows', hreadRows, htextRows, hsameRows⟩ := rebuildList_eq (rebuildRow rt)
    (fun rebuilt row => rebuilt.1.businessKey = row.1.businessKey) hrows
    (fun row hrow v hv => rebuildRow_eq (hissued.rows row hrow) hv) (hfield "rows" _ (by simp [SnapshotFields.items]))
  obtain ⟨components', hreadComponents, htextComponents, hsameComponents⟩ := rebuildList_eq
    (rebuildComponent rt) (fun rebuilt component => rebuilt.1.name = component.1.name) hcomponents
    (fun component hcomponent v hv => rebuildComponent_eq (hissued.components component hcomponent) hv)
    (hfield "components" _ (by simp [SnapshotFields.items]))
  obtain ⟨shares', hreadShares, htextShares, hsameShares⟩ := optionalNumber_eq
    hissued.shares hshares (hfield "shares" _ (by simp [SnapshotFields.items]))
  obtain ⟨navOverride', hreadNavOverride, htextNavOverride, -⟩ := optionalNumber_eq
    hissued.navOverride hnavOverride (hfield "nav_override" _ (by simp [SnapshotFields.items]))
  obtain ⟨⟨prices, hprices⟩, -⟩ := hissued.priceEvidence
  obtain ⟨⟨holdings, hholdings⟩, -⟩ := hissued.holdingsProvenance
  obtain ⟨⟨sources, hsources⟩, -⟩ := hissued.sourceProvenance
  have hreadPrices : dictField rt payload "price_evidence" = .ok prices := dictField_eq
    ((hfield _ snapshot.priceEvidence (by simp [SnapshotFields.items])).trans hprices)
  have hreadHoldings : dictField rt payload "holdings_provenance" = .ok holdings := dictField_eq
    ((hfield _ snapshot.holdingsProvenance (by simp [SnapshotFields.items])).trans hholdings)
  have hreadSources : dictField rt payload "source_provenance" = .ok sources := dictField_eq
    ((hfield _ snapshot.sourceProvenance (by simp [SnapshotFields.items])).trans hsources)
  have hreadCount : countField rt payload "excluded_zero_count" = .ok snapshot.excludedZeroCount := by
    have hget : getItem (codes "excluded_zero_count") payload =
        some (.number (natLiteral snapshot.excludedZeroCount)) :=
      hpayload ▸ Json.getItem_display (SnapshotFields.nodup_items rows components shares navOverride)
        (by simp [SnapshotFields.items])
    unfold countField
    rw [hget, Option.bind_some, hint]
    simp
  have hofficial : snapshot.official = true := hissued.official
  -- the rebuilt rows and components have the keys and names of the others
  have hkeys' : (rows'.map fun row => row.1.businessKey) =
      snapshot.rows.map fun row => row.1.businessKey := map_eq_of_forall₂ hsameRows fun _ _ h => h
  have hnames' : (components'.map fun component => component.1.name) =
      snapshot.components.map fun component => component.1.name := map_eq_of_forall₂ hsameComponents fun _ _ h => h
  have haccounts' : ∀ row ∈ rows', row.1.account = snapshot.account := by
    intro row hrow
    obtain ⟨original, horiginal, hkey⟩ := forall₂_mem_left hsameRows hrow
    exact (congrArg Prod.fst hkey).trans (haccounts original horiginal)
  have hrebuilt : SnapshotFields.valid { snapshot with
      rows := rows', components := components', shares := shares', navOverride := navOverride' } = true :=
    SnapshotFields.valid_iff.mpr ⟨haccount, hdigest, hsource, haccounts', hkeys' ▸ hkeys, hnames' ▸ hnames,
      hsameShares.nonneg hsign⟩
  refine ⟨⟨_, hrebuilt⟩, ?_, ?_⟩
  · unfold rebuildSnapshot
    rw [hreadRows, hreadComponents,
      textField_eq (s := snapshot.account) (hfield _ _ (by simp [SnapshotFields.items])), hreadShares,
      hreadNavOverride, hreadPrices, hreadHoldings,
      textList_eq (l := snapshot.warnings) (hfield _ _ (by simp [SnapshotFields.items])), hreadCount,
      textField_eq (s := snapshot.excludedZeroKeyDigest) (hfield _ _ (by simp [SnapshotFields.items])),
      textField_eq (s := snapshot.source) (hfield _ _ (by simp [SnapshotFields.items])), hreadSources]
    simp only [bind, Except.bind, ← hprices, ← hholdings, ← hsources]
    refine (congrArg SnapshotFields.checked ?_).trans (dif_pos hrebuilt)
    simp only [hofficial]
  · unfold SnapshotFields.canonicalPayload
    simp only
    rw [htextRows, htextComponents, htextShares, htextNavOverride]
    simp only [bind, Except.bind]
    exact congrArg Except.ok hpayload.symm

/-- An issued valuation is rebuilt from its payload and its digest. -/
theorem fromEvidencePayload_eq (hnumbers : ∀ n, rt.equalNumbers n n = true)
    (hint : ∀ n : Nat, rt.int (.number (natLiteral n)) = some (n : Int)) {digest : String}
    (hissued : snapshot.1.Issued) (h : snapshot.1.canonicalPayload = .ok payload)
    (hdigest : snapshot.digest rt = .ok digest) :
    ∃ rebuilt : NormalizedValuationSnapshot, fromEvidencePayload rt (.object payload) digest = .ok rebuilt ∧
      rebuilt.1.canonicalPayload = .ok payload ∧ rebuilt.digest rt = .ok digest := by
  obtain ⟨rebuilt, hrebuilt, hagain⟩ := rebuildSnapshot_eq hint hissued h
  have hdigest' : rebuilt.digest rt = .ok digest := by
    unfold NormalizedValuationSnapshot.digest at hdigest ⊢
    rwa [hagain, ← h]
  refine ⟨rebuilt, ?_, hagain, hdigest'⟩
  obtain ⟨rows, components, shares, navOverride, -, -, -, -, hpayload⟩ :=
    SnapshotFields.canonicalPayload_ok h
  have hfield : ∀ name value, (name, value) ∈ snapshot.1.items rows components shares navOverride →
      Json.get payload name = value := fun _ _ hmem =>
    hpayload ▸ Json.get_display (SnapshotFields.nodup_items rows components shares navOverride) hmem
  have hversion : Json.get payload "contract_version" = .text normalizedVersion :=
    hfield _ _ (by simp [SnapshotFields.items])
  have hofficial : Json.get payload "official_eligible" = .ofBool true :=
    hissued.official ▸ hfield _ _ (by simp [SnapshotFields.items])
  have hsource : Json.get payload "source" = .text "valuation_service" :=
    hissued.source ▸ hfield _ _ (by simp [SnapshotFields.items])
  unfold fromEvidencePayload
  simp only
  have hissuer : ¬ (Json.ofBool true).isTrue = false := by decide
  have hsame := Json.same_self hnumbers (.object payload)
  rw [hversion, hofficial, hsource, if_neg (not_not.mpr (Json.same_text.mpr rfl)), if_neg hissuer,
    if_neg (not_not.mpr (Json.same_text.mpr rfl)), hrebuilt]
  show (raised rebuilt.1.canonicalPayload >>= _) = _
  rw [hagain]
  show (if ¬ Json.same rt.equalNumbers (.object payload) (.object payload) then _ else _) = _
  rw [if_neg (not_not.mpr hsame)]
  show (rebuilt.digest rt >>= _) = _
  rw [hdigest']
  exact if_neg (not_not.mpr rfl)

end

end PortfolioManagement.Valuation
