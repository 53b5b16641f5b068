import PortfolioManagement.Lib.DecimalValue
import PortfolioManagement.Snapshots.Payload

/-!
# Plans that are read back

A row is read back from its payload field by field: a text that is a name is stripped already, and the
canonical text of a float denotes the same number, so the same float is stored for it. A plan that `build`
made is therefore read back with its digest, and a payload under the digest of a plan is that plan's.
-/

namespace PortfolioManagement.Snapshots

variable {rt : PayloadRuntime}

/-! ## Numbers -/

/-- `x` is a float: it is what is stored for a decimal of its value. -/
def IsFloat (rt : PayloadRuntime) (x : FloatValue) : Prop :=
  ∀ d : Decimal, d.equal x.decimal = true → rt.float d = some x

/-- The numbers of the row are floats. -/
structure HoldingSnapshot.Floats (rt : PayloadRuntime) (row : HoldingSnapshot) : Prop where
  quantity : IsFloat rt row.quantity
  price : IsFloat rt row.price
  cnyPrice : IsFloat rt row.cnyPrice
  marketValueCny : IsFloat rt row.marketValueCny
  avgCost : ∀ cost ∈ row.avgCost, IsFloat rt cost

theorem expanded_equal (x : Decimal) : x.expanded.equal x = true := by
  unfold Decimal.expanded
  by_cases hexp : 0 ≤ x.exponent
  · rw [if_pos hexp]
    refine Decimal.equal_iff.mpr (.inr ⟨x.exponent.toNat, ?_⟩)
    rw [Decimal.extended, Int.toNat_of_nonneg hexp, Int.sub_self]
  · rw [if_neg hexp]
    exact Decimal.equal_self x

/-- No digit, point or sign is a blank. -/
theorem strip_fixedPoint (x : Decimal) : strip (Decimal.fixedPoint x) = Decimal.fixedPoint x := by
  have hchar : ∀ c ∈ (Decimal.fixedPoint x).toList, ¬ SpaceChar c := by
    intro c hmem hblank
    rcases Decimal.mem_fixedPoint hmem with hdigit | rfl | rfl
    · have hrange : 48 ≤ c.toNat ∧ c.toNat ≤ 57 := by
        simpa [Char.isDigit, UInt32.le_iff_toNat_le] using hdigit
      unfold SpaceChar isSpace at hblank
      simp at hblank
      omega
    · exact absurd hblank (by decide)
    · exact absurd hblank (by decide)
  exact strip_eq_self_iff.mpr ⟨fun c hc => hchar c (List.mem_of_mem_head? hc),
    fun c hc => hchar c (List.mem_of_mem_getLast? hc)⟩

section
variable {x : FloatValue} {text : String}

/-- A canonical text is read as a decimal of the same value. -/
theorem decimalOf_text (h : canonicalDecimal x.decimal = .ok text) :
    decimalOf (Json.text text) = some x.decimal.expanded := by
  rw [Json.text, decimalOf, textOf?_codes, Option.bind_some, FloatValue.canonicalDecimal_ok h,
    strip_fixedPoint, Decimal.ofText_fixedPoint, FloatValue.expanded_expanded]

/-- A float that a field may hold is stored again when its canonical text is read. -/
theorem quantizedFloat_text (hx : IsFloat rt x) {exponent : Int} (name : String)
    (hprecision : atPrecision exponent x.decimal = true)
    (h : canonicalDecimal x.decimal = .ok text) :
    ∃ c, quantizedFloat rt exponent name (Json.text text) = .ok (c, x) ∧
      x.decimal.equal ⟨c, exponent⟩ = true := by
  unfold atPrecision at hprecision
  have hquantize : x.decimal.expanded.quantize exponent = x.decimal.quantize exponent :=
    Decimal.eq_of_equal (f := fun d => d.quantize exponent)
      (fun d k => Decimal.quantize_extended d k exponent) (expanded_equal x.decimal)
  cases hc : x.decimal.quantize exponent with
  | none =>
    rw [hc] at hprecision
    cases hprecision
  | some c =>
    rw [hc] at hprecision
    refine ⟨c, ?_, hprecision⟩
    unfold quantizedFloat
    rw [decimalOf_text h, Option.bind_some, hquantize, hc]
    simp only
    rw [hx _ (Decimal.equal_symm hprecision)]

end

/-! ## Fields -/

section
variable {members : Members} {name : String}

theorem textOrEmpty_text (s : String) : textOrEmpty rt (Json.text s) = .ok s := by
  unfold textOrEmpty
  rw [Json.strOrEmpty_text, textOf?_codes]

theorem requiredText_eq {s : String} (hname : ValidName s)
    (h : Json.get members name = Json.text s) : requiredText rt members name = .ok s := by
  unfold requiredText
  rw [h, textOrEmpty_text]
  show (if strip s = "" then _ else _) = _
  rw [hname.stripped, if_neg hname.ne_empty]
  rfl

theorem optionalText_eq {s : Option String}
    (h : Json.get members name = (Value.optionalString s).json) :
    optionalText members name = .ok s := by
  unfold optionalText
  rw [h, Value.json_optionalString]
  cases s with
  | none => rfl
  | some s =>
    simp only [Option.elim_some, Json.text, textOf?_codes]

end

/-- A dict that holds a row: its payload, and the record id if there is one. -/
structure RowMembers (p : RowPayload) (recordId : Option String) (members : Members) : Prop where
  /-- the record id -/
  record : Json.get members "record_id" = (Value.optionalString recordId).json
  /-- the fields of the payload -/
  fields : ∀ item ∈ p.items, Json.get members item.1 = item.2.json
  /-- no other field -/
  keys : ∀ key ∈ members.map Prod.fst, key ∈ rowFields.map codes

theorem nodup_rowFields : rowFields.Nodup := by decide

theorem RowPayload.names (p : RowPayload) : p.items.map Prod.fst = rowFields.tail := rfl

theorem rowMembers_value (p : RowPayload) : RowMembers p none (Dict.display p.items).items where
  record := Dict.get_display_eq_none (by rw [p.names]; decide)
  fields := fun item hitem =>
    Dict.get_display (by rw [p.names]; exact nodup_rowFields.tail) hitem
  keys := fun key hkey => by
    obtain ⟨name, hname, rfl⟩ := Dict.mem_keys_display.mp hkey
    exact List.mem_map_of_mem (List.mem_of_mem_tail (p.names ▸ hname))

/-- The items of a row before, with its record id. -/
theorem rowMembers_recorded (p : RowPayload) (recordId : Option String) :
    RowMembers p recordId
      (Dict.display (("record_id", .optionalString recordId) :: p.items)).items := by
  have hnames : (("record_id", Value.optionalString recordId) :: p.items).map Prod.fst = rowFields := rfl
  have hnodup : ((("record_id", Value.optionalString recordId) :: p.items).map Prod.fst).Nodup := by
    rw [hnames]
    exact nodup_rowFields
  refine ⟨Dict.get_display hnodup List.mem_cons_self,
    fun item hitem => Dict.get_display hnodup (List.mem_cons_of_mem _ hitem), fun key hkey => ?_⟩
  obtain ⟨name, hname, rfl⟩ := Dict.mem_keys_display.mp hkey
  exact List.mem_map_of_mem (hnames ▸ hname)

/-! ## Rows -/

section
variable {row : HoldingSnapshot} {p : RowPayload} {members : Members}

theorem readAvgCost_eq (hp : canonicalOptional (row.avgCost.map FloatValue.decimal) = .ok p.avgCost)
    (hfloat : ∀ cost ∈ row.avgCost, IsFloat rt cost)
    (h : Json.get members "avg_cost" = (Value.optionalString p.avgCost).json) :
    readAvgCost rt members = .ok row.avgCost := by
  unfold readAvgCost
  rw [h, Value.json_optionalString]
  rcases canonicalOptional_ok hp with ⟨hnone, htext⟩ | ⟨cost, text, hcost, htext, hcanonical⟩
  · rw [htext, hnone]
    rfl
  · obtain ⟨c, hc, -⟩ := quantizedFloat_text (hfloat cost hcost) "avg_cost"
      (row.atMoney.2 cost hcost) hcanonical
    rw [htext, hcost]
    show (quantizedFloat rt (-2) "avg_cost" (Json.text text)).map _ = _
    rw [hc]
    rfl

theorem readUnitPrice_eq {x : FloatValue} {text name : String} (hx : IsFloat rt x)
    (hpos : 0 < x.decimal.coefficient) (hcanonical : canonicalDecimal x.decimal = .ok text)
    (h : Json.get members name = Json.text text) : readUnitPrice rt members name = .ok x := by
  unfold readUnitPrice
  rw [h, decimalOf_text hcanonical]
  simp only
  rw [if_pos ((Decimal.pos_of_equal (expanded_equal x.decimal)).mpr hpos),
    hx _ (expanded_equal x.decimal)]

/-- A row is read back from its payload. -/
theorem holdingSnapshot_eq (hp : row.payload = .ok p) (hfloats : row.Floats rt)
    (h : RowMembers p row.recordId members) : holdingSnapshot rt members = .ok row := by
  obtain ⟨hquantity, hprice, hcnyPrice, hmarketValueCny, havgCost, hasOf, haccount, hassetId, hbroker,
    hcurrency, hdedupKey, hassetName, hsource, hremark⟩ := HoldingSnapshot.payload_ok hp
  have hfield : ∀ name value, (name, value) ∈ p.items → Json.get members name = value.json :=
    fun name value hmem => h.fields _ hmem
  have hrequired : ∀ name s, (name, Value.string s) ∈ p.items → ValidName s →
      requiredText rt members name = .ok s :=
    fun name s hmem hs => requiredText_eq hs (hfield _ _ hmem)
  have hoptional : ∀ name s, (name, Value.optionalString s) ∈ p.items →
      optionalText members name = .ok s := fun name s hmem => optionalText_eq (hfield _ _ hmem)
  have htexts := row.texts
  simp only [List.forall_mem_cons] at htexts
  obtain ⟨hvasOf, hvaccount, hvassetId, hvbroker, hvcurrency, hvdedupKey, -⟩ := htexts
  have hextra : ¬ ∃ key ∈ members.map Prod.fst, key ∉ rowFields.map codes :=
    fun ⟨key, hkey, hnot⟩ => hnot (h.keys key hkey)
  have hreadQuantity : readQuantity rt members = .ok row.quantity := by
    obtain ⟨c, hc, hequal⟩ := quantizedFloat_text hfloats.quantity "quantity"
      row.quantized.2 hquantity
    have hne : c ≠ 0 := fun hzero =>
      row.quantized.1 ((Decimal.coefficient_eq_zero_of_equal hequal).mpr hzero)
    unfold readQuantity
    rw [hfield "quantity" (.string p.quantity) (by simp [RowPayload.items]), Value.json_string, hc]
    show (if c = 0 then _ else _) = _
    rw [if_neg hne]
    rfl
  have hreadPrice := readUnitPrice_eq hfloats.price row.positive.1 hprice
    (hfield "price" (.string p.price) (by simp [RowPayload.items]))
  have hreadCnyPrice := readUnitPrice_eq hfloats.cnyPrice row.positive.2 hcnyPrice
    (hfield "cny_price" (.string p.cnyPrice) (by simp [RowPayload.items]))
  have hreadMarketValue : readMarketValue rt members = .ok row.marketValueCny := by
    obtain ⟨c, hc, -⟩ := quantizedFloat_text hfloats.marketValueCny
      "market_value_cny" row.atMoney.1 hmarketValueCny
    unfold readMarketValue
    rw [hfield "market_value_cny" (.string p.marketValueCny) (by simp [RowPayload.items]),
      Value.json_string, hc]
    rfl
  have hreadAvgCost := readAvgCost_eq havgCost hfloats.avgCost
    (hfield "avg_cost" (.optionalString p.avgCost) (by simp [RowPayload.items]))
  unfold holdingSnapshot
  rw [if_neg hextra, optionalText_eq h.record,
    hrequired "as_of" row.asOf (by simp [RowPayload.items, hasOf]) hvasOf,
    hrequired "account" row.account (by simp [RowPayload.items, haccount]) hvaccount,
    hrequired "asset_id" row.assetId (by simp [RowPayload.items, hassetId]) hvassetId,
    hrequired "broker" row.broker (by simp [RowPayload.items, hbroker]) hvbroker, hreadQuantity,
    hrequired "currency" row.currency (by simp [RowPayload.items, hcurrency]) hvcurrency, hreadPrice,
    hreadCnyPrice, hreadMarketValue,
    hrequired "dedup_key" row.dedupKey (by simp [RowPayload.items, hdedupKey]) hvdedupKey,
    hoptional "asset_name" row.assetName (by simp [RowPayload.items, hassetName]), hreadAvgCost,
    hoptional "source" row.source (by simp [RowPayload.items, hsource]),
    hoptional "remark" row.remark (by simp [RowPayload.items, hremark])]
  have hvalid : (∀ text ∈ [row.asOf, row.account, row.assetId, row.broker, row.currency, row.dedupKey],
      ValidName text) ∧
      (row.quantity.decimal.coefficient ≠ 0 ∧ atPrecision (-8) row.quantity.decimal) ∧
      (0 < row.price.decimal.coefficient ∧ 0 < row.cnyPrice.decimal.coefficient) ∧
      (atPrecision (-2) row.marketValueCny.decimal ∧
        ∀ cost ∈ row.avgCost, atPrecision (-2) cost.decimal) ∧
      ((row.quantity.decimal.mul row.cnyPrice.decimal).quantize (-2)).isSome ∧
      (row.quantity.decimal.mul row.cnyPrice.decimal).quantize (-2) =
        row.marketValueCny.decimal.quantize (-2) := by
    obtain ⟨c, hproduct, hvalue⟩ := row.replayed
    exact ⟨row.texts, row.quantized, row.positive, row.atMoney, by rw [hproduct]; rfl,
      hproduct.trans hvalue.symm⟩
  exact dif_pos hvalid

theorem snapshotFromPayload_dict (d : Dict) :
    snapshotFromPayload rt (Value.dict d).json = holdingSnapshot rt d.items := rfl

/-- A row before is read back with its record id. -/
theorem snapshotFromPayload_recorded (hid : row.id ≠ "") (hp : row.payload = .ok p)
    (hfloats : row.Floats rt) : snapshotFromPayload rt (p.recorded row.id).json = .ok row := by
  have hrecord : row.recordId = some row.id := by
    unfold HoldingSnapshot.id at hid ⊢
    cases hrecordId : row.recordId with
    | none =>
      rw [hrecordId] at hid
      exact absurd rfl hid
    | some recordId => rfl
  rw [RowPayload.recorded, if_neg hid, ← hrecord, snapshotFromPayload_dict]
  exact holdingSnapshot_eq hp hfloats (rowMembers_recorded p row.recordId)

/-- A desired row is read back without its record id. -/
theorem snapshotFromPayload_value (hp : row.payload = .ok p) (hfloats : row.Floats rt) :
    snapshotFromPayload rt p.value.json = .ok (row.withRecordId none) := by
  have hp' : (row.withRecordId none).payload = .ok p := hp
  have hfloats' : (row.withRecordId none).Floats rt :=
    ⟨hfloats.quantity, hfloats.price, hfloats.cnyPrice, hfloats.marketValueCny, hfloats.avgCost⟩
  rw [RowPayload.value, snapshotFromPayload_dict]
  exact holdingSnapshot_eq hp' hfloats' (rowMembers_value p)

end

/-- Rows that are written one by one are read back one by one. -/
theorem mapM_snapshotFromPayload {write : HoldingSnapshot → Except SnapshotError Value}
    (kept : HoldingSnapshot → HoldingSnapshot) {rows : List HoldingSnapshot} {values : List Value}
    (hread : ∀ row ∈ rows, ∀ value, write row = .ok value →
      snapshotFromPayload rt value.json = .ok (kept row))
    (h : rows.mapM write = .ok values) :
    (values.map Value.json).mapM (snapshotFromPayload rt) = .ok (rows.map kept) := by
  have hpointwise := forall₂_of_mapM_ok h
  induction hpointwise with
  | nil => rfl
  | @cons row value rows values hrow _ ih =>
    rw [List.mapM_cons] at h
    obtain ⟨value', -, h⟩ := except_bind_ok h
    obtain ⟨values', hvalues, h⟩ := except_bind_ok h
    cases h
    rw [List.map_cons, List.mapM_cons, hread row List.mem_cons_self value hrow,
      ih (fun r hr => hread r (List.mem_cons_of_mem _ hr)) hvalues]
    rfl

/-! ## Plans -/

namespace SnapshotExactSetPlan

variable (plan : SnapshotExactSetPlan)

theorem validDesired_unrecorded : validateRows plan.account plan.asOf false .desired
    (plan.desired.map (·.withRecordId none)) = .ok () := by
  have hvalid := validateRows_ok.mp plan.desiredValid
  refine validateRows_ok.mpr ⟨fun row hrow => ?_, fun h => absurd h Bool.false_ne_true, ?_, ?_⟩
  · obtain ⟨desired, hdesired, rfl⟩ := List.mem_map.mp hrow
    exact hvalid.inScope desired hdesired
  · have hkeys : keysOf (plan.desired.map (·.withRecordId none)) = keysOf plan.desired := by
      simp [keysOf, Function.comp_def]
    rw [hkeys]
    exact hvalid.keys
  · have hids : recordIds (plan.desired.map (·.withRecordId none)) = [] := by
      simp [recordIds, List.filterMap_map, Function.comp_def]
    rw [hids]
    exact List.nodup_nil

/-- The plan without the record ids of the desired rows. -/
def unrecorded : SnapshotExactSetPlan :=
  { plan with
    desired := plan.desired.map (·.withRecordId none)
    desiredValid := plan.validDesired_unrecorded }

/-- The rows are in the order of `build`. -/
def Built : Prop :=
  sortBy HoldingSnapshot.sortKey plan.before = plan.before ∧
    sortBy HoldingSnapshot.sortKey plan.desired = plan.desired

instance : Decidable plan.Built := inferInstanceAs (Decidable (_ ∧ _))

variable {plan}

theorem mapM_map_withRecordId {α : Type} {write : HoldingSnapshot → Except SnapshotError α}
    (hwrite : ∀ row : HoldingSnapshot, write (row.withRecordId none) = write row)
    (rows : List HoldingSnapshot) :
    (rows.map (·.withRecordId none)).mapM write = rows.mapM write := by
  induction rows with
  | nil => rfl
  | cons row rows ih => rw [List.map_cons, List.mapM_cons, List.mapM_cons, hwrite, ih]

theorem desired_unrecorded : plan.unrecorded.desired = plan.desired.map (·.withRecordId none) := rfl

theorem rowDigest_unrecorded : plan.unrecorded.rowDigest rt = plan.rowDigest rt := by
  have hsorted : sortBy HoldingSnapshot.businessOrder (plan.desired.map (·.withRecordId none)) =
      (sortBy HoldingSnapshot.businessOrder plan.desired).map (·.withRecordId none) :=
    (map_sortBy (f := fun row : HoldingSnapshot => row.withRecordId none) (fun _ => rfl) plan.desired).symm
  unfold rowDigest snapshotDigest
  rw [desired_unrecorded, hsorted, mapM_map_withRecordId fun _ => rfl]

theorem canonicalItems_unrecorded : plan.unrecorded.canonicalItems rt = plan.canonicalItems rt := by
  unfold canonicalItems
  rw [rowDigest_unrecorded, desired_unrecorded, mapM_map_withRecordId fun _ => rfl]
  rfl

theorem planDigest_unrecorded : plan.unrecorded.planDigest rt = plan.planDigest rt := by
  unfold planDigest
  rw [canonicalItems_unrecorded]

/-- The record ids play no part in the order of the desired rows: their keys are distinct. -/
theorem sortBy_unrecorded : sortBy HoldingSnapshot.sortKey plan.unrecorded.desired =
    (sortBy HoldingSnapshot.sortKey plan.desired).map (·.withRecordId none) := by
  have hkeys : (keysOf plan.desired).Nodup := (validateRows_ok.mp plan.desiredValid).keys
  refine (map_sortBy_of_iff fun row hrow other hother => ?_).symm
  have horder : ∀ r : HoldingSnapshot, r.sortKey = r.businessOrder ++ [r.id] := fun _ => rfl
  by_cases hsame : row.businessOrder = other.businessOrder
  · have hkey : row.key = other.key := by
      simp only [HoldingSnapshot.businessOrder, List.cons.injEq, and_true] at hsame
      unfold HoldingSnapshot.key
      rw [hsame.1, hsame.2.1, hsame.2.2.1, hsame.2.2.2]
    rw [eq_of_key_eq hkeys hrow hother hkey]
    exact iff_of_true le_rfl le_rfl
  · have hlength : row.businessOrder.length = other.businessOrder.length := rfl
    have hfront := fun s t : List String => append_le_append_iff s t hlength hsame
    rw [horder, horder, hfront]
    exact (hfront [(row.withRecordId none).id] [(other.withRecordId none).id]).symm

/-- Rows in the order of `build` stay so without their record ids. -/
theorem built_unrecorded (h : plan.Built) : plan.unrecorded.Built := by
  refine ⟨h.1, ?_⟩
  rw [sortBy_unrecorded, h.2]
  rfl

end SnapshotExactSetPlan

/-! ## Reading plans back -/

section
variable {plan : SnapshotExactSetPlan} {account asOf targetDigest : String}
  {before desired : List HoldingSnapshot}

theorem exactSetPlan_eq (plan : SnapshotExactSetPlan) (hdate : rt.isDate plan.asOf = true) :
    exactSetPlan rt plan.account plan.asOf plan.targetDigest plan.before plan.desired = .ok plan := by
  unfold exactSetPlan
  rw [dif_neg plan.accountGiven, if_neg (not_not.mpr hdate), dif_neg (not_not.mpr plan.digestLength)]
  split
  · rfl
  next e herror =>
    rw [plan.beforeValid] at herror
    cases herror
  next e herror _ =>
    rw [plan.desiredValid] at herror
    cases herror

/-- What `SnapshotExactSetPlan(...)` accepts becomes the fields of the plan. -/
theorem exactSetPlan_ok (h : exactSetPlan rt account asOf targetDigest before desired = .ok plan) :
    plan.account = account ∧ plan.asOf = asOf ∧ plan.targetDigest = targetDigest ∧
      plan.before = before ∧ plan.desired = desired := by
  unfold exactSetPlan at h
  split at h
  · cases h
  split at h
  · cases h
  split at h
  · cases h
  split at h
  · cases h
    exact ⟨rfl, rfl, rfl, rfl, rfl⟩
  · cases h
  · cases h

end

namespace SnapshotExactSetPlan

variable {plan : SnapshotExactSetPlan}

/-- The items of a canonical payload, and the lists of rows in it. -/
theorem canonicalItems_ok {items : List (String × Value)} (h : plan.canonicalItems rt = .ok items) :
    ∃ rowDigest before desired, plan.rowDigest rt = .ok rowDigest ∧
      (plan.before.mapM fun row => row.payload.map (RowPayload.recorded row.id)) = .ok before ∧
      (plan.desired.mapM fun row => row.payload.map RowPayload.value) = .ok desired ∧
      items = [("contract_version", .string exactSetVersion),
        ("account", .string plan.account),
        ("as_of", .string plan.asOf),
        ("target_digest", .string plan.targetDigest),
        ("row_digest", .string rowDigest),
        ("before", .array before),
        ("desired", .array desired)] := by
  unfold canonicalItems at h
  obtain ⟨rowDigest, hrowDigest, h⟩ := except_bind_ok h
  obtain ⟨before, hbefore, h⟩ := except_bind_ok h
  obtain ⟨desired, hdesired, h⟩ := except_bind_ok h
  cases h
  exact ⟨rowDigest, before, desired, hrowDigest, hbefore, hdesired, rfl⟩

/-- A plan whose rows have payloads has one. -/
theorem exists_canonicalItems (h : ∀ row ∈ plan.before ++ plan.desired, row.Encodable) :
    ∃ items, plan.canonicalItems rt = .ok items := by
  have hpayload : ∀ row ∈ plan.before ++ plan.desired, ∃ p, row.payload = .ok p :=
    fun row hrow => HoldingSnapshot.encodable_iff.mp (h row hrow)
  obtain ⟨sorted, hsorted⟩ : ∃ payloads, (sortBy HoldingSnapshot.businessOrder plan.desired).mapM
      HoldingSnapshot.payload = .ok payloads :=
    mapM_ok_of_forall fun row hrow => hpayload row (List.mem_append_right _ (mem_sortBy.mp hrow))
  obtain ⟨before, hbefore⟩ : ∃ values, (plan.before.mapM fun row =>
      row.payload.map (RowPayload.recorded row.id)) = .ok values :=
    mapM_ok_of_forall fun row hrow => by
      obtain ⟨p, hp⟩ := hpayload row (List.mem_append_left _ hrow)
      exact ⟨p.recorded row.id, by rw [hp]; rfl⟩
  obtain ⟨desired, hdesired⟩ : ∃ values, (plan.desired.mapM fun row =>
      row.payload.map RowPayload.value) = .ok values :=
    mapM_ok_of_forall fun row hrow => by
      obtain ⟨p, hp⟩ := hpayload row (List.mem_append_right _ hrow)
      exact ⟨p.value, by rw [hp]; rfl⟩
  unfold canonicalItems rowDigest snapshotDigest
  rw [hsorted, hbefore, hdesired]
  exact ⟨_, rfl⟩

end SnapshotExactSetPlan

theorem payloadRows_array {members : Members} {name : String} {values : List Value}
    {rows : List HoldingSnapshot} (hget : Json.get members name = (Value.array values).json)
    (hrows : (values.map Value.json).mapM (snapshotFromPayload rt) = .ok rows) :
    payloadRows rt members name = .ok rows := by
  unfold payloadRows
  rw [hget]
  cases values with
  | nil =>
    cases hrows
    rfl
  | cons value values => exact hrows

theorem map_payload_ok {row : HoldingSnapshot} {write : RowPayload → Value} {value : Value}
    (h : row.payload.map write = .ok value) : ∃ p, row.payload = .ok p ∧ value = write p := by
  cases hp : row.payload with
  | error e =>
    rw [hp] at h
    cases h
  | ok p =>
    rw [hp] at h
    cases h
    exact ⟨p, rfl, rfl⟩

theorem mapM_recorded {rows : List HoldingSnapshot} {values : List Value}
    (hids : ∀ row ∈ rows, row.id ≠ "") (hfloats : ∀ row ∈ rows, row.Floats rt)
    (h : (rows.mapM fun row => row.payload.map (RowPayload.recorded row.id)) = .ok values) :
    (values.map Value.json).mapM (snapshotFromPayload rt) = .ok rows := by
  have hread : (values.map Value.json).mapM (snapshotFromPayload rt) = .ok (rows.map id) :=
    mapM_snapshotFromPayload id (fun row hrow value hvalue => by
      obtain ⟨p, hp, rfl⟩ := map_payload_ok hvalue
      exact snapshotFromPayload_recorded (hids row hrow) hp (hfloats row hrow)) h
  rwa [List.map_id] at hread

theorem mapM_value {rows : List HoldingSnapshot} {values : List Value}
    (hfloats : ∀ row ∈ rows, row.Floats rt)
    (h : (rows.mapM fun row => row.payload.map RowPayload.value) = .ok values) :
    (values.map Value.json).mapM (snapshotFromPayload rt) = .ok (rows.map (·.withRecordId none)) :=
  mapM_snapshotFromPayload (·.withRecordId none) (fun row hrow value hvalue => by
    obtain ⟨p, hp, rfl⟩ := map_payload_ok hvalue
    exact snapshotFromPayload_value hp (hfloats row hrow)) h

/-- A plan is read back from its payload, without the record ids of the desired rows. -/
theorem planFromPayload_toPayload {plan : SnapshotExactSetPlan} {payload : Dict}
    (hself : ∀ n, rt.equalNumbers n n = true) (hdate : rt.isDate plan.asOf = true)
    (hbuilt : plan.Built) (hfloats : ∀ row ∈ plan.before ++ plan.desired, row.Floats rt)
    (h : plan.toPayload rt = .ok payload) :
    planFromPayload rt (Value.dict payload).json = .ok plan.unrecorded := by
  unfold SnapshotExactSetPlan.toPayload at h
  obtain ⟨items, hitems, h⟩ := except_bind_ok h
  obtain ⟨digest, hdigest, h⟩ := except_bind_ok h
  cases h
  obtain ⟨rowDigest, before, desired, -, hbefore, hdesired, rfl⟩ :=
    SnapshotExactSetPlan.canonicalItems_ok hitems
  have hbeforeRows := mapM_recorded ((validateRows_ok.mp plan.beforeValid).recorded rfl)
    (fun row hrow => hfloats row (List.mem_append_left _ hrow)) hbefore
  have hdesiredRows := mapM_value (fun row hrow => hfloats row (List.mem_append_right _ hrow)) hdesired
  show planFromPayload rt (.object (Dict.display _).items) = _
  generalize hmembers : (Dict.display _).items = members
  have hget : ∀ name value, (name, value) ∈ [("contract_version", Value.string exactSetVersion),
      ("account", .string plan.account), ("as_of", .string plan.asOf),
      ("target_digest", .string plan.targetDigest), ("row_digest", .string rowDigest),
      ("before", .array before), ("desired", .array desired), ("plan_digest", .string digest)] →
      Json.get members name = value.json := fun name value hmem => by
    rw [← hmembers]
    exact Dict.get_display (by simp) hmem
  have htext : ∀ name s, Json.get members name = (Value.string s).json →
      textOrEmpty rt (Json.get members name) = .ok s := fun name s h => by
    rw [h, Value.json_string, textOrEmpty_text]
  have hsame : ∀ name s, Json.get members name = (Value.string s).json →
      ¬ ¬ Json.same rt.equalNumbers (Json.get members name) (Json.text s) = true := fun name s h => by
    rw [h, Value.json_string, Json.same_self hself]
    exact not_not.mpr rfl
  have hrows := payloadRows_array (hget "before" (.array before) (by simp)) hbeforeRows
  have hdesiredRead := payloadRows_array (hget "desired" (.array desired) (by simp)) hdesiredRows
  have hplan : buildPlan rt plan.account plan.asOf plan.targetDigest plan.before
      (plan.desired.map (·.withRecordId none)) = .ok plan.unrecorded := by
    have hsorted := SnapshotExactSetPlan.built_unrecorded hbuilt
    have hsortedDesired := hsorted.2
    rw [SnapshotExactSetPlan.desired_unrecorded] at hsortedDesired
    unfold buildPlan
    rw [hbuilt.1, hsortedDesired]
    exact exactSetPlan_eq plan.unrecorded hdate
  have hunrecorded : lifted (plan.unrecorded.planDigest rt) = .ok digest :=
    lifted_ok.mpr (SnapshotExactSetPlan.planDigest_unrecorded.trans hdigest)
  have hthen : ∀ {α β : Type} (a : α) (f : α → Except PayloadError β),
      ((.ok a : Except PayloadError α) >>= f) = f a := fun _ _ => rfl
  unfold planFromPayload
  simp only
  rw [htext "account" plan.account (hget _ _ (by simp)), hthen,
    htext "as_of" plan.asOf (hget _ _ (by simp)), hthen,
    htext "target_digest" plan.targetDigest (hget _ _ (by simp)), hthen, hrows, hthen, hdesiredRead,
    hthen, hplan, hthen,
    if_neg (hsame "contract_version" exactSetVersion (hget _ _ (by simp))), hunrecorded]
  show (if _ then _ else _) = _
  rw [if_neg (hsame "plan_digest" digest (hget _ _ (by simp)))]
  rfl

end PortfolioManagement.Snapshots
