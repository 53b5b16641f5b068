import PortfolioManagement.Valuation.RoundTrip

/-!
# Valuation evidence

The payload of an issued valuation is rebuilt to a valuation of the same payload and digest. What is rebuilt
from a payload has that payload, except that `==` does not tell a count from another spelling of its number.
-/

namespace PortfolioManagement.Valuation

open Snapshots

variable {rt : EvidenceRuntime}

/-! ## Canonical values -/

theorem canonical_optionalText (s : Option String) : Canonical (Json.optionalText s) := by
  cases s <;> exact trivial

theorem canonicalItems_iff {items : List Json} : CanonicalItems items ↔ ∀ v ∈ items, Canonical v := by
  induction items with
  | nil => simp [CanonicalItems]
  | cons v items ih => rw [CanonicalItems, ih, List.forall_mem_cons]

theorem canonical_texts (texts : List String) : Canonical (.array (texts.map Json.text)) := by
  rw [Canonical, canonicalItems_iff]
  intro v hv
  obtain ⟨s, -, rfl⟩ := List.mem_map.mp hv
  exact trivial

namespace RowFields

variable {row : RowFields} {v : Json}

theorem canonical_payload (h : row.canonicalPayload = .ok v) : Canonical v := by
  obtain ⟨quantity, avgCost, price, cnyPrice, marketValueCny, -, -, -, -, -, hv⟩ := canonicalPayload_ok h
  rw [hv]
  refine Json.canonical_display fun item hitem => ?_
  simp only [items, List.mem_cons, List.not_mem_nil, or_false] at hitem
  rcases hitem with rfl | rfl | rfl | rfl | rfl | rfl | rfl | rfl | rfl | rfl | rfl | rfl | rfl | rfl |
    rfl | rfl | rfl
  all_goals first | exact trivial | exact canonical_optionalText _ | exact canonical_texts _

/-- A row's payload is equal to itself only. -/
theorem rigid_payload (h : row.canonicalPayload = .ok v) : Json.Rigid v := by
  obtain ⟨quantity, avgCost, price, cnyPrice, marketValueCny, -, -, -, -, -, hv⟩ := canonicalPayload_ok h
  have hitems : ∀ item ∈ row.items quantity avgCost price cnyPrice marketValueCny,
      Json.Rigid item.2 := by
    intro item hitem
    simp only [items, List.mem_cons, List.not_mem_nil, or_false] at hitem
    rcases hitem with rfl | rfl | rfl | rfl | rfl | rfl | rfl | rfl | rfl | rfl | rfl | rfl | rfl |
      rfl | rfl | rfl | rfl
    all_goals first
      | exact Json.rigid_text _
      | exact Json.rigid_optionalText _
      | exact Json.rigid_texts _
  exact Json.rigid_display hv hitems

end RowFields

theorem ComponentFields.canonical_payload {component : ComponentFields} {v : Json}
    (hprovenance : Canonical component.provenance) (h : component.canonicalPayload = .ok v) :
    Canonical v := by
  obtain ⟨valueCny, -, rfl⟩ := ComponentFields.canonicalPayload_ok h
  refine Json.canonical_display fun item hitem => ?_
  simp only [ComponentFields.items, List.mem_cons, List.not_mem_nil, or_false] at hitem
  rcases hitem with rfl | rfl | rfl | rfl | rfl
  all_goals first | exact trivial | exact hprovenance

/-- What is written item by item keeps what each item has. -/
theorem forall_written {α : Type} {write : α → Except SnapshotError Json} {P : Json → Prop} {as : List α}
    {vs : List Json} (hwritten : as.mapM write = .ok vs) (h : ∀ a ∈ as, ∀ v, write a = .ok v → P v) :
    ∀ v ∈ vs, P v := by
  intro v hv
  obtain ⟨a, ha, hav⟩ := forall₂_mem_right (forall₂_of_mapM_ok hwritten) hv
  exact h a ha v hav

/-- The payload is canonical when the evidence in it is. -/
theorem SnapshotFields.canonical_payload_of {snapshot : SnapshotFields} {payload : Members}
    (hcomponents : ∀ component ∈ snapshot.components, Canonical component.1.provenance)
    (hprice : Canonical snapshot.priceEvidence) (hholdings : Canonical snapshot.holdingsProvenance)
    (hsource : Canonical snapshot.sourceProvenance) (h : snapshot.canonicalPayload = .ok payload) :
    Canonical (.object payload) := by
  obtain ⟨rows, components, shares, navOverride, hrows, hwritten, -, -, hpayload⟩ :=
    SnapshotFields.canonicalPayload_ok h
  rw [hpayload]
  have hrow : Canonical (.array rows) := canonicalItems_iff.mpr
    (forall_written hrows fun row _ v hv => RowFields.canonical_payload hv)
  have hcomponent : Canonical (.array components) := canonicalItems_iff.mpr
    (forall_written hwritten fun component hmem v hv =>
      ComponentFields.canonical_payload (hcomponents component hmem) hv)
  refine Json.canonical_display fun item hitem => ?_
  simp only [SnapshotFields.items, List.mem_cons, List.not_mem_nil, or_false] at hitem
  rcases hitem with rfl | rfl | rfl | rfl | rfl | rfl | rfl | rfl | rfl | rfl | rfl | rfl | rfl | rfl
  all_goals first
    | exact trivial
    | exact hrow
    | exact hcomponent
    | exact canonical_optionalText _
    | exact canonical_texts _
    | exact isNumeral_natLiteral _
    | exact hprice
    | exact hholdings
    | exact hsource

theorem SnapshotFields.canonical_payload {snapshot : SnapshotFields} {payload : Members}
    (hissued : snapshot.Issued) (h : snapshot.canonicalPayload = .ok payload) :
    Canonical (.object payload) :=
  SnapshotFields.canonical_payload_of (fun component hmem => (hissued.components component hmem).2)
    hissued.priceEvidence.2 hissued.holdingsProvenance.2 hissued.sourceProvenance.2 h

/-! ## What is accepted -/

section
variable {members : Members} {name : String}

theorem getItem_of_get {inner : Members} (h : Json.get members name = .object inner) :
    getItem (codes name) members = some (.object inner) := by
  unfold Json.get at h
  cases hget : getItem (codes name) members with
  | none =>
    rw [hget] at h
    cases h
  | some v =>
    rw [hget, Option.getD_some] at h
    rw [h]

/-- An object that is equal to what `dict` made of a value is that value. -/
theorem get_of_dictField {inner : Members} (h : dictField rt members name = .ok inner)
    (hsame : Json.same rt.equalNumbers (.object inner) (Json.get members name) = true) :
    Json.get members name = .object inner := by
  unfold dictField at h
  generalize Json.get members name = v at h hsame
  cases v with
  | object ns =>
    cases ns with
    | nil => exact congrArg Json.object (Except.ok.inj h)
    | cons n ns => exact congrArg Json.object (Except.ok.inj h)
  | _ => simp [Json.same] at hsame

end

/-- What a display is equal to: its rigid items are there as they are. -/
theorem same_object {items : List (String × Json)} {v : Json}
    (hsame : Json.same rt.equalNumbers (.object (Json.display items)) v = true) :
    ∃ members, v = .object members ∧
      Json.sameMembers rt.equalNumbers (Json.display items) members = true := by
  cases v with
  | object members => exact ⟨members, rfl, by simpa [Json.same] using hsame⟩
  | _ => simp [Json.same] at hsame

/-- The provenance, or other evidence, that an accepted payload has. -/
theorem get_evidence {items : List (String × Json)} {members inner : Members} {name : String}
    (hnodup : (items.map Prod.fst).Nodup) (hmem : (name, Json.object inner) ∈ items)
    (hsame : Json.sameMembers rt.equalNumbers (Json.display items) members = true)
    (hread : dictField rt members name = .ok inner) :
    getItem (codes name) members = some (.object inner) := by
  obtain ⟨w, hw, hequal⟩ := Json.getItem_of_sameMembers hsame (Json.getItem_display hnodup hmem)
  have hget : Json.get members name = w := by rw [Json.get, hw, Option.getD_some]
  exact getItem_of_get (get_of_dictField hread (by rwa [hget]))

theorem nodup_display {items : List (String × Json)} : ((Json.display items).map Prod.fst).Nodup :=
  Json.pairwise_display.imp fun h => h.ne

theorem checkedComponent_ok {component : ComponentFields} {rebuilt : ValuationComponent}
    (h : component.checked = .ok rebuilt) : rebuilt.1 = component := by
  unfold ComponentFields.checked at h
  split_ifs at h
  rw [← Except.ok.inj h]

theorem checkedSnapshot_ok {snapshot : SnapshotFields} {rebuilt : NormalizedValuationSnapshot}
    (h : snapshot.checked = .ok rebuilt) : rebuilt.1 = snapshot := by
  unfold SnapshotFields.checked at h
  split_ifs at h
  rw [← Except.ok.inj h]

theorem rebuildComponent_ok {members : Members} {rebuilt : ValuationComponent}
    (h : rebuildComponent rt (.object members) = .ok rebuilt) :
    ∃ inner, dictField rt members "provenance" = .ok inner ∧ rebuilt.1.provenance = .object inner := by
  unfold rebuildComponent at h
  simp only at h
  obtain ⟨name, -, h⟩ := except_bind_ok h
  obtain ⟨category, -, h⟩ := except_bind_ok h
  obtain ⟨valueCny, -, h⟩ := except_bind_ok h
  obtain ⟨source, -, h⟩ := except_bind_ok h
  obtain ⟨provenance, hprovenance, h⟩ := except_bind_ok h
  exact ⟨provenance, hprovenance, by rw [checkedComponent_ok h]⟩

/-- A component that is equal to the one rebuilt from it is that one. -/
theorem component_eq {rebuilt : ValuationComponent} {v w : Json}
    (h : rebuildComponent rt v = .ok rebuilt) (hwritten : rebuilt.1.canonicalPayload = .ok w)
    (hsame : Json.same rt.equalNumbers w v = true) : v = w := by
  obtain ⟨valueCny, -, rfl⟩ := ComponentFields.canonicalPayload_ok hwritten
  obtain ⟨members, rfl, hmembers⟩ := same_object hsame
  obtain ⟨inner, hinner, hprovenance⟩ := rebuildComponent_ok h
  refine congrArg Json.object (Json.eq_of_sameMembers nodup_display hmembers fun member hmember => ?_)
  obtain ⟨item, hitem, rfl⟩ := Json.mem_display hmember
  simp only [ComponentFields.items, hprovenance, List.mem_cons, List.not_mem_nil, or_false] at hitem
  rcases hitem with rfl | rfl | rfl | rfl | rfl
  case inr.inr.inr.inr =>
    refine .inr (get_evidence (ComponentFields.nodup_items valueCny) ?_ hmembers hinner)
    simp [ComponentFields.items, hprovenance]
  all_goals exact .inl (Json.rigid_text _)

/-- Components that are equal to the ones rebuilt from them are those. -/
theorem components_eq : ∀ {vs ws : List Json} {rebuilt : List ValuationComponent},
    vs.mapM (rebuildComponent rt) = .ok rebuilt →
    (rebuilt.mapM fun component => component.1.canonicalPayload) = .ok ws →
    Json.sameItems rt.equalNumbers ws vs = true → vs = ws := by
  intro vs
  induction vs with
  | nil =>
    intro ws rebuilt h hwritten _
    cases h
    cases hwritten
    rfl
  | cons v vs ih =>
    intro ws rebuilt h hwritten hsame
    rw [List.mapM_cons] at h
    obtain ⟨component, hcomponent, h⟩ := except_bind_ok h
    obtain ⟨components, hcomponents, h⟩ := except_bind_ok h
    cases h
    rw [List.mapM_cons] at hwritten
    obtain ⟨w, hw, hwritten⟩ := except_bind_ok hwritten
    obtain ⟨rest, hrest, hwritten⟩ := except_bind_ok hwritten
    cases hwritten
    simp only [Json.sameItems, Bool.and_eq_true] at hsame
    rw [component_eq hcomponent hw hsame.1, ih hcomponents hrest hsame.2]

theorem rebuildList_ok {α : Type} {rebuild : Json → Except EvidenceError α} {members : Members}
    {name : String} {as : List α} {ws : List Json} (h : rebuildList rebuild members name = .ok as)
    (hsame : Json.same rt.equalNumbers (.array ws) (Json.get members name) = true) :
    ∃ vs, Json.get members name = .array vs ∧ vs.mapM rebuild = .ok as ∧
      Json.sameItems rt.equalNumbers ws vs = true := by
  unfold rebuildList at h
  generalize Json.get members name = v at h hsame
  cases v with
  | array vs =>
    rw [Json.iterated_array] at h
    exact ⟨vs, rfl, h, by simpa [Json.same] using hsame⟩
  | _ => simp [Json.same] at hsame

theorem rebuildSnapshot_ok {members : Members} {rebuilt : NormalizedValuationSnapshot}
    (h : rebuildSnapshot rt members = .ok rebuilt) :
    rebuildList (rebuildComponent rt) members "components" = .ok rebuilt.1.components ∧
    ∃ prices holdings sources, dictField rt members "price_evidence" = .ok prices ∧
      dictField rt members "holdings_provenance" = .ok holdings ∧
      dictField rt members "source_provenance" = .ok sources ∧
      rebuilt.1.priceEvidence = .object prices ∧ rebuilt.1.holdingsProvenance = .object holdings ∧
      rebuilt.1.sourceProvenance = .object sources ∧ rebuilt.1.official = true := by
  unfold rebuildSnapshot at h
  obtain ⟨rows, -, h⟩ := except_bind_ok h
  obtain ⟨components, hcomponents, h⟩ := except_bind_ok h
  obtain ⟨account, -, h⟩ := except_bind_ok h
  obtain ⟨shares, -, h⟩ := except_bind_ok h
  obtain ⟨navOverride, -, h⟩ := except_bind_ok h
  obtain ⟨prices, hprices, h⟩ := except_bind_ok h
  obtain ⟨holdings, hholdings, h⟩ := except_bind_ok h
  obtain ⟨warnings, -, h⟩ := except_bind_ok h
  obtain ⟨count, -, h⟩ := except_bind_ok h
  obtain ⟨keyDigest, -, h⟩ := except_bind_ok h
  obtain ⟨source, -, h⟩ := except_bind_ok h
  obtain ⟨sources, hsources, h⟩ := except_bind_ok h
  rw [checkedSnapshot_ok h]
  exact ⟨hcomponents, prices, holdings, sources, hprices, hholdings, hsources, rfl, rfl, rfl, rfl⟩

/-- The items of a valuation's payload that have only one spelling, or are kept as they were read. -/
theorem SnapshotFields.items_exact {snapshot : SnapshotFields} {rows components : List Json}
    {shares navOverride : Option String} {members : Members} (hrows : Json.Rigid (.array rows))
    (hcomponents : getItem (codes "components") members = some (.array components))
    (hprices : getItem (codes "price_evidence") members = some snapshot.priceEvidence)
    (hholdings : getItem (codes "holdings_provenance") members = some snapshot.holdingsProvenance)
    (hsources : getItem (codes "source_provenance") members = some snapshot.sourceProvenance)
    (hofficial : getItem (codes "official_eligible") members = some (.ofBool snapshot.official)) :
    ∀ item ∈ snapshot.items rows components shares navOverride, item.1 ≠ "excluded_zero_count" →
      Json.Rigid item.2 ∨ getItem (codes item.1) members = some item.2 := by
  simp only [items, List.forall_mem_cons]
  exact ⟨fun _ => .inl (Json.rigid_text _), fun _ => .inl (Json.rigid_text _), fun _ => .inl hrows,
    fun _ => .inr hcomponents, fun _ => .inl (Json.rigid_optionalText _),
    fun _ => .inl (Json.rigid_optionalText _), fun _ => .inr hprices, fun _ => .inr hholdings,
    fun _ => .inl (Json.rigid_texts _), fun hne => absurd rfl hne, fun _ => .inl (Json.rigid_text _),
    fun _ => .inl (Json.rigid_text _), fun _ => .inr hsources, fun _ => .inr hofficial,
    fun item hitem => absurd hitem List.not_mem_nil⟩

theorem raised_ok {α : Type} {x : Except SnapshotError α} {a : α} : raised x = .ok a ↔ x = .ok a := by
  cases x <;> simp [raised]

/-- What an accepted payload has passed. -/
theorem fromEvidencePayload_ok {payload : Json} {digest : String} {rebuilt : NormalizedValuationSnapshot}
    (h : fromEvidencePayload rt payload digest = .ok rebuilt) :
    ∃ members canonical, payload = .object members ∧
      (Json.get members "official_eligible").isTrue = true ∧ rebuildSnapshot rt members = .ok rebuilt ∧
      rebuilt.1.canonicalPayload = .ok canonical ∧
      Json.sameMembers rt.equalNumbers canonical members = true ∧ rebuilt.digest rt = .ok digest := by
  unfold fromEvidencePayload at h
  cases payload with
  | object members =>
    simp only at h
    obtain ⟨-, h⟩ := except_guard_ok h
    obtain ⟨hofficial, h⟩ := except_guard_ok h
    obtain ⟨-, h⟩ := except_guard_ok h
    obtain ⟨snapshot, hsnapshot, h⟩ := except_bind_ok h
    obtain ⟨canonical, hcanonical, h⟩ := except_bind_ok h
    obtain ⟨hsame, h⟩ := except_guard_ok h
    obtain ⟨digest', hdigest, h⟩ := except_bind_ok h
    obtain ⟨hequal, h⟩ := except_guard_ok h
    cases h
    rw [not_not] at hequal
    rw [not_not, Json.same] at hsame
    exact ⟨members, canonical, rfl, Bool.not_eq_false _ ▸ hofficial, hsnapshot, raised_ok.mp hcanonical,
      hsame, hequal ▸ hdigest⟩
  | _ => cases h

/-- An accepted payload is the one of the valuation, with the count in some spelling. -/
theorem accepted_payload {payload : Json} {digest : String} {rebuilt : NormalizedValuationSnapshot}
    (h : fromEvidencePayload rt payload digest = .ok rebuilt) :
    ∃ canonical count, rebuilt.1.canonicalPayload = .ok canonical ∧ rebuilt.digest rt = .ok digest ∧
      payload = .object (setItem (codes "excluded_zero_count") count canonical) ∧
      Json.same rt.equalNumbers (.number (natLiteral rebuilt.1.excludedZeroCount)) count = true := by
  obtain ⟨members, canonical, rfl, htrue, hrebuild, hcanonical, hsame, hdigest⟩ :=
    fromEvidencePayload_ok h
  obtain ⟨rows, components, shares, navOverride, hrows, hcomponents, -, -, hpayload⟩ :=
    SnapshotFields.canonicalPayload_ok hcanonical
  obtain ⟨hlist, prices, holdings, sources, hreadPrices, hreadHoldings, hreadSources, hprices, hholdings,
    hsources, hofficial⟩ := rebuildSnapshot_ok hrebuild
  rw [hpayload] at hsame
  have hnodup := @SnapshotFields.nodup_items rebuilt.1 rows components shares navOverride
  generalize hitems : rebuilt.1.items rows components shares navOverride = items at hsame hnodup hpayload
  have hitem : ∀ item ∈ rebuilt.1.items rows components shares navOverride, item ∈ items :=
    fun item hmem => hitems ▸ hmem
  -- what the payload has under a name is equal to the item
  have hvalue : ∀ name value, (name, value) ∈ items → ∃ w, getItem (codes name) members = some w ∧
      Json.same rt.equalNumbers value w = true :=
    fun name value hmem => Json.getItem_of_sameMembers hsame (Json.getItem_display hnodup hmem)
  have hrowsRigid : Json.Rigid (.array rows) := Json.rigidItems_iff.mpr
    (forall_written hrows fun row _ v hv => RowFields.rigid_payload hv)
  have hcomponentsGet : getItem (codes "components") members = some (.array components) := by
    obtain ⟨w, hw, hequal⟩ := hvalue "components" (.array components)
      (hitem _ (by simp [SnapshotFields.items]))
    have hget : Json.get members "components" = w := by rw [Json.get, hw, Option.getD_some]
    have hlistSame : Json.same rt.equalNumbers (.array components) (Json.get members "components") =
        true := by rwa [hget]
    obtain ⟨vs, hvs, hread, hitemsSame⟩ := rebuildList_ok hlist hlistSame
    rw [hw, ← hget, hvs, components_eq hread hcomponents hitemsSame]
  have hofficialGet : getItem (codes "official_eligible") members = some (.ofBool true) := by
    unfold Json.get at htrue
    cases hget : getItem (codes "official_eligible") members with
    | none =>
      rw [hget] at htrue
      exact absurd htrue (by decide)
    | some v =>
      rw [hget, Option.getD_some] at htrue
      unfold Json.isTrue at htrue
      split at htrue
      · rfl
      · exact absurd htrue Bool.false_ne_true
  have hexact : ∀ item ∈ items, item.1 ≠ "excluded_zero_count" →
      Json.Rigid item.2 ∨ getItem (codes item.1) members = some item.2 := by
    rw [← hitems]
    refine SnapshotFields.items_exact hrowsRigid hcomponentsGet ?_ ?_ ?_ ?_
    · rw [hprices]
      exact get_evidence hnodup (hitem _ (by simp [SnapshotFields.items, hprices])) hsame hreadPrices
    · rw [hholdings]
      exact get_evidence hnodup (hitem _ (by simp [SnapshotFields.items, hholdings])) hsame
        hreadHoldings
    · rw [hsources]
      exact get_evidence hnodup (hitem _ (by simp [SnapshotFields.items, hsources])) hsame hreadSources
    · rw [hofficial]
      exact hofficialGet
  have hkey : codes "excluded_zero_count" ∈ (Json.display items).map Prod.fst :=
    Json.mem_keys_display.mpr ⟨"excluded_zero_count", List.mem_map.mpr
      ⟨_, hitem ("excluded_zero_count", .number (natLiteral rebuilt.1.excludedZeroCount))
        (by simp [SnapshotFields.items]), rfl⟩, rfl⟩
  obtain ⟨count, hcount, hset⟩ := Json.eq_setItem_of_sameMembers Json.pairwise_display hsame hkey (by
    intro member hmember hne
    obtain ⟨item, hmem, rfl⟩ := Json.mem_display hmember
    exact hexact item hmem fun heq => hne (congrArg codes heq))
  refine ⟨Json.display items, count, hcanonical.trans (congrArg Except.ok hpayload), hdigest,
    congrArg Json.object hset, ?_⟩
  obtain ⟨w, hw, hequal⟩ := hvalue "excluded_zero_count"
    (.number (natLiteral rebuilt.1.excludedZeroCount)) (hitem _ (by simp [SnapshotFields.items]))
  rw [hcount] at hw
  exact Option.some.inj hw ▸ hequal

/-! ## Round trip -/

/-- An issued valuation is rebuilt from its payload, written as JSON and read back, with its payload and
digest. An accepted payload is the one of the valuation with its count in some spelling, so two accepted
payloads of one valuation have one digest and differ in that spelling only. -/
theorem evidence_round_trips (hnumbers : ∀ n, rt.equalNumbers n n = true)
    (hint : ∀ n : Nat, rt.int (.number (natLiteral n)) = some (n : Int)) :
    (∀ (snapshot : NormalizedValuationSnapshot) (payload : Members) (digest : String),
      snapshot.1.Issued → snapshot.1.canonicalPayload = .ok payload → snapshot.digest rt = .ok digest →
      ∃ read rebuilt, loads (render (.object payload)) = some read ∧
        fromEvidencePayload rt read digest = .ok rebuilt ∧
        rebuilt.1.canonicalPayload = .ok payload ∧ rebuilt.digest rt = .ok digest) ∧
    (∀ (payload : Json) (digest : String) (rebuilt : NormalizedValuationSnapshot),
      fromEvidencePayload rt payload digest = .ok rebuilt →
      ∃ canonical count, rebuilt.1.canonicalPayload = .ok canonical ∧ rebuilt.digest rt = .ok digest ∧
        payload = .object (setItem (codes "excluded_zero_count") count canonical) ∧
        Json.same rt.equalNumbers (.number (natLiteral rebuilt.1.excludedZeroCount)) count = true) ∧
    (∀ (payload payload' : Json) (digest digest' : String) (rebuilt rebuilt' : NormalizedValuationSnapshot),
      fromEvidencePayload rt payload digest = .ok rebuilt →
      fromEvidencePayload rt payload' digest' = .ok rebuilt' →
      rebuilt.1.canonicalPayload = rebuilt'.1.canonicalPayload →
      digest = digest' ∧ ∃ members count count',
        payload = .object (setItem (codes "excluded_zero_count") count members) ∧
        payload' = .object (setItem (codes "excluded_zero_count") count' members)) := by
  refine ⟨fun snapshot payload digest hissued hpayload hdigest => ?_,
    fun payload digest rebuilt h => accepted_payload h,
    fun payload payload' digest digest' rebuilt rebuilt' h h' hequal => ?_⟩
  · obtain ⟨rebuilt, hrebuilt, hagain⟩ := fromEvidencePayload_eq hnumbers hint hissued hpayload hdigest
    exact ⟨.object payload, rebuilt, loads_render _ (SnapshotFields.canonical_payload hissued hpayload),
      hrebuilt, hagain⟩
  · obtain ⟨members, count, hcanonical, hdigest, hpayload, -⟩ := accepted_payload h
    obtain ⟨members', count', hcanonical', hdigest', hpayload', -⟩ := accepted_payload h'
    have hmembers : members = members' :=
      Except.ok.inj (hcanonical.symm.trans (hequal.trans hcanonical'))
    have hdigests : rebuilt.digest rt = rebuilt'.digest rt := by
      unfold NormalizedValuationSnapshot.digest
      rw [hequal]
    refine ⟨Except.ok.inj (hdigest.symm.trans (hdigests.trans hdigest')), members, count, count', hpayload,
      ?_⟩
    rw [hmembers]
    exact hpayload'

/-! ## Concrete valuations -/

/-- A runtime whose digest is a checksum of the text. -/
def checksumRuntime : EvidenceRuntime where
  sha256 j := String.ofList (Nat.toDigits 16 ((render j).foldl (fun n c => (n * 257 + c) % 2 ^ 61) 0))
  repr _ := []
  pairs _ := none
  float _ := none
  equalNumbers m n := m == n
  isDate _ := true
  int v :=
    match v with
    | .number literal => some (literalNat literal)
    | .word .true => some 1
    | .word .false => some 0
    | _ => none

/-- Ten shares, worth 1.25 each. -/
def tenShares (recordId : String) (price : Decimal) : RowFields where
  recordId := some recordId
  account := "main"
  assetId := "000001"
  assetName := ""
  assetType := "cn_stock"
  normalizedType := "equity"
  broker := ""
  quantity := ⟨1000000000, -8⟩
  avgCost := none
  currency := "CNY"
  assetClass := none
  industry := none
  tags := ["core"]
  price := some price
  cnyPrice := some ⟨125, -2⟩
  marketValueCny := some ⟨1250, -2⟩
  source := "record_nav"

theorem tenShares_valid (recordId : String) {price : Decimal} (h : 0 < price.coefficient) :
    (tenShares recordId price).valid = true := by
  have hmarketValue : (((⟨1000000000, -8⟩ : Decimal).mul ⟨125, -2⟩).quantize (-2)) = some 1250 := by
    decide +kernel
  refine RowFields.valid_of_ok (c := 1000000000) (by decide +kernel) rfl (by decide) ?_
    (fun text htext => ?_)
  · unfold RowFields.pricesOk tenShares
    simp only [hmarketValue, h]
    decide
  · simp only [tenShares, List.mem_cons, List.not_mem_nil, or_false] at htext
    rcases htext with rfl | rfl | rfl | rfl | rfl <;> decide +kernel

/-- A valuation of one row, with one excluded key. -/
def oneRow (official : Bool) (recordId : String) (price : Decimal) (h : 0 < price.coefficient) :
    SnapshotFields where
  account := "main"
  rows := [⟨tenShares recordId price, tenShares_valid recordId h⟩]
  components := []
  shares := some ⟨1000, -2⟩
  navOverride := none
  priceEvidence := .object []
  holdingsProvenance := .object []
  warnings := []
  excludedZeroCount := 1
  excludedZeroKeyDigest := String.ofList (List.replicate 64 '0')
  source := "valuation_service"
  sourceProvenance := .object []
  official := official

theorem oneRow_valid (official : Bool) (recordId : String) (price : Decimal)
    (h : 0 < price.coefficient) : (oneRow official recordId price h).valid = true := by
  refine SnapshotFields.valid_iff.mpr ⟨?_, ?_, ?_, ?_, ?_, ?_, ?_⟩
  · show strip "main" ≠ ""
    decide +kernel
  · show (String.ofList (List.replicate 64 '0')).length = 64
    decide +kernel
  · show strip "valuation_service" ≠ ""
    decide +kernel
  · exact List.forall_mem_singleton.mpr rfl
  · exact List.nodup_singleton _
  · exact List.nodup_nil
  · intro shares hshares
    cases hshares
    decide

/-- Whether a valuation is rebuilt from its payload and digest, with its count written as some value. -/
def rebuilds (snapshot : NormalizedValuationSnapshot) (count : Option Json) : Bool :=
  match snapshot.1.canonicalPayload, snapshot.digest checksumRuntime with
  | .ok payload, .ok digest =>
    let payload := count.elim payload fun count => setItem (codes "excluded_zero_count") count payload
    (fromEvidencePayload checksumRuntime (.object payload) digest).isOk
  | _, _ => false

/-- A valuation nobody issued, one with an unstripped record id and one with a price of 32 digits are not
rebuilt from their own payloads; an issued one is also rebuilt with the count written as `true`. -/
theorem valuations_refused_and_respelled :
    rebuilds ⟨_, oneRow_valid false "rec1" ⟨125, -2⟩ (by decide)⟩ none = false ∧
    rebuilds ⟨_, oneRow_valid true " rec1" ⟨125, -2⟩ (by decide)⟩ none = false ∧
    rebuilds ⟨_, oneRow_valid true "rec1" ⟨12345678901234567890123456789015, -1⟩ (by decide)⟩ none =
      false ∧
    rebuilds ⟨_, oneRow_valid true "rec1" ⟨125, -2⟩ (by decide)⟩ (some (.word .true)) = true := by
  refine ⟨?_, ?_, ?_, ?_⟩ <;> decide +kernel

theorem exists_ok_of_isOk {ε α : Type} {x : Except ε α} (h : x.isOk = true) : ∃ a, x = .ok a := by
  cases x with
  | error e => cases h
  | ok a => exact ⟨a, rfl⟩

/-- The issued valuation is rebuilt. -/
theorem one_row_is_rebuilt : ∃ payload digest read rebuilt,
    (oneRow true "rec1" ⟨125, -2⟩ (by decide)).canonicalPayload = .ok payload ∧
    loads (render (.object payload)) = some read ∧
    fromEvidencePayload checksumRuntime read digest = .ok rebuilt := by
  let snapshot : NormalizedValuationSnapshot := ⟨_, oneRow_valid true "rec1" ⟨125, -2⟩ (by decide)⟩
  obtain ⟨payload, hpayload⟩ := exists_ok_of_isOk (x := snapshot.1.canonicalPayload) (by decide +kernel)
  obtain ⟨digest, hdigest⟩ := exists_ok_of_isOk (x := snapshot.digest checksumRuntime) (by decide +kernel)
  have hobject : IsObject (.object []) := ⟨⟨[], rfl⟩, List.Pairwise.nil, trivial⟩
  have hshort : (⟨125, -2⟩ : Decimal).Fits := Decimal.Short.fits (by decide)
  have hcarried : (tenShares "rec1" ⟨125, -2⟩).Carried := by
    refine ⟨?_, ?_, ?_, ?_⟩ <;> intro x hx <;> cases hx
    · decide +kernel
    · exact hshort
    · exact hshort
  have hissued : snapshot.1.Issued := by
    refine ⟨rfl, rfl, ?_, ?_, ?_, ?_, hobject, hobject, hobject⟩
    · exact List.forall_mem_singleton.mpr hcarried
    · exact fun component hcomponent => absurd hcomponent List.not_mem_nil
    · intro x hx
      cases hx
      exact Decimal.Short.fits (by decide)
    · intro x hx
      cases hx
  have hnumbers : ∀ n, checksumRuntime.equalNumbers n n = true := fun n => by simp [checksumRuntime]
  have hint : ∀ n : Nat, checksumRuntime.int (.number (natLiteral n)) = some (n : Int) :=
    fun n => by simp [checksumRuntime, literalNat_natLiteral]
  obtain ⟨read, rebuilt, hread, hrebuilt, -⟩ :=
    (evidence_round_trips hnumbers hint).1 snapshot payload digest hissued hpayload hdigest
  exact ⟨payload, digest, read, rebuilt, hpayload, hread, hrebuilt⟩

end PortfolioManagement.Valuation
