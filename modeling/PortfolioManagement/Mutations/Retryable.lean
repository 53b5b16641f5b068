import PortfolioManagement.Lib.Lists
import PortfolioManagement.Mutations.Recovery
import PortfolioManagement.Mutations.RoundTrip

/-!
# A recorded cash target can be retried

A canonical row is the canonical row of itself: its parts are canonical and its cost is rounded. So the
target a confirmation records, the mutation it writes and the row built again from the mutation have one
serialized state, and a row that is still in the state before, or already in the target state, is not
refused.
-/

namespace PortfolioManagement.Mutations

open Json (text optionalText display)

section
variable {rt : MutationRuntime}

/-! ## Canonical rows -/

theorem raw_canonicalRow (recordId : Option Name) (identity : HoldingIdentity) (v : HoldingValues rt)
    (createdAt updatedAt : Option String) :
    (canonicalRow recordId identity v createdAt updatedAt).raw = v.raw := by
  funext field
  cases field with
  | avgCost =>
    show (v.avgCost.map ModelFloat.finite).elim Json.none ModelFloat.json =
      v.avgCost.elim Json.none FiniteFloat.json
    cases v.avgCost <;> rfl
  | _ => rfl

theorem holdingValues_canonicalRow (recordId : Option Name) (identity : HoldingIdentity)
    (v : HoldingValues rt) (createdAt updatedAt : Option String) :
    holdingValues rt (canonicalRow recordId identity v createdAt updatedAt) = .ok v := by
  unfold holdingValues
  rw [raw_canonicalRow, canonicalValues_raw]

theorem fromHolding_canonicalRow (recordId : Option Name) (identity : HoldingIdentity)
    (v : HoldingValues rt) (createdAt updatedAt : Option String) :
    HoldingIdentity.fromHolding rt (canonicalRow recordId identity v createdAt updatedAt) =
      .ok identity := by
  unfold HoldingIdentity.fromHolding HoldingIdentity.make
  show (requiredText rt "asset_id" (text identity.assetId.1) >>= fun assetId =>
    requiredText rt "account" (text identity.account.1) >>= fun account =>
      requiredText rt "broker" (text identity.broker.1) >>= fun broker =>
        pure (⟨assetId, account, broker⟩ : HoldingIdentity)) = .ok identity
  rw [requiredText_name, requiredText_name, requiredText_name]
  rfl

/-- Rounding a rounded cost changes nothing. -/
theorem roundedCost_again {cost cost' : Option (FiniteFloat rt.toNumberRuntime)}
    (h : roundedCost rt cost = .ok cost') : roundedCost rt cost' = .ok cost' := by
  unfold roundedCost at h
  split at h
  next => cases h; rfl
  next x =>
    split at h
    next => cases h
    next y hy =>
      cases h
      simp only [roundedCost, rt.quantize_again x y hy]

/-- Values whose cost is rounded and whose selects are registered. -/
structure Settled (v : HoldingValues rt) : Prop where
  registered : v.Registered
  rounded : roundedCost rt v.avgCost = .ok v.avgCost

/-- What canonical form a row has. -/
theorem canonicalHolding_ok {h c : Holding rt} (hc : canonicalHolding rt h = .ok c) :
    ∃ identity v, HoldingIdentity.fromHolding rt h = .ok identity ∧ Settled v ∧
      c = canonicalRow (strippedId h.recordId) identity v h.createdAt h.updatedAt ∧
      ∃ v₀, holdingValues rt h = .ok v₀ ∧ roundedCost rt v₀.avgCost = .ok v.avgCost ∧
        v = { v₀ with avgCost := v.avgCost } := by
  unfold canonicalHolding at hc
  obtain ⟨identity, hidentity, hc⟩ := except_bind_ok hc
  obtain ⟨v₀, hv₀, hc⟩ := except_bind_ok hc
  obtain ⟨hregistered, hc⟩ := except_guard_ok hc
  unfold buildHolding at hc
  obtain ⟨cost, hcost, hc⟩ := except_bind_ok hc
  cases hc
  exact ⟨identity, { v₀ with avgCost := cost }, hidentity, ⟨not_not.mp hregistered, roundedCost_again hcost⟩,
    rfl, v₀, hv₀, hcost, rfl⟩

/-- A row of settled parts is canonical. -/
theorem canonicalHolding_canonicalRow (recordId : Option Name) (identity : HoldingIdentity)
    {v : HoldingValues rt} (hv : Settled v) (createdAt updatedAt : Option String) :
    canonicalHolding rt (canonicalRow recordId identity v createdAt updatedAt) =
      .ok (canonicalRow recordId identity v createdAt updatedAt) := by
  have hid : strippedId (canonicalRow recordId identity v createdAt updatedAt).recordId = recordId :=
    strippedId_name recordId
  unfold canonicalHolding
  rw [fromHolding_canonicalRow, holdingValues_canonicalRow, hid]
  simp only [bind, Except.bind]
  rw [if_neg (not_not.mpr hv.registered)]
  simp only [buildHolding, hv.rounded, bind, Except.bind]
  rfl

/-! ## The mutation of a confirmation -/

/-- A digest is a name. -/
theorem validName_holdingStateDigest {h : Holding rt} {digest : String}
    (hdigest : holdingStateDigest rt h = .ok digest) : ValidName digest := by
  unfold holdingStateDigest at hdigest
  obtain ⟨identity, -, hdigest⟩ := except_bind_ok hdigest
  obtain ⟨v, -, hdigest⟩ := except_bind_ok hdigest
  cases hdigest
  exact rt.validName_sha256 _

/-- The mutation is bound to the row before. -/
def BoundTo (m : HoldingTarget rt) : Option (Holding rt) → Prop
  | none => m.baseRecordId = none
  | some before => ∃ canonical recordId, canonicalHolding rt before = .ok canonical ∧
      m.baseRecordId = some recordId ∧
      requiredText rt "base holding record_id" (optionalText canonical.recordId) = .ok recordId ∧
      holdingStateDigest rt canonical = .ok m.baseDigest.1

/-- What a mutation is made of. -/
theorem fromHoldings_ok {base : Option (Holding rt)} {target : Holding rt} {owned : List HoldingField}
    {m : HoldingTarget rt} (h : HoldingTarget.fromHoldings rt base target owned = .ok m) :
    Settled m.values ∧ HoldingIdentity.fromHolding rt target = .ok m.identity ∧
      canonicalHolding rt target = .ok (canonicalRow (strippedId target.recordId) m.identity m.values
        target.createdAt target.updatedAt) ∧ BoundTo m base := by
  unfold HoldingTarget.fromHoldings at h
  obtain ⟨c, hc, h⟩ := except_bind_ok h
  obtain ⟨identity, v, hidentity, hsettled, rfl, -⟩ := canonicalHolding_ok hc
  obtain ⟨own, hown, h⟩ := except_bind_ok h
  rw [fromHolding_canonicalRow] at hown
  cases hown
  obtain ⟨values, hvalues, h⟩ := except_bind_ok h
  rw [holdingValues_canonicalRow] at hvalues
  cases hvalues
  cases base with
  | none =>
    have hmake : HoldingTarget.ofParts rt identity v (HoldingField.sorted.filter (· ∈ owned)) none
        ⟨emptyHoldingDigest rt, rt.validName_sha256 _⟩ = .ok m := by
      rw [← make_fieldDict]
      exact h
    obtain ⟨rfl, rfl, -, hrecord, -⟩ := ofParts_ok hmake
    exact ⟨hsettled, hidentity, hc, hrecord⟩
  | some base =>
    obtain ⟨cb, hcb, h⟩ := except_bind_ok h
    obtain ⟨baseIdentity, -, h⟩ := except_bind_ok h
    obtain ⟨-, h⟩ := except_guard_ok h
    obtain ⟨baseValues, -, h⟩ := except_bind_ok h
    obtain ⟨-, h⟩ := except_guard_ok h
    obtain ⟨recordId, hrecordId, h⟩ := except_bind_ok h
    obtain ⟨digest, hdigest, h⟩ := except_bind_ok h
    have hmake : HoldingTarget.ofParts rt identity v (HoldingField.sorted.filter (· ∈ owned))
        (some recordId) ⟨digest, validName_holdingStateDigest hdigest⟩ = .ok m := by
      rw [← make_fieldDict]
      exact h
    obtain ⟨rfl, rfl, -, hrecord, hown⟩ := ofParts_ok hmake
    refine ⟨hsettled, hidentity, hc, cb, recordId, hcb, hrecord, hrecordId, ?_⟩
    rw [hown]
    exact hdigest

/-! ## The recorded states -/

theorem stateItems_canonicalRow (recordId recordId' : Option Name) (identity : HoldingIdentity)
    (v : HoldingValues rt) (createdAt updatedAt createdAt' updatedAt' : Option String) :
    stateItems rt (canonicalRow recordId identity v createdAt updatedAt) =
      stateItems rt (canonicalRow recordId' identity v createdAt' updatedAt') := by
  unfold stateItems
  rw [raw_canonicalRow, raw_canonicalRow]
  rfl

/-- The state a row of settled parts is serialized to. -/
def stateOf (identity : HoldingIdentity) (v : HoldingValues rt) : Json :=
  .object (display (stateItems rt (canonicalRow none identity v none none)))

theorem serializeHolding_of_canonical {h : Holding rt} {recordId : Option Name}
    {identity : HoldingIdentity} {v : HoldingValues rt} {createdAt updatedAt : Option String}
    (hc : canonicalHolding rt h = .ok (canonicalRow recordId identity v createdAt updatedAt)) :
    serializeHolding rt (some h) = .ok (stateOf identity v) := by
  show (canonicalHolding rt h >>= fun canonical =>
    pure (Json.object (display (stateItems rt canonical)))) = _
  rw [hc, stateOf, stateItems_canonicalRow none recordId identity v none none createdAt updatedAt]
  rfl

/-- The row built of a mutation has the state of the mutation's values. -/
theorem toHolding_state {m : HoldingTarget rt} (hm : Settled m.values) :
    ∃ holding, m.toHolding = .ok holding ∧
      serializeHolding rt (some holding) = .ok (stateOf m.identity m.values) := by
  refine ⟨canonicalRow m.baseRecordId m.identity m.values none none, ?_,
    serializeHolding_of_canonical (canonicalHolding_canonicalRow _ _ hm none none)⟩
  unfold HoldingTarget.toHolding buildHolding
  rw [hm.rounded]
  rfl

/-- What is recorded. -/
theorem cashTarget_ok {before : Option (Holding rt)} {confirmed : Holding rt} {task : CashTarget rt}
    (h : cashTarget rt before confirmed = .ok task) :
    Settled task.mutation.values ∧ BoundTo task.mutation before ∧
      task.target = stateOf task.mutation.identity task.mutation.values ∧
      serializeHolding rt before = .ok task.before ∧
      ∃ assetId account broker, task.identity = display [("asset_id", text assetId),
        ("account", text account), ("broker", text broker)] ∧
        HoldingIdentity.make rt (text assetId) (text account) (text broker) =
          .ok task.mutation.identity := by
  unfold cashTarget at h
  obtain ⟨target, -, h⟩ := except_bind_ok h
  obtain ⟨m, hm, h⟩ := except_bind_ok h
  obtain ⟨payload, hpayload, h⟩ := except_bind_ok h
  obtain ⟨state, hstate, h⟩ := except_bind_ok h
  cases h
  obtain ⟨hsettled, hidentity, hc, hbound⟩ := fromHoldings_ok hm
  rw [serializeHolding_of_canonical hc] at hpayload
  cases hpayload
  exact ⟨hsettled, hbound, rfl, hstate, _, _, _, rfl, hidentity⟩

/-! ## Comparing states -/

/-- The names of a state. -/
theorem names_stateItems (h : Holding rt) : (stateItems rt h).map Prod.fst =
    ["asset_id", "asset_name", "asset_type", "account", "broker", "quantity", "avg_cost", "currency",
      "asset_class", "industry", "tag"] := rfl

theorem getItem_state {h : Holding rt} {name : String} {value : Json}
    (hmem : (name, value) ∈ stateItems rt h) :
    getItem (codes name) (display (stateItems rt h)) = some value :=
  Json.getItem_display (by rw [names_stateItems]; decide) hmem

/-- Equal states are equal item by item. -/
theorem same_of_same_states {h h' : Holding rt} {name : String} {value value' : Json}
    (hsame : Json.same rt.equalNumbers (.object (display (stateItems rt h)))
      (.object (display (stateItems rt h'))) = true)
    (hmem : (name, value) ∈ stateItems rt h) (hmem' : (name, value') ∈ stateItems rt h') :
    Json.same rt.equalNumbers value value' = true := by
  rw [Json.same] at hsame
  obtain ⟨w, hw, heq⟩ := Json.getItem_of_sameMembers hsame (getItem_state hmem)
  rw [getItem_state hmem'] at hw
  cases hw
  exact heq

theorem raw_mem_stateItems (h : Holding rt) (field : HoldingField) :
    (field.name, h.raw field) ∈ stateItems rt h := by
  cases field <;> simp [stateItems, HoldingField.name]

/-- A dict of other than one key is no choice of states. -/
theorem stateMatches_object {current : Json} : ∀ {members : Members}, members.length ≠ 1 →
    stateMatches rt current (.object members) = .ok (Json.same rt.equalNumbers current (.object members))
  | [], _ => by unfold stateMatches; rfl
  | [_], h => absurd rfl h
  | _ :: _ :: _, _ => by unfold stateMatches; rfl

theorem length_state (h : Holding rt) : (display (stateItems rt h)).length ≠ 1 := by
  intro hone
  obtain ⟨member, hsingle⟩ := List.length_eq_one_iff.mp hone
  have hkey : ∀ name ∈ ["asset_id", "broker"], codes name = member.1 := by
    intro name hname
    have hmem : codes name ∈ (display (stateItems rt h)).map Prod.fst := by
      rw [Json.mem_keys_display, names_stateItems]
      refine ⟨name, ?_, rfl⟩
      rcases List.mem_pair.mp hname with rfl | rfl <;> decide
    rw [hsingle] at hmem
    simpa using hmem
  have hsame := (hkey "asset_id" (by decide)).trans (hkey "broker" (by decide)).symm
  exact absurd (codes_inj.mp hsame) (by decide)

/-! ## The retry -/

/-- The row is in the state before. -/
theorem stateMatches_before {before : Option (Holding rt)} {state current : Json}
    (h : serializeHolding rt before = .ok state) :
    stateMatches rt current state = .ok (Json.same rt.equalNumbers current state) := by
  cases before with
  | none =>
    cases h
    unfold stateMatches
    rfl
  | some before =>
    obtain ⟨c, hc, h⟩ := except_bind_ok h
    cases h
    exact stateMatches_object (length_state c)

/-- Whether the owned fields match can be told of a row that has a state. -/
theorem holdingOwnedFieldsMatch_ok {h : Holding rt} {m : HoldingTarget rt} {state : Json}
    (hstate : serializeHolding rt (some h) = .ok state) :
    ∃ applied, holdingOwnedFieldsMatch rt h m = .ok applied ∧
      (Json.same rt.equalNumbers state (stateOf m.identity m.values) = true → applied = true) := by
  obtain ⟨c, hc, hstate⟩ := except_bind_ok hstate
  cases hstate
  obtain ⟨identity, v, -, hsettled, rfl, -⟩ := canonicalHolding_ok hc
  unfold holdingOwnedFieldsMatch
  rw [hc]
  simp only [fromHolding_canonicalRow, holdingValues_canonicalRow, refused, bind, Except.bind]
  by_cases hidentity : identity = m.identity
  · rw [if_neg (not_not.mpr hidentity)]
    refine ⟨_, rfl, fun hsame => List.all_eq_true.mpr fun field _ => ?_⟩
    have hfield := same_of_same_states hsame (raw_mem_stateItems _ field) (raw_mem_stateItems _ field)
    rw [raw_canonicalRow, raw_canonicalRow] at hfield
    exact hfield
  · rw [if_pos hidentity]
    refine ⟨false, rfl, fun hsame => absurd ?_ hidentity⟩
    have hname : ∀ name (a b : Name),
        (name, text a) ∈ stateItems rt (canonicalRow (strippedId h.recordId) identity v h.createdAt
          h.updatedAt) →
        (name, text b) ∈ stateItems rt (canonicalRow none m.identity m.values none none) → a = b := by
      intro name a b ha hb
      have htext := Json.same_text.mp (same_of_same_states hsame ha hb)
      exact Subtype.ext (Json.text_inj.mp htext)
    have hasset := hname "asset_id" identity.assetId m.identity.assetId (by simp [stateItems, canonicalRow])
      (by simp [stateItems, canonicalRow])
    have haccount := hname "account" identity.account m.identity.account (by simp [stateItems, canonicalRow])
      (by simp [stateItems, canonicalRow])
    have hbroker := hname "broker" identity.broker m.identity.broker (by simp [stateItems, canonicalRow])
      (by simp [stateItems, canonicalRow])
    cases identity
    cases hm : m.identity
    rw [hm] at hasset haccount hbroker
    simp only at hasset haccount hbroker
    rw [hasset, haccount, hbroker]

/-- The parts of a recorded target. -/
structure RecordOf (task : CashTarget rt) (members : Members) : Prop where
  type : Json.get members "type" = text "CASH_TARGET_SET"
  identity : Json.get members "identity" = .object task.identity
  before : Json.get members "before" = task.before
  target : Json.get members "target" = task.target
  mutation : Json.get members "mutation" = .object task.mutation.toPayload

theorem recordOf_recorded (task : CashTarget rt) : RecordOf task task.recorded := by
  have hget : ∀ name value, (name, value) ∈ [("type", text "CASH_TARGET_SET"),
      ("identity", Json.object task.identity), ("before", task.before), ("target", task.target),
      ("mutation", .object task.mutation.toPayload)] → Json.get task.recorded name = value :=
    fun name value hmem =>
      Json.get_display (show ["type", "identity", "before", "target", "mutation"].Nodup by decide) hmem
  exact ⟨hget "type" _ (by simp), hget "identity" _ (by simp), hget "before" _ (by simp),
    hget "target" _ (by simp), hget "mutation" _ (by simp)⟩

theorem dictOrEmpty_object (members : Members) : dictOrEmpty (.object members) = .ok members := by
  cases members <;> rfl

/-- A row that is set is not refused in the state before or in the target state. -/
theorem applyTargetSet_accepts {m : HoldingTarget rt} (hm : Settled m.values)
    {before : Option (Holding rt)} {recorded state : Json} (hbefore : serializeHolding rt before = .ok recorded)
    {current : Option (Holding rt)} (hstate : serializeHolding rt current = .ok state)
    (hin : Json.same rt.equalNumbers state recorded = true ∨
      Json.same rt.equalNumbers state (stateOf m.identity m.values) = true) :
    applyTargetSet rt m recorded (stateOf m.identity m.values) state current = .ok .alreadyApplied ∨
      applyTargetSet rt m recorded (stateOf m.identity m.values) state current = .ok (.replace m) := by
  obtain ⟨holding, hholding, hserialized⟩ := toHolding_state hm
  have hself : Json.same rt.equalNumbers (stateOf m.identity m.values) (stateOf m.identity m.values) =
      true := Json.same_self rt.equalNumbers_self _
  unfold applyTargetSet
  rw [hholding, show refused (.ok holding) = .ok holding from rfl]
  simp only [bind, Except.bind]
  rw [hserialized, show refused (.ok (stateOf m.identity m.values)) = .ok (stateOf m.identity m.values)
    from rfl]
  simp only [hself, Bool.true_eq_false, if_false]
  rw [stateMatches_before hbefore]
  cases current with
  | none =>
    have hunchanged : Json.same rt.equalNumbers state recorded = true := by
      refine hin.resolve_right fun htarget => ?_
      cases hstate
      cases htarget
    simp only [hunchanged]
    exact .inr rfl
  | some current =>
    obtain ⟨applied, happlied, hdone⟩ := holdingOwnedFieldsMatch_ok (m := m) hstate
    simp only [happlied]
    cases applied with
    | true => exact .inl rfl
    | false =>
      have hunchanged : Json.same rt.equalNumbers state recorded = true :=
        hin.resolve_right fun htarget => Bool.false_ne_true (hdone htarget)
      simp only [hunchanged]
      exact .inr rfl

/-- A recorded target is not refused in the state before or in the target state. -/
theorem applyHoldingTarget_accepts {before : Option (Holding rt)} {confirmed : Holding rt}
    {task : CashTarget rt} (h : cashTarget rt before confirmed = .ok task) {rows : List (Holding rt)}
    {current : Option (Holding rt)} {state : Json}
    (hcurrent : getHoldingFresh rt rows task.mutation.identity = .ok current)
    (hstate : serializeHolding rt current = .ok state)
    (hin : Json.same rt.equalNumbers state task.before = true ∨
      Json.same rt.equalNumbers state task.target = true) :
    applyHoldingTarget rt rows task.recorded = .ok .alreadyApplied ∨
      applyHoldingTarget rt rows task.recorded = .ok (.replace task.mutation) := by
  obtain ⟨hsettled, -, htarget, hbefore, assetId, account, broker, hidentity, hmake⟩ := cashTarget_ok h
  have hrecord := recordOf_recorded task
  have hget : ∀ name value, (name, value) ∈ [("asset_id", text assetId), ("account", text account),
      ("broker", text broker)] → Json.get task.identity name = value := by
    intro name value hmem
    rw [hidentity]
    exact Json.get_display (show ["asset_id", "account", "broker"].Nodup by decide) hmem
  have htype : Json.same rt.equalNumbers (text "CASH_TARGET_SET") (text "HOLDING_ZERO_DELETE") = false := by
    rw [Bool.eq_false_iff, Ne, Json.same_text, Json.text_inj]
    decide
  unfold applyHoldingTarget
  rw [hrecord.identity, hrecord.mutation, hrecord.type, hrecord.before, hrecord.target,
    dictOrEmpty_object, dictOrEmpty_object]
  simp only [bind, Except.bind]
  rw [hget "asset_id" (text assetId) (by simp), hget "account" (text account) (by simp),
    hget "broker" (text broker) (by simp), hmake, fromPayload_toPayload]
  simp only [refused]
  rw [if_neg (by simp), freshHolding, hcurrent]
  simp only [hstate]
  rw [htarget] at hin
  rw [htype, htarget]
  exact applyTargetSet_accepts hsettled hbefore hstate hin

/-- The fresh row is the one that was read before; the rows of an account are read with a finite and
rounded cost. -/
def Unchanged (rt : MutationRuntime) : Option (Holding rt) → Option (Holding rt) → Prop
  | none, none => True
  | some row, some before => canonicalHolding rt row = .ok before ∧ row.recordId = before.recordId ∧
      ∀ cost, row.avgCost = some cost → ∃ x, cost = .finite x ∧ rt.quantize x = some x
  | _, _ => False

theorem avgCost_of_holdingValues {row : Holding rt} {v : HoldingValues rt}
    (h : holdingValues rt row = .ok v) :
    clearable (finiteNumber rt "avg_cost") (row.avgCost.elim Json.none ModelFloat.json) =
      .ok v.avgCost := by
  unfold holdingValues canonicalValues at h
  obtain ⟨-, -, h⟩ := except_bind_ok h
  obtain ⟨assetName, -, h⟩ := except_bind_ok h
  obtain ⟨-, -, h⟩ := except_bind_ok h
  obtain ⟨assetType, -, h⟩ := except_bind_ok h
  obtain ⟨-, -, h⟩ := except_bind_ok h
  obtain ⟨quantity, -, h⟩ := except_bind_ok h
  obtain ⟨avgCost, hcost, h⟩ := except_bind_ok h
  obtain ⟨-, -, h⟩ := except_bind_ok h
  obtain ⟨currency, -, h⟩ := except_bind_ok h
  obtain ⟨assetClass, -, h⟩ := except_bind_ok h
  obtain ⟨industry, -, h⟩ := except_bind_ok h
  obtain ⟨-, -, h⟩ := except_bind_ok h
  obtain ⟨tag, -, h⟩ := except_bind_ok h
  cases h
  exact hcost

/-- The values of a row whose cost is rounded are those of its canonical form. -/
theorem holdingValues_of_rounded {row : Holding rt} {v₀ : HoldingValues rt}
    {cost : Option (FiniteFloat rt.toNumberRuntime)} (h : holdingValues rt row = .ok v₀)
    (hrounded : ∀ cost, row.avgCost = some cost → ∃ x, cost = .finite x ∧ rt.quantize x = some x)
    (hcost : roundedCost rt v₀.avgCost = .ok cost) : v₀.avgCost = cost := by
  have hread := avgCost_of_holdingValues h
  cases hrow : row.avgCost with
  | none =>
    rw [hrow] at hread
    have hnone : none = v₀.avgCost := Except.ok.inj hread
    rw [← hnone] at hcost ⊢
    exact Except.ok.inj hcost
  | some own =>
    obtain ⟨x, rfl, hx⟩ := hrounded own hrow
    rw [hrow] at hread
    have hsome : (finiteNumber rt "avg_cost" x.json).map some = .ok v₀.avgCost := hread
    rw [finiteNumber_json] at hsome
    have hsome : some x = v₀.avgCost := Except.ok.inj hsome
    rw [← hsome] at hcost ⊢
    simp only [roundedCost, hx] at hcost
    exact Except.ok.inj hcost

theorem requiredText_none (field : String) :
    requiredText rt field Json.none = .error (.required field) := by
  unfold requiredText
  rw [show Json.none.strOrEmpty rt.repr = codes "" from rfl, textOf?_codes]
  rfl

/-- A row that is as it was read before is the base of the mutation. -/
theorem freshBaseForTarget_unchanged {before : Option (Holding rt)} {m : HoldingTarget rt}
    (hbound : BoundTo m before) {rows : List (Holding rt)} {current : Option (Holding rt)}
    (hcurrent : findHoldingIdentity rt rows m.identity = .ok current)
    (hunchanged : Unchanged rt current before) : freshBaseForTarget rt rows m = .ok current := by
  unfold freshBaseForTarget
  rw [hcurrent]
  cases before with
  | none =>
    cases current with
    | none =>
      have hnone : m.baseRecordId = none := hbound
      rw [hnone]
      rfl
    | some row => cases hunchanged
  | some before =>
    cases current with
    | none => cases hunchanged
    | some row =>
      obtain ⟨hcanonical, hid, hrounded⟩ := hunchanged
      obtain ⟨identity, v, hidentity, hsettled, hbefore, v₀, hv₀, hcost, hv⟩ :=
        canonicalHolding_ok hcanonical
      have hsame : v₀ = v := by
        rw [hv, ← holdingValues_of_rounded hv₀ hrounded hcost]
      obtain ⟨cb, recordId, hcb, hrecord, hrequired, hdigest⟩ := hbound
      rw [hbefore, canonicalHolding_canonicalRow _ _ hsettled] at hcb
      cases hcb
      -- the record id is the one the row has
      have hrecordId : row.recordId = some recordId.1 := by
        rw [hid, hbefore]
        have hown : (canonicalRow (strippedId row.recordId) identity v row.createdAt
          row.updatedAt).recordId = (strippedId row.recordId).map Subtype.val := rfl
        rw [hown] at hrequired ⊢
        cases hname : strippedId row.recordId with
        | none =>
          rw [hname, show optionalText ((none : Option Name).map Subtype.val) = Json.none from rfl,
            requiredText_none] at hrequired
          cases hrequired
        | some name =>
          rw [hname] at hrequired
          have hsome : requiredText rt "base holding record_id" (text name.1) = .ok name :=
            requiredText_name _ name
          rw [show optionalText ((some name).map Subtype.val) = text name.1 from rfl, hsome] at hrequired
          cases hrequired
          rfl
      have hrow : holdingStateDigest rt row = .ok m.baseDigest.1 := by
        rw [← hdigest]
        unfold holdingStateDigest
        rw [hidentity, hv₀, hsame, fromHolding_canonicalRow, holdingValues_canonicalRow,
          show strippedId (canonicalRow (strippedId row.recordId) identity v row.createdAt
            row.updatedAt).recordId = strippedId row.recordId from strippedId_name _]
        rfl
      simp only [hrecord, bind, Except.bind]
      rw [if_neg (not_not.mpr hrecordId), hrow]
      simp only
      rw [if_neg (by simp)]
      rfl

/-! ## Through JSON -/

theorem canonical_texts (texts : List String) : Canonical (.array (texts.map text)) := by
  show CanonicalItems (texts.map text)
  induction texts with
  | nil => trivial
  | cons s texts ih => exact ⟨trivial, ih⟩

theorem canonical_optionalText (s : Option String) : Canonical (optionalText s) := by
  cases s <;> exact trivial

theorem canonical_modelFloat {nrt : NumberRuntime} (x : ModelFloat nrt) : Canonical x.json := by
  cases x with
  | finite x => exact x.numeral
  | _ => trivial

theorem canonical_raw (h : Holding rt) (field : HoldingField) : Canonical (h.raw field) := by
  cases field with
  | assetName => trivial
  | assetType => trivial
  | quantity => exact canonical_modelFloat _
  | avgCost =>
    show Canonical (h.avgCost.elim Json.none ModelFloat.json)
    cases h.avgCost with
    | none => trivial
    | some x => exact canonical_modelFloat x
  | currency => trivial
  | assetClass => exact canonical_optionalText _
  | industry => exact canonical_optionalText _
  | tag =>
    show Canonical (h.tag.elim Json.none fun tags => .array (tags.map text))
    cases h.tag with
    | none => trivial
    | some tags => exact canonical_texts tags

theorem canonical_state (h : Holding rt) : Canonical (.object (display (stateItems rt h))) := by
  refine Json.canonical_display fun item hitem => ?_
  simp only [stateItems, List.mem_cons, List.not_mem_nil, or_false] at hitem
  rcases hitem with rfl | rfl | rfl | rfl | rfl | rfl | rfl | rfl | rfl | rfl | rfl
  exacts [trivial, canonical_raw h .assetName, canonical_raw h .assetType, trivial, trivial,
    canonical_raw h .quantity, canonical_raw h .avgCost, canonical_raw h .currency,
    canonical_raw h .assetClass, canonical_raw h .industry, canonical_raw h .tag]

theorem canonical_serializeHolding {h : Option (Holding rt)} {state : Json}
    (hstate : serializeHolding rt h = .ok state) : Canonical state := by
  cases h with
  | none =>
    cases hstate
    exact trivial
  | some h =>
    obtain ⟨c, -, hstate⟩ := except_bind_ok hstate
    cases hstate
    exact canonical_state c

theorem canonical_asDict (identity : HoldingIdentity) : Canonical (.object identity.asDict) := by
  refine Json.canonical_display fun item hitem => ?_
  simp only [List.mem_cons, List.not_mem_nil, or_false] at hitem
  rcases hitem with rfl | rfl | rfl <;> exact trivial

theorem canonical_toPayload (t : HoldingTarget rt) : Canonical (.object t.toPayload) := by
  refine Json.canonical_display fun item hitem => ?_
  simp only [List.mem_cons, List.not_mem_nil, or_false] at hitem
  rcases hitem with rfl | rfl | rfl | rfl | rfl
  · exact canonical_asDict t.identity
  · refine canonical_fieldDict fun field => ?_
    rw [← raw_canonicalRow none t.identity t.values none none]
    exact canonical_raw _ field
  · have htexts : (t.ownedFields.map fun field => text field.name) =
        (t.ownedFields.map HoldingField.name).map text := by
      rw [List.map_map]
      rfl
    rw [htexts]
    exact canonical_texts _
  · exact canonical_optionalText _
  · trivial

/-- What is recorded is written as JSON. -/
theorem canonical_recorded {before : Option (Holding rt)} {confirmed : Holding rt} {task : CashTarget rt}
    (h : cashTarget rt before confirmed = .ok task) : Canonical (.object task.recorded) := by
  obtain ⟨-, -, htarget, hbefore, assetId, account, broker, hidentity, -⟩ := cashTarget_ok h
  refine Json.canonical_display fun item hitem => ?_
  simp only [List.mem_cons, List.not_mem_nil, or_false] at hitem
  rcases hitem with rfl | rfl | rfl | rfl | rfl
  · trivial
  · rw [hidentity]
    refine Json.canonical_display fun item hitem => ?_
    simp only [List.mem_cons, List.not_mem_nil, or_false] at hitem
    rcases hitem with rfl | rfl | rfl <;> exact trivial
  · exact canonical_serializeHolding hbefore
  · show Canonical task.target
    rw [htarget]
    exact canonical_state _
  · exact canonical_toPayload _

/-- Recorded targets are read back. -/
theorem readTargets_taskText {targets : List Members} (h : ∀ target ∈ targets, Canonical (.object target)) :
    readTargets (taskText targets) = some targets := by
  have hitems : CanonicalItems (targets.map Json.object) := by
    induction targets with
    | nil => trivial
    | cons target targets ih =>
      exact ⟨h target List.mem_cons_self, ih fun other hother => h other (List.mem_cons_of_mem _ hother)⟩
  have hcanonical : Canonical (.object (display [("targets", .array (targets.map .object))])) := by
    refine Json.canonical_display fun item hitem => ?_
    rw [List.mem_singleton.mp hitem]
    exact hitems
  have hget : Json.get (display [("targets", .array (targets.map .object))]) "targets" =
      .array (targets.map .object) := Json.get_display (by simp) (List.mem_singleton_self _)
  unfold readTargets taskText
  rw [loads_render _ hcanonical]
  simp only
  rw [hget]
  simp only
  clear h hitems hcanonical hget
  induction targets with
  | nil => rfl
  | cons target targets ih =>
    rw [List.map_cons, List.mapM_cons, ih]
    rfl

/-- What holds of a target that is read back. -/
structure Retryable (rt : MutationRuntime) (before : Option (Holding rt)) (task : CashTarget rt)
    (target : Members) : Prop where
  /-- the mutation is decoded as the one that was written -/
  decoded : ∃ payload, Json.get target "mutation" = .object payload ∧
    HoldingTarget.fromPayload rt payload = .ok task.mutation
  /-- the target state is the state of the decoded mutation -/
  desired : ∃ holding, task.mutation.toHolding = .ok holding ∧
    serializeHolding rt (some holding) = .ok (Json.get target "target")
  /-- the state before is the state of the row before -/
  earlier : serializeHolding rt before = .ok (Json.get target "before")
  /-- a row in the state before or in the target state is not refused -/
  accepted : ∀ rows current state, getHoldingFresh rt rows task.mutation.identity = .ok current →
    serializeHolding rt current = .ok state →
    (Json.same rt.equalNumbers state (Json.get target "before") = true ∨
      Json.same rt.equalNumbers state (Json.get target "target") = true) →
    applyHoldingTarget rt rows target = .ok .alreadyApplied ∨
      applyHoldingTarget rt rows target = .ok (.replace task.mutation)
  /-- the repository takes the row that was read before for the base -/
  based : ∀ rows current, findHoldingIdentity rt rows task.mutation.identity = .ok current →
    Unchanged rt current before → freshBaseForTarget rt rows task.mutation = .ok current

/-- Every target a confirmation records can be retried. -/
theorem recorded_targets_are_retryable {pairs : List (Option (Holding rt) × Holding rt)}
    {tasks : List (CashTarget rt)}
    (h : pairs.mapM (fun pair => cashTarget rt pair.1 pair.2) = .ok tasks) :
    ∃ targets, readTargets (taskText (tasks.map CashTarget.recorded)) = some targets ∧
      List.Forall₂ (fun pair (entry : CashTarget rt × Members) => Retryable rt pair.1 entry.1 entry.2)
        pairs (tasks.zip targets) := by
  have hall := forall₂_of_mapM_ok h
  refine ⟨tasks.map CashTarget.recorded, readTargets_taskText ?_, ?_⟩
  · intro target htarget
    obtain ⟨task, htask, rfl⟩ := List.mem_map.mp htarget
    obtain ⟨pair, -, hpair⟩ := forall₂_mem_right hall htask
    exact canonical_recorded hpair
  · rw [← List.map_prod_left_eq_zip, List.forall₂_map_right_iff]
    refine hall.imp fun pair task hpair => ?_
    obtain ⟨hsettled, hbound, htarget, hbefore, -⟩ := cashTarget_ok hpair
    have hrecord := recordOf_recorded task
    refine ⟨⟨_, hrecord.mutation, fromPayload_toPayload _⟩, ?_, ?_, ?_, fun rows current hcurrent hsame =>
      freshBaseForTarget_unchanged hbound hcurrent hsame⟩
    · obtain ⟨holding, hholding, hstate⟩ := toHolding_state hsettled
      refine ⟨holding, hholding, ?_⟩
      rw [hrecord.target, htarget]
      exact hstate
    · rw [hrecord.before]
      exact hbefore
    · intro rows current state hcurrent hstate hin
      rw [hrecord.before, hrecord.target] at hin
      exact applyHoldingTarget_accepts hpair hcurrent hstate hin

end

/-- Two quantities are read, and no other text. -/
def readsCash (text : Codes) : Option Codes :=
  if text = codes "100.0" ∨ text = codes "150.5" then some text else none

theorem readsCash_spec (text literal : Codes) (h : readsCash text = some literal) :
    IsNumeral literal ∧ readsCash literal = some literal := by
  unfold readsCash at h
  split at h
  next hcash =>
    cases h
    refine ⟨?_, if_pos hcash⟩
    rcases hcash with rfl | rfl
    · exact ⟨.fraction, by decide, rfl⟩
    · exact ⟨.fraction, by decide, rfl⟩
  next => cases h

/-- The digests of no row and of `cnyBalance`. -/
def cashDigest : Json → String
  | .object [_] => "83ece1dd1e36ccda2ca29dae5e3367714d8153798f3090d81f74f43e9d88a7d5"
  | _ => "93abe2d2302443c39d03b0f3a9aa25ed46a8e16ca5196fd4e01b23129dd7dde4"

/-- The interpreter on two cash rows. -/
def cashRuntime : MutationRuntime where
  floatOf := readsCash
  floatOf_spec := readsCash_spec
  repr v := match v with
    | .number literal => literal
    | _ => []
  repr_literal _ := rfl
  quantize := some
  quantize_again _ _ _ := rfl
  equalNumbers m n := m = n
  equalNumbers_self _ := decide_eq_true rfl
  exceeds _ := true
  lower s := s
  lower_value _ := rfl
  upper s := s
  upper_upper _ _ := rfl
  sha256 := cashDigest
  validName_sha256 v := by
    unfold cashDigest
    split <;> decide

/-- The quantity of a literal. -/
def cashQuantity (literal : Codes) (h : readsCash literal = some literal) :
    ModelFloat cashRuntime.toNumberRuntime := .finite ⟨literal, (readsCash_spec _ _ h).1, h⟩

/-- A balance of 100 CNY. -/
def cnyBalance : Holding cashRuntime :=
  ⟨some "rec_1", "CNY-CASH", "人民币现金", .cash, "a", "某券商", cashQuantity (codes "100.0") (by decide), none,
    "CNY", some .cash, some .cash, some [], none, none⟩

/-- The confirmed balances in CNY and USD. -/
def confirmedBalance (assetId currency : String) : Holding cashRuntime :=
  ⟨none, assetId, "现金", .cash, "a", "某券商", cashQuantity (codes "150.5") (by decide), none, currency,
    some .cash, some .cash, some [], none, none⟩

/-- A confirmation of two balances, of which one is new. -/
def twoBalances : List (Option (Holding cashRuntime) × Holding cashRuntime) :=
  [(some cnyBalance, confirmedBalance "CNY-CASH" "CNY"), (none, confirmedBalance "USD-CASH" "USD")]

/-- Both recorded targets can be retried. -/
theorem recorded_targets_are_retryable_two : ∃ tasks targets,
    twoBalances.mapM (fun pair => cashTarget cashRuntime pair.1 pair.2) = .ok tasks ∧
      readTargets (taskText (tasks.map CashTarget.recorded)) = some targets ∧
      List.Forall₂ (fun pair (entry : CashTarget cashRuntime × Members) =>
        Retryable cashRuntime pair.1 entry.1 entry.2) twoBalances (tasks.zip targets) := by
  cases h : twoBalances.mapM fun pair => cashTarget cashRuntime pair.1 pair.2 with
  | error e =>
    have hok : (twoBalances.mapM fun pair => cashTarget cashRuntime pair.1 pair.2).isOk = true := by
      decide +kernel
    rw [h] at hok
    cases hok
  | ok tasks =>
    obtain ⟨targets, hread, hall⟩ := recorded_targets_are_retryable h
    exact ⟨tasks, targets, rfl, hread, hall⟩

end PortfolioManagement.Mutations
