import Mathlib.Logic.Equiv.List
import PortfolioManagement.Lib.JsonRoundTrip
import PortfolioManagement.Snapshots.Recovery
import PortfolioManagement.Snapshots.Replay

/-!
# What a crash leaves is what was meant

The payload of a plan that `build` made, and the target of a confirmed authority, are read back from their
JSON texts as what was written, up to the record ids of the desired rows, which play no part in a digest or
a replay. Whatever else is accepted under the same digest is that plan and that authority. Rows in another
order are not: `from_payload` sorts them, and the digest is another one then.
-/

namespace PortfolioManagement.Snapshots

section
variable {rt : PayloadRuntime} {plan : SnapshotExactSetPlan}

/-- A dict display is read back from its text. -/
theorem loads_display (d : Dict) : loads (render (Value.dict d).json) = some (Value.dict d).json :=
  loads_render _ (Value.dict d).canonical

/-- A plan whose rows have payloads is stored, under its digest. -/
theorem exists_toPayload (rt : PayloadRuntime) (h : ∀ row ∈ plan.before ++ plan.desired, row.Encodable) :
    ∃ payload, plan.toPayload rt = .ok payload := by
  obtain ⟨items, hitems⟩ : ∃ items, plan.canonicalItems rt = .ok items :=
    SnapshotExactSetPlan.exists_canonicalItems h
  unfold SnapshotExactSetPlan.toPayload SnapshotExactSetPlan.planDigest
  rw [hitems]
  exact ⟨_, rfl⟩

theorem toPayload_digest {payload : Dict} (h : plan.toPayload rt = .ok payload) :
    ∃ digest, plan.planDigest rt = .ok digest ∧ Json.get payload.items "plan_digest" = .text digest := by
  unfold SnapshotExactSetPlan.toPayload at h
  obtain ⟨items, hitems, h⟩ := except_bind_ok h
  obtain ⟨digest, hdigest, h⟩ := except_bind_ok h
  cases h
  obtain ⟨rowDigest, before, desired, -, -, -, rfl⟩ := SnapshotExactSetPlan.canonicalItems_ok hitems
  exact ⟨digest, hdigest, Dict.get_display (by simp) (List.mem_append_right _ List.mem_cons_self)⟩

/-- A plan whose rows are in another order than that of `build` is not read back. -/
theorem planFromPayload_ne_ok (hfree : CollisionFree rt) {payload : Dict}
    (h : plan.toPayload rt = .ok payload) (hunsorted : ¬ plan.unrecorded.Built)
    (plan' : SnapshotExactSetPlan) : planFromPayload rt (Value.dict payload).json ≠ .ok plan' := by
  intro hread
  obtain ⟨digest, hdigest, hget⟩ := toPayload_digest h
  have hsame := planFromPayload_bound hfree hdigest hread hget
  have hbuilt := SnapshotExactSetPlan.built_unrecorded (planFromPayload_ok hread).1
  rw [hsame] at hbuilt
  exact hunsorted hbuilt

/-- What is accepted under the digest of an authority is that authority and its plan. -/
theorem parseRecoveryTarget_bound (hfree : CollisionFree rt) {authority authority' : BoundSnapshotWriteAuthority rt}
    {plan' : SnapshotExactSetPlan} {target members : Members} (hmatched : authority.assertMatches plan = .ok ())
    (h : parseRecoveryTarget rt target = .ok (plan', authority'))
    (hmembers : Json.get target "authority" = .object members)
    (hdigest : Json.get members "bound_digest" = .text authority.digest) :
    authority' = authority ∧ plan'.unrecorded = plan.unrecorded := by
  obtain ⟨-, hauthority, hmatched', -⟩ := parseRecoveryTarget_ok h
  rw [hmembers, orEmptyDict_object] at hauthority
  obtain ⟨members', hobject, hdigest'⟩ := authorityFromPayload_ok hauthority
  cases hobject
  have hsame : authority'.digest = authority.digest := Json.text_inj.mp (hdigest'.symm.trans hdigest)
  obtain rfl := authority_eq_of_digest hfree hsame
  exact ⟨rfl, unrecorded_eq_of_digest hfree (assertMatches_ok hmatched).2.2.2
    (assertMatches_ok hmatched').2.2.2⟩

/-- A plan in the order of `build`, whose numbers are floats with canonical texts, and every authority
are read back from their stored payloads, and so is the recovery target of a confirmed authority; a replay
of what is read back does the same. Whatever is accepted under one of the digests is what was stored, and
its top level repeats it. -/
theorem recovery_payloads_round_trip_and_bind (hfree : CollisionFree rt)
    (hself : ∀ n, rt.equalNumbers n n = true) (hdate : rt.isDate plan.asOf = true) (hbuilt : plan.Built)
    (hrows : ∀ row ∈ plan.before ++ plan.desired, row.Floats rt ∧ row.Encodable) :
    (∃ payload, plan.toPayload rt = .ok payload ∧
      ∃ stored, loads (render (Value.dict payload).json) = some stored ∧
        planFromPayload rt stored = .ok plan.unrecorded) ∧
    (∀ authority : BoundSnapshotWriteAuthority rt,
      ∃ stored, loads (render (Value.dict authority.toPayload).json) = some stored ∧
        authorityFromPayload rt stored = .ok authority) ∧
    (plan.unrecorded.planDigest rt = plan.planDigest rt ∧
      plan.unrecorded.rowDigest rt = plan.rowDigest rt ∧
      ∀ current, plan.unrecorded.residualActions current =
        (plan.residualActions current).map SnapshotSetActions.unrecorded) ∧
    (∀ digest members plan', plan.planDigest rt = .ok digest →
      Json.get members "plan_digest" = .text digest →
      planFromPayload rt (.object members) = .ok plan' → plan'.unrecorded = plan.unrecorded) ∧
    ∀ (authority : BoundSnapshotWriteAuthority rt) (planned complete target : Dict),
      authority.confirmed = true → recoveryTarget rt plan authority planned complete = .ok target →
      (∃ stored, loads (render (Value.dict target).json) = some (.object stored) ∧
        parseRecoveryTarget rt stored = .ok (plan.unrecorded, authority)) ∧
      ∀ other members plan' authority', parseRecoveryTarget rt other = .ok (plan', authority') →
        Json.get other "authority" = .object members →
        Json.get members "bound_digest" = .text authority.digest →
        authority' = authority ∧ plan'.unrecorded = plan.unrecorded ∧
          ∀ field ∈ repeatedFields rt plan authority authority.planDigest,
            Json.same rt.equalNumbers (Json.get other field.1) field.2.json = true := by
  have hread : ∀ payload, plan.toPayload rt = .ok payload →
      planFromPayload rt (Value.dict payload).json = .ok plan.unrecorded := fun payload hpayload =>
    planFromPayload_toPayload hself hdate hbuilt (fun row hrow => (hrows row hrow).1) hpayload
  refine ⟨?_, fun authority => ⟨_, loads_display _, authorityFromPayload_toPayload hself⟩,
    ⟨SnapshotExactSetPlan.planDigest_unrecorded, SnapshotExactSetPlan.rowDigest_unrecorded,
      fun current => residualActions_unrecorded⟩, fun digest members plan' hplan hdigest h =>
        planFromPayload_bound hfree hplan h hdigest, fun authority planned complete target hconfirmed h =>
          ⟨?_, fun other members plan' authority' hother hmembers hdigest => ?_⟩⟩
  · obtain ⟨payload, hpayload⟩ := exists_toPayload rt fun row hrow => (hrows row hrow).2
    exact ⟨payload, hpayload, _, loads_display _, hread payload hpayload⟩
  · exact ⟨target.items, loads_display target,
      parseRecoveryTarget_eq hself hconfirmed hread (recoveryTarget_ok h)⟩
  · have hmatched := (recoveryTarget_ok h).matched
    obtain ⟨rfl, hplan⟩ := parseRecoveryTarget_bound hfree hmatched hother hmembers hdigest
    obtain ⟨-, -, -, -, hrepeated⟩ := parseRecoveryTarget_ok hother
    have hfields : repeatedFields rt plan'.unrecorded authority' authority'.planDigest =
        repeatedFields rt plan.unrecorded authority' authority'.planDigest := by rw [hplan]
    exact ⟨rfl, hplan, fun field hfield => hrepeated field (hfields ▸ hfield)⟩

end

/-! ## Two shares -/

theorem unitRow_texts {assetId dedupKey : String} (hasset : ValidName assetId)
    (hkey : ValidName dedupKey) :
    ∀ text ∈ ["2025-03-14", "a", assetId, "b", "CNY", dedupKey], ValidName text := by
  simp only [List.forall_mem_cons]
  exact ⟨by decide +kernel, by decide +kernel, hasset, by decide +kernel, by decide +kernel, hkey,
    by simp⟩

theorem oneFloat_quantized :
    oneFloat.decimal.coefficient ≠ 0 ∧ atPrecision (-8) oneFloat.decimal = true := by
  decide +kernel

theorem oneFloat_positive : 0 < oneFloat.decimal.coefficient ∧ 0 < oneFloat.decimal.coefficient := by
  decide +kernel

theorem oneFloat_atMoney : atPrecision (-2) oneFloat.decimal = true ∧
    ∀ cost ∈ (none : Option FloatValue), atPrecision (-2) cost.decimal = true := by
  decide +kernel

theorem oneFloat_replayed : ∃ c, (oneFloat.decimal.mul oneFloat.decimal).quantize (-2) = some c ∧
    oneFloat.decimal.quantize (-2) = some c :=
  ⟨100, by decide +kernel, by decide +kernel⟩

/-- A share at the price 1. -/
def unitRow (assetId dedupKey : String) (hasset : ValidName assetId) (hkey : ValidName dedupKey) :
    HoldingSnapshot where
  recordId := none
  asOf := "2025-03-14"
  account := "a"
  assetId := assetId
  broker := "b"
  quantity := oneFloat
  currency := "CNY"
  price := oneFloat
  cnyPrice := oneFloat
  marketValueCny := oneFloat
  dedupKey := dedupKey
  assetName := none
  avgCost := none
  source := none
  remark := none
  texts := unitRow_texts hasset hkey
  quantized := oneFloat_quantized
  positive := oneFloat_positive
  atMoney := oneFloat_atMoney
  replayed := oneFloat_replayed

/-- The first share. -/
def firstShare : HoldingSnapshot :=
  unitRow "A" "a:2025-03-14:b:A" (by decide +kernel) (by decide +kernel)

/-- The second share. -/
def secondShare : HoldingSnapshot :=
  unitRow "B" "a:2025-03-14:b:B" (by decide +kernel) (by decide +kernel)

theorem accountGiven : strip "a" ≠ "" := by decide +kernel

theorem zeros_length : (String.ofList (List.replicate 64 '0')).length = 64 := by decide +kernel

theorem validateRows_nil : validateRows "a" "2025-03-14" true .before [] = .ok () := rfl

/-- A plan to create the shares, in some order. -/
def sharesPlan (desired : List HoldingSnapshot)
    (hvalid : ValidRows "a" "2025-03-14" false desired) : SnapshotExactSetPlan where
  account := "a"
  asOf := "2025-03-14"
  targetDigest := String.ofList (List.replicate 64 '0')
  before := []
  desired := desired
  accountGiven := accountGiven
  digestLength := zeros_length
  beforeValid := validateRows_nil
  desiredValid := validateRows_ok.mpr hvalid

theorem shares_inScope {row : HoldingSnapshot} (h : row = firstShare ∨ row = secondShare) :
    assertSnapshotScope "a" "2025-03-14" row = .ok () := by
  rcases h with rfl | rfl <;> rfl

/-- The shares in the order of `build`. -/
def sortedShares : SnapshotExactSetPlan :=
  sharesPlan [firstShare, secondShare]
    ⟨fun row hrow => shares_inScope (by simpa using hrow), fun h => absurd h Bool.false_ne_true,
      by decide +kernel, by decide +kernel⟩

/-- The shares the other way round. -/
def unsortedShares : SnapshotExactSetPlan :=
  sharesPlan [secondShare, firstShare]
    ⟨fun row hrow => shares_inScope (by simpa [or_comm] using hrow), fun h => absurd h Bool.false_ne_true,
      by decide +kernel, by decide +kernel⟩

/-- A runtime that knows the float 1, with a digest that never collides. -/
def unitRuntime : PayloadRuntime where
  sha256 j := String.ofList (List.replicate (Encodable.encode (render j)) 'f')
  repr _ := []
  pairs _ := none
  float d := if d.equal ⟨1, 0⟩ then some oneFloat else none
  equalNumbers m n := m == n
  isDate text := text == "2025-03-14"

theorem unitRuntime_collisionFree : CollisionFree unitRuntime := by
  intro x y hx hy h
  have hlength := congrArg String.length h
  simp only [unitRuntime, String.length_ofList, List.length_replicate] at hlength
  have htext := congrArg loads (Encodable.encode_injective hlength)
  rw [loads_render x hx, loads_render y hy] at htext
  exact Option.some.inj htext

theorem shares_read {row : HoldingSnapshot} (h : row = firstShare ∨ row = secondShare) :
    row.Floats unitRuntime ∧ row.Encodable := by
  have hone : IsFloat unitRuntime oneFloat := fun d hd => if_pos hd
  rcases h with rfl | rfl
  · exact ⟨⟨hone, hone, hone, hone, fun cost hcost => by cases hcost⟩, by decide +kernel⟩
  · exact ⟨⟨hone, hone, hone, hone, fun cost hcost => by cases hcost⟩, by decide +kernel⟩

/-- The sorted plan is read back. -/
theorem sorted_shares_are_read_back : ∃ payload, sortedShares.toPayload unitRuntime = .ok payload ∧
    ∃ stored, loads (render (Value.dict payload).json) = some stored ∧
      planFromPayload unitRuntime stored = .ok sortedShares.unrecorded :=
  (recovery_payloads_round_trip_and_bind unitRuntime_collisionFree (fun n => by simp [unitRuntime])
    (by decide +kernel) (by decide +kernel)
    fun row hrow => shares_read (by simpa [sortedShares, sharesPlan] using hrow)).1

/-- The unsorted plan is one the constructor accepts, with finite numbers; its own payload is refused. -/
theorem unsorted_shares_are_refused : ∃ payload, unsortedShares.toPayload unitRuntime = .ok payload ∧
    ∀ plan, planFromPayload unitRuntime (Value.dict payload).json ≠ .ok plan := by
  have hrows : ∀ row ∈ unsortedShares.before ++ unsortedShares.desired, row.Encodable :=
    fun row hrow => (shares_read (by simpa [unsortedShares, sharesPlan, or_comm] using hrow)).2
  obtain ⟨payload, hpayload⟩ := exists_toPayload unitRuntime hrows
  exact ⟨payload, hpayload,
    planFromPayload_ne_ok unitRuntime_collisionFree hpayload (by decide +kernel)⟩

end PortfolioManagement.Snapshots
