import PortfolioManagement.Snapshots.Authority

/-!
# Recovery targets

What a crashed snapshot write leaves behind for its replay: the plan, the authority and the NAV details
before and after the write, with digests over all of them. `parse_recovery_target` reads it back, checks
every part against every other and refuses an authority that was never confirmed.
-/

namespace PortfolioManagement.Snapshots

/-! ## NAV details -/

/-- `_RECOVERY_NAV_OWNED_FIELDS` -/
def recoveryOwnedFields : List String :=
  ["snapshot_details_patch_error", "snapshot_digest", "snapshot_error", "snapshot_evidence",
    "snapshot_persisted", "snapshot_plan_digest", "snapshot_preview", "snapshot_retry_command",
    "snapshot_status", "snapshot_task_id"]

/-- `_recovery_base_details`. -/
def recoveryBaseDetails (details : Members) : Members :=
  details.filter fun item => item.1 ∉ recoveryOwnedFields.map codes

/-- The names of the values that differ from what is expected of them. -/
def mismatched (rt : PayloadRuntime) (members : Members) (expected : List (String × Json)) :
    List String :=
  (expected.filter fun item => !Json.same rt.equalNumbers (Json.get members item.1) item.2).map Prod.fst

/-- The name of a check that fails. -/
def failing (name : String) (check : Bool) : List String := if check then [] else [name]

section
variable (rt : PayloadRuntime)

/-- `digest_payload` of a dict: its texts have to be encoded. -/
def digestMembers (members : Members) : Except PayloadError String :=
  if ∀ s ∈ texts (.object members), (textOf? s).isSome then .ok (rt.sha256 (.object members))
  else .error .unencodableText

/-- `finality or {}`, when it is a dict or `None`. -/
def readFinality (details : Members) : Except PayloadError Members :=
  match Json.get details "finality" with
  | .word .null => .ok []
  | .object finality => .ok finality
  | _ => .error .finalityNotAnObject

variable (plan : SnapshotExactSetPlan) (authority : BoundSnapshotWriteAuthority rt)

/-- What the evidence has to say. -/
def expectedEvidence (planDigest rowDigest status : String) : List (String × Json) :=
  [("run_id", .text authority.runId),
    ("issuer", .text authority.issuer),
    ("target_digest", .text plan.targetDigest),
    ("plan_digest", .text planDigest),
    ("row_digest", .text rowDigest),
    ("authority_digest", .text authority.authorityDigest),
    ("bound_authority_digest", .text authority.digest),
    ("overwrite_existing", .ofBool authority.overwriteExisting),
    ("status", .text status)]

/-- What of the details is not as it should be. -/
def detailsMismatches (details evidence finality : Members) (planDigest rowDigest status : String)
    (persisted : Bool) : List String :=
  let taskId := (Json.get details "snapshot_task_id").strOrEmpty rt.repr
  mismatched rt evidence (expectedEvidence rt plan authority planDigest rowDigest status) ++
    failing "details.run_id" ((Json.get details "run_id").strOrEmpty rt.repr == codes authority.runId) ++
    (if finality = [] then [] else
      failing "finality.run_id"
        ((Json.get finality "run_id").strOrEmpty rt.repr == codes authority.runId) ++
      failing "finality.writer"
        ((Json.get finality "writer").strOrEmpty rt.repr == codes authority.issuer)) ++
    mismatched rt details [("snapshot_status", .text status)] ++
    failing "snapshot_persisted" (match Json.get details "snapshot_persisted" with
      | .word .true => persisted
      | .word .false => !persisted
      | _ => false) ++
    mismatched rt details [("snapshot_plan_digest", .text planDigest)] ++
    failing "snapshot_task_id"
      (taskId ≠ [] && (Json.get evidence "task_id").strOrEmpty rt.repr == taskId) ++
    (if persisted then mismatched rt details [("snapshot_digest", .text rowDigest)] else [])

/-- `_assert_recovery_nav_details`. -/
def assertRecoveryNavDetails (details : Members) (status : String) (persisted : Bool) :
    Except PayloadError Unit := do
  let .object evidence := Json.get details "snapshot_evidence" | throw .evidenceRequired
  let finality ← readFinality details
  let planDigest ← lifted (plan.planDigest rt)
  let rowDigest ← lifted (plan.rowDigest rt)
  let mismatches := detailsMismatches rt plan authority details evidence finality planDigest rowDigest
    status persisted
  if mismatches ≠ [] then throw (.detailsMismatch (sortBy id mismatches.dedup))

/-! ## Targets -/

/-- The fields of a target that repeat the plan and the authority. -/
def repeatedFields (planDigest : String) : List (String × Value) :=
  [("account", .string plan.account),
    ("as_of", .string plan.asOf),
    ("run_id", .string authority.runId),
    ("issuer", .string authority.issuer),
    ("target_digest", .string plan.targetDigest),
    ("plan_digest", .string planDigest),
    ("overwrite_existing", .bool authority.overwriteExisting)]

/-- `recovery_target`. -/
def recoveryTarget (planned complete : Dict) : Except PayloadError Dict := do
  authority.assertMatches plan
  assertRecoveryNavDetails rt plan authority planned.items "prepared" false
  assertRecoveryNavDetails rt plan authority complete.items "complete" true
  let plannedBase := recoveryBaseDetails planned.items
  let completeBase := recoveryBaseDetails complete.items
  if ¬ Json.same rt.equalNumbers (.object plannedBase) (.object completeBase) then
    throw .baseDetailsDisagree
  let planDigest ← lifted (plan.planDigest rt)
  let planPayload ← lifted (plan.toPayload rt)
  let baseDigest ← digestMembers rt plannedBase
  let plannedDigest ← digestMembers rt planned.items
  let completeDigest ← digestMembers rt complete.items
  return .display ([("type", .string "HOLDINGS_SNAPSHOT_TARGET_SET"), ("version", .string "v2")] ++
    repeatedFields rt plan authority planDigest ++
    [("authority", .dict authority.toPayload),
      ("plan", .dict planPayload),
      ("nav_base_digest", .string baseDigest),
      ("planned_nav_details_digest", .string plannedDigest),
      ("complete_nav_details_digest", .string completeDigest),
      ("planned_nav_details", .dict planned),
      ("complete_nav_details", .dict complete)])

end

/-- `value or {}`. -/
def orEmptyDict (v : Json) : Json := if v.truthy then v else .object []

/-- What `parse_recovery_target` checks of the NAV details of a target. -/
def assertTransition (rt : PayloadRuntime) (plan : SnapshotExactSetPlan)
    (authority : BoundSnapshotWriteAuthority rt) (target : Members) : Except PayloadError Unit := do
  let .object planned := Json.get target "planned_nav_details" | throw .detailsRequired
  let .object complete := Json.get target "complete_nav_details" | throw .detailsRequired
  assertRecoveryNavDetails rt plan authority planned "prepared" false
  assertRecoveryNavDetails rt plan authority complete "complete" true
  let baseDigest ← digestMembers rt (recoveryBaseDetails planned)
  let plannedDigest ← digestMembers rt planned
  let completeDigest ← digestMembers rt complete
  let mismatches := mismatched rt target
      [("nav_base_digest", .text baseDigest), ("planned_nav_details_digest", .text plannedDigest),
        ("complete_nav_details_digest", .text completeDigest)] ++
    failing "planned_complete_nav_base" (Json.same rt.equalNumbers
      (.object (recoveryBaseDetails planned)) (.object (recoveryBaseDetails complete)))
  if mismatches ≠ [] then throw (.transitionMismatch mismatches)

/-- `parse_recovery_target`. -/
def parseRecoveryTarget (rt : PayloadRuntime) (target : Members) :
    Except PayloadError (SnapshotExactSetPlan × BoundSnapshotWriteAuthority rt) := do
  if ¬ Json.same rt.equalNumbers (Json.get target "type") (.text "HOLDINGS_SNAPSHOT_TARGET_SET") then
    throw .notATarget
  if ¬ Json.same rt.equalNumbers (Json.get target "version") (.text "v2") then
    throw .unsupportedTarget
  let plan ← planFromPayload rt (orEmptyDict (Json.get target "plan"))
  let authority ← authorityFromPayload rt (orEmptyDict (Json.get target "authority"))
  authority.assertMatches plan
  let planDigest ← lifted (plan.planDigest rt)
  let mismatches := mismatched rt target
    ((repeatedFields rt plan authority planDigest).map fun item => (item.1, item.2.json))
  if mismatches ≠ [] then throw (.targetMismatch mismatches)
  if ¬ authority.confirmed then throw .notConfirmed
  assertTransition rt plan authority target
  return (plan, authority)

/-! ## Reading back -/

section
variable {rt : PayloadRuntime} {plan : SnapshotExactSetPlan} {authority : BoundSnapshotWriteAuthority rt}

theorem assertMatches_unrecorded :
    authority.assertMatches plan.unrecorded = authority.assertMatches plan := by
  unfold BoundSnapshotWriteAuthority.assertMatches
  rw [SnapshotExactSetPlan.planDigest_unrecorded]
  rfl

theorem assertRecoveryNavDetails_unrecorded (details : Members) (status : String) (persisted : Bool) :
    assertRecoveryNavDetails rt plan.unrecorded authority details status persisted =
      assertRecoveryNavDetails rt plan authority details status persisted := by
  unfold assertRecoveryNavDetails
  rw [SnapshotExactSetPlan.planDigest_unrecorded, SnapshotExactSetPlan.rowDigest_unrecorded]
  rfl

/-- An authority that matches a plan names its digest. -/
theorem assertMatches_ok (h : authority.assertMatches plan = .ok ()) :
    authority.account = plan.account ∧ authority.asOf = plan.asOf ∧
      authority.targetDigest = plan.targetDigest ∧ plan.planDigest rt = .ok authority.planDigest := by
  unfold BoundSnapshotWriteAuthority.assertMatches at h
  obtain ⟨planDigest, hdigest, h⟩ := except_bind_ok h
  by_cases hmatch : authority.account ≠ plan.account ∨ authority.asOf ≠ plan.asOf ∨
      authority.targetDigest ≠ plan.targetDigest ∨ authority.planDigest ≠ planDigest
  · rw [if_pos hmatch] at h
    cases h
  · push Not at hmatch
    obtain ⟨haccount, hasOf, htarget, hplan⟩ := hmatch
    exact ⟨haccount, hasOf, htarget, by rw [lifted_ok.mp hdigest, hplan]⟩

theorem mismatched_eq_nil {members : Members} {expected : List (String × Json)} :
    mismatched rt members expected = [] ↔
      ∀ item ∈ expected, Json.same rt.equalNumbers (Json.get members item.1) item.2 = true := by
  simp [mismatched, List.filter_eq_nil_iff]

/-- What a target that was built holds. -/
structure BuiltTarget (rt : PayloadRuntime) (plan : SnapshotExactSetPlan)
    (authority : BoundSnapshotWriteAuthority rt) (planned complete target : Dict) : Prop where
  /-- the authority is for the plan -/
  matched : authority.assertMatches plan = .ok ()
  /-- the details before and after the write are as they should be -/
  details : assertRecoveryNavDetails rt plan authority planned.items "prepared" false = .ok () ∧
    assertRecoveryNavDetails rt plan authority complete.items "complete" true = .ok ()
  /-- they differ in what the write owns only -/
  base : Json.same rt.equalNumbers (.object (recoveryBaseDetails planned.items))
    (.object (recoveryBaseDetails complete.items)) = true
  /-- the items -/
  items : ∃ planDigest planPayload baseDigest plannedDigest completeDigest,
    plan.planDigest rt = .ok planDigest ∧ plan.toPayload rt = .ok planPayload ∧
    digestMembers rt (recoveryBaseDetails planned.items) = .ok baseDigest ∧
    digestMembers rt planned.items = .ok plannedDigest ∧
    digestMembers rt complete.items = .ok completeDigest ∧
    target = .display ([("type", .string "HOLDINGS_SNAPSHOT_TARGET_SET"), ("version", .string "v2")] ++
      repeatedFields rt plan authority planDigest ++
      [("authority", .dict authority.toPayload),
        ("plan", .dict planPayload),
        ("nav_base_digest", .string baseDigest),
        ("planned_nav_details_digest", .string plannedDigest),
        ("complete_nav_details_digest", .string completeDigest),
        ("planned_nav_details", .dict planned),
        ("complete_nav_details", .dict complete)])

theorem recoveryTarget_ok {planned complete target : Dict}
    (h : recoveryTarget rt plan authority planned complete = .ok target) :
    BuiltTarget rt plan authority planned complete target := by
  unfold recoveryTarget at h
  obtain ⟨_, hmatched, h⟩ := except_bind_ok h
  obtain ⟨_, hplanned, h⟩ := except_bind_ok h
  obtain ⟨_, hcomplete, h⟩ := except_bind_ok h
  obtain ⟨hbase, h⟩ := except_guard_ok h
  obtain ⟨planDigest, hdigest, h⟩ := except_bind_ok h
  obtain ⟨planPayload, hpayload, h⟩ := except_bind_ok h
  obtain ⟨baseDigest, hbaseDigest, h⟩ := except_bind_ok h
  obtain ⟨plannedDigest, hplannedDigest, h⟩ := except_bind_ok h
  obtain ⟨completeDigest, hcompleteDigest, h⟩ := except_bind_ok h
  exact ⟨hmatched, ⟨hplanned, hcomplete⟩, not_not.mp hbase, planDigest, planPayload, baseDigest,
    plannedDigest, completeDigest, lifted_ok.mp hdigest, lifted_ok.mp hpayload, hbaseDigest,
    hplannedDigest, hcompleteDigest, (Except.ok.inj h).symm⟩

theorem orEmptyDict_object (members : Members) : orEmptyDict (.object members) = .object members := by
  cases members <;> rfl

/-- The target of a confirmed authority is read back. -/
theorem parseRecoveryTarget_eq {planned complete target : Dict}
    (hself : ∀ n, rt.equalNumbers n n = true) (hconfirmed : authority.confirmed = true)
    (hread : ∀ payload, plan.toPayload rt = .ok payload →
      planFromPayload rt (Value.dict payload).json = .ok plan.unrecorded)
    (h : BuiltTarget rt plan authority planned complete target) :
    parseRecoveryTarget rt target.items = .ok (plan.unrecorded, authority) := by
  obtain ⟨planDigest, planPayload, baseDigest, plannedDigest, completeDigest, hdigest, hpayload,
    hbaseDigest, hplannedDigest, hcompleteDigest, htarget⟩ := h.items
  have hget : ∀ name value, (name, value) ∈ [("type", Value.string "HOLDINGS_SNAPSHOT_TARGET_SET"),
      ("version", .string "v2")] ++ repeatedFields rt plan authority planDigest ++
      [("authority", .dict authority.toPayload),
        ("plan", .dict planPayload),
        ("nav_base_digest", .string baseDigest),
        ("planned_nav_details_digest", .string plannedDigest),
        ("complete_nav_details_digest", .string completeDigest),
        ("planned_nav_details", .dict planned),
        ("complete_nav_details", .dict complete)] → Json.get target.items name = value.json :=
    fun name value hmem => by
      rw [htarget]
      exact Dict.get_display (by simp [repeatedFields]) hmem
  have hsame : ∀ name value, Json.get target.items name = value →
      Json.same rt.equalNumbers (Json.get target.items name) value = true := fun name value heq => by
    rw [heq, Json.same_self hself]
  have htype := hsame "type" (.text "HOLDINGS_SNAPSHOT_TARGET_SET") (hget "type" (.string _) (by simp))
  have hversion := hsame "version" (.text "v2") (hget "version" (.string _) (by simp))
  have hplan : planFromPayload rt (orEmptyDict (Json.get target.items "plan")) =
      .ok plan.unrecorded := by
    rw [hget "plan" (.dict planPayload) (by simp)]
    exact (congrArg _ (orEmptyDict_object planPayload.items)).trans (hread planPayload hpayload)
  have hauthority : authorityFromPayload rt (orEmptyDict (Json.get target.items "authority")) =
      .ok authority := by
    rw [hget "authority" (.dict authority.toPayload) (by simp)]
    exact (congrArg _ (orEmptyDict_object authority.toPayload.items)).trans
      (authorityFromPayload_toPayload hself)
  have hrepeated : mismatched rt target.items
      ((repeatedFields rt plan.unrecorded authority planDigest).map fun item =>
        (item.1, item.2.json)) = [] := by
    refine mismatched_eq_nil.mpr fun item hitem => ?_
    obtain ⟨field, hfield, rfl⟩ := List.mem_map.mp hitem
    exact hsame _ _ (hget field.1 field.2 (List.mem_append_left _ (List.mem_append_right _ hfield)))
  have hdigests : mismatched rt target.items [("nav_base_digest", .text baseDigest),
      ("planned_nav_details_digest", .text plannedDigest),
      ("complete_nav_details_digest", .text completeDigest)] = [] := by
    refine mismatched_eq_nil.mpr fun item hitem => hsame _ _ ?_
    simp only [List.mem_cons, List.not_mem_nil, or_false] at hitem
    rcases hitem with rfl | rfl | rfl
    · exact hget "nav_base_digest" (.string baseDigest) (by simp)
    · exact hget "planned_nav_details_digest" (.string plannedDigest) (by simp)
    · exact hget "complete_nav_details_digest" (.string completeDigest) (by simp)
  have hplanned : Json.get target.items "planned_nav_details" = .object planned.items :=
    hget "planned_nav_details" (.dict planned) (by simp)
  have hcomplete : Json.get target.items "complete_nav_details" = .object complete.items :=
    hget "complete_nav_details" (.dict complete) (by simp)
  have hplanDigest : lifted (plan.unrecorded.planDigest rt) = .ok planDigest :=
    lifted_ok.mpr (SnapshotExactSetPlan.planDigest_unrecorded.trans hdigest)
  have hthen : ∀ {α β : Type} (a : α) (f : α → Except PayloadError β),
      ((.ok a : Except PayloadError α) >>= f) = f a := fun _ _ => rfl
  have htransition : assertTransition rt plan.unrecorded authority target.items = .ok () := by
    unfold assertTransition
    rw [hplanned, hcomplete]
    simp only
    rw [assertRecoveryNavDetails_unrecorded, h.details.1, hthen, assertRecoveryNavDetails_unrecorded,
      h.details.2, hthen, hbaseDigest, hthen, hplannedDigest, hthen, hcompleteDigest, hthen, hdigests,
      h.base]
    exact if_neg (not_not.mpr rfl)
  unfold parseRecoveryTarget
  rw [if_neg (not_not.mpr htype), if_neg (not_not.mpr hversion), hplan, hthen, hauthority, hthen,
    assertMatches_unrecorded, h.matched, hthen, hplanDigest, hthen]
  simp only [hrepeated]
  rw [if_neg (not_not.mpr rfl), if_neg (not_not.mpr hconfirmed), htransition]
  rfl

/-- What is checked of a target that is read. -/
theorem parseRecoveryTarget_ok {target : Members} (h : parseRecoveryTarget rt target = .ok (plan, authority)) :
    planFromPayload rt (orEmptyDict (Json.get target "plan")) = .ok plan ∧
    authorityFromPayload rt (orEmptyDict (Json.get target "authority")) = .ok authority ∧
    authority.assertMatches plan = .ok () ∧ authority.confirmed = true ∧
    ∀ item ∈ repeatedFields rt plan authority authority.planDigest,
      Json.same rt.equalNumbers (Json.get target item.1) item.2.json = true := by
  unfold parseRecoveryTarget at h
  obtain ⟨-, h⟩ := except_guard_ok h
  obtain ⟨-, h⟩ := except_guard_ok h
  obtain ⟨plan', hplan, h⟩ := except_bind_ok h
  obtain ⟨authority', hauthority, h⟩ := except_bind_ok h
  obtain ⟨_, hmatches, h⟩ := except_bind_ok h
  obtain ⟨planDigest, hdigest, h⟩ := except_bind_ok h
  obtain ⟨hrepeated, h⟩ := except_guard_ok h
  obtain ⟨hconfirmed, h⟩ := except_guard_ok h
  obtain ⟨_, -, h⟩ := except_bind_ok h
  obtain ⟨rfl, rfl⟩ := Prod.mk.inj (Except.ok.inj h)
  have hplanDigest := (assertMatches_ok hmatches).2.2.2
  rw [lifted_ok.mp hdigest] at hplanDigest
  have hsame := mismatched_eq_nil.mp (not_not.mp hrepeated)
  rw [Except.ok.inj hplanDigest] at hsame
  exact ⟨hplan, hauthority, hmatches, not_not.mp hconfirmed,
    fun item hitem => hsame (item.1, item.2.json) (List.mem_map.mpr ⟨item, hitem, rfl⟩)⟩

end

end PortfolioManagement.Snapshots
