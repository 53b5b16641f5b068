import PortfolioManagement.Snapshots.Binding

/-!
# Bound write authorities

A confirmed write capability carries the digest of the plan it is for, and two digests of its own: the one
of the caller's intent and the one of everything. It is read back field by field.
-/

namespace PortfolioManagement.Snapshots

/-! ## Authorities -/

/-- `SNAPSHOT_WRITE_AUTHORITY_VERSION` -/
def writeAuthorityVersion : String := "pm.holdings_snapshot.write_authority.v1"

/-- What `authority_digest` is the digest of. -/
def intentItems (account asOf runId issuer : String) (overwriteExisting confirmed : Bool)
    (targetDigest : String) : List (String × Value) :=
  [("contract_version", .string writeAuthorityVersion),
    ("account", .string account),
    ("as_of", .string asOf),
    ("run_id", .string runId),
    ("issuer", .string issuer),
    ("overwrite_existing", .bool overwriteExisting),
    ("confirmed", .bool confirmed),
    ("target_digest", .string targetDigest)]

/-- `BoundSnapshotWriteAuthority`. -/
structure BoundSnapshotWriteAuthority (rt : PayloadRuntime) where
  /-- `account` -/
  account : String
  /-- `as_of` -/
  asOf : String
  /-- `run_id` -/
  runId : String
  /-- `issuer` -/
  issuer : String
  /-- `overwrite_existing` -/
  overwriteExisting : Bool
  /-- `confirmed` -/
  confirmed : Bool
  /-- `target_digest` -/
  targetDigest : String
  /-- `plan_digest` -/
  planDigest : String
  /-- `authority_digest` -/
  authorityDigest : String
  /-- the texts are not blank -/
  given : ∀ text ∈ [account, asOf, runId, issuer], strip text ≠ ""
  /-- the digests have the length of digests -/
  digests : targetDigest.length = 64 ∧ planDigest.length = 64
  /-- the authority digest is the digest of the intent -/
  authorityBound : authorityDigest = rt.sha256 (Value.dict (.display
    (intentItems account asOf runId issuer overwriteExisting confirmed targetDigest))).json

namespace BoundSnapshotWriteAuthority

variable {rt : PayloadRuntime} (authority : BoundSnapshotWriteAuthority rt)

/-- The items of `canonical_payload`. -/
def canonicalItems : List (String × Value) :=
  intentItems authority.account authority.asOf authority.runId authority.issuer
      authority.overwriteExisting authority.confirmed authority.targetDigest ++
    [("plan_digest", .string authority.planDigest),
      ("authority_digest", .string authority.authorityDigest)]

/-- `digest`. -/
def digest : String := rt.sha256 (Value.dict (.display authority.canonicalItems)).json

/-- `to_payload`. -/
def toPayload : Dict :=
  .display (authority.canonicalItems ++ [("bound_digest", .string authority.digest)])

/-- `assert_matches`. -/
def assertMatches (plan : SnapshotExactSetPlan) : Except PayloadError Unit := do
  let planDigest ← lifted (plan.planDigest rt)
  if authority.account ≠ plan.account ∨ authority.asOf ≠ plan.asOf ∨
      authority.targetDigest ≠ plan.targetDigest ∨ authority.planDigest ≠ planDigest then
    throw .planNotMatched

end BoundSnapshotWriteAuthority

/-! ## Reading -/

section
variable (rt : PayloadRuntime)

/-- A flag, which has to be a truth value. -/
def readFlag (members : Members) (name : String) : Except PayloadError Bool :=
  match Json.get members name with
  | .word .true => .ok true
  | .word .false => .ok false
  | _ => .error (.notBoolean name)

/-- `BoundSnapshotWriteAuthority(...)`. -/
def boundAuthority (account asOf runId issuer : String) (overwriteExisting confirmed : Bool)
    (targetDigest planDigest authorityDigest contractVersion : String) :
    Except PayloadError (BoundSnapshotWriteAuthority rt) :=
  if hgiven : ∀ text ∈ [account, asOf, runId, issuer], strip text ≠ "" then
    if hdigests : targetDigest.length = 64 ∧ planDigest.length = 64 then
      if contractVersion = writeAuthorityVersion then
        if hbound : authorityDigest = rt.sha256 (Value.dict (.display
            (intentItems account asOf runId issuer overwriteExisting confirmed targetDigest))).json then
          .ok ⟨account, asOf, runId, issuer, overwriteExisting, confirmed, targetDigest, planDigest,
            authorityDigest, hgiven, hdigests, hbound⟩
        else .error .authorityDigestMismatch
      else .error .contractVersion
    else .error .digestLength
  else .error (.blank "snapshot_authority")

/-- `BoundSnapshotWriteAuthority.from_payload`. -/
def authorityFromPayload (payload : Json) : Except PayloadError (BoundSnapshotWriteAuthority rt) := do
  let .object members := payload | throw .notAnObject
  let overwriteExisting ← readFlag members "overwrite_existing"
  let confirmed ← readFlag members "confirmed"
  let account ← textOrEmpty rt (Json.get members "account")
  let asOf ← textOrEmpty rt (Json.get members "as_of")
  let runId ← textOrEmpty rt (Json.get members "run_id")
  let issuer ← textOrEmpty rt (Json.get members "issuer")
  let targetDigest ← textOrEmpty rt (Json.get members "target_digest")
  let planDigest ← textOrEmpty rt (Json.get members "plan_digest")
  let authorityDigest ← textOrEmpty rt (Json.get members "authority_digest")
  let contractVersion ← textOrEmpty rt (Json.get members "contract_version")
  let bound ← boundAuthority rt account asOf runId issuer overwriteExisting confirmed targetDigest
    planDigest authorityDigest contractVersion
  if ¬ Json.same rt.equalNumbers (Json.get members "bound_digest") (Json.text bound.digest) then
    throw .boundDigestMismatch
  return bound

end

/-! ## Reading back -/

section
variable {rt : PayloadRuntime} {authority authority' : BoundSnapshotWriteAuthority rt}

theorem boundAuthority_eq : boundAuthority rt authority.account authority.asOf authority.runId
    authority.issuer authority.overwriteExisting authority.confirmed authority.targetDigest
    authority.planDigest authority.authorityDigest writeAuthorityVersion = .ok authority := by
  unfold boundAuthority
  rw [dif_pos authority.given, dif_pos authority.digests, if_pos rfl, dif_pos authority.authorityBound]

theorem readFlag_eq {members : Members} {name : String} {b : Bool}
    (h : Json.get members name = (Value.bool b).json) : readFlag members name = .ok b := by
  unfold readFlag
  rw [h]
  cases b <;> rfl

/-- The items of a payload. -/
def BoundSnapshotWriteAuthority.items (authority : BoundSnapshotWriteAuthority rt) :
    List (String × Value) :=
  authority.canonicalItems ++ [("bound_digest", .string authority.digest)]

theorem items_eq : authority.items = [("contract_version", Value.string writeAuthorityVersion),
    ("account", .string authority.account), ("as_of", .string authority.asOf),
    ("run_id", .string authority.runId), ("issuer", .string authority.issuer),
    ("overwrite_existing", .bool authority.overwriteExisting), ("confirmed", .bool authority.confirmed),
    ("target_digest", .string authority.targetDigest), ("plan_digest", .string authority.planDigest),
    ("authority_digest", .string authority.authorityDigest),
    ("bound_digest", .string authority.digest)] := rfl

/-- An authority is read back from its payload. -/
theorem authorityFromPayload_toPayload (hself : ∀ n, rt.equalNumbers n n = true) :
    authorityFromPayload rt (Value.dict authority.toPayload).json = .ok authority := by
  show authorityFromPayload rt (.object (Dict.display authority.items).items) = _
  generalize hmembers : (Dict.display authority.items).items = members
  have hget : ∀ name value, (name, value) ∈ authority.items → Json.get members name = value.json :=
    fun name value hmem => by
      rw [← hmembers]
      exact Dict.get_display (by simp [items_eq]) hmem
  have htext : ∀ name s, (name, Value.string s) ∈ authority.items →
      textOrEmpty rt (Json.get members name) = .ok s := fun name s hmem => by
    rw [hget name _ hmem, Value.json_string, textOrEmpty_text]
  have hsame : ¬ ¬ Json.same rt.equalNumbers (Json.get members "bound_digest")
      (Json.text authority.digest) = true := by
    rw [hget "bound_digest" (.string authority.digest) (by simp [items_eq]), Value.json_string,
      Json.same_self hself]
    exact not_not.mpr rfl
  have hoverwrite := readFlag_eq
    (hget "overwrite_existing" (.bool authority.overwriteExisting) (by simp [items_eq]))
  have hconfirmed := readFlag_eq (hget "confirmed" (.bool authority.confirmed) (by simp [items_eq]))
  unfold authorityFromPayload
  simp only
  rw [hoverwrite, hconfirmed, htext "account" authority.account (by simp [items_eq]),
    htext "as_of" authority.asOf (by simp [items_eq]),
    htext "run_id" authority.runId (by simp [items_eq]),
    htext "issuer" authority.issuer (by simp [items_eq]),
    htext "target_digest" authority.targetDigest (by simp [items_eq]),
    htext "plan_digest" authority.planDigest (by simp [items_eq]),
    htext "authority_digest" authority.authorityDigest (by simp [items_eq]),
    htext "contract_version" writeAuthorityVersion (by simp [items_eq])]
  simp only [bind, Except.bind]
  rw [boundAuthority_eq]
  exact if_neg hsame

/-- What is checked of a payload that is read. -/
theorem authorityFromPayload_ok {payload : Json} (h : authorityFromPayload rt payload = .ok authority) :
    ∃ members, payload = .object members ∧
      Json.get members "bound_digest" = Json.text authority.digest := by
  unfold authorityFromPayload at h
  cases payload with
  | object members =>
    simp only at h
    obtain ⟨overwriteExisting, -, h⟩ := except_bind_ok h
    obtain ⟨confirmed, -, h⟩ := except_bind_ok h
    obtain ⟨account, -, h⟩ := except_bind_ok h
    obtain ⟨asOf, -, h⟩ := except_bind_ok h
    obtain ⟨runId, -, h⟩ := except_bind_ok h
    obtain ⟨issuer, -, h⟩ := except_bind_ok h
    obtain ⟨targetDigest, -, h⟩ := except_bind_ok h
    obtain ⟨planDigest, -, h⟩ := except_bind_ok h
    obtain ⟨authorityDigest, -, h⟩ := except_bind_ok h
    obtain ⟨contractVersion, -, h⟩ := except_bind_ok h
    obtain ⟨bound, -, h⟩ := except_bind_ok h
    obtain ⟨hsame, h⟩ := except_guard_ok h
    cases h
    exact ⟨members, rfl, Json.same_text.mp (not_not.mp hsame)⟩
  | _ => cases h

theorem bool_of_json {b c : Bool} (h : (Value.bool b).json = (Value.bool c).json) : b = c :=
  Json.ofBool_inj.mp h

/-- Authorities of one digest are the same. -/
theorem authority_eq_of_digest (hfree : CollisionFree rt) (h : authority'.digest = authority.digest) :
    authority' = authority := by
  have hjson := items_of_dict_json
    (hfree _ _ (Value.dict _).canonical (Value.dict _).canonical h)
  have hnodup : ∀ a : BoundSnapshotWriteAuthority rt, (a.canonicalItems.map Prod.fst).Nodup := fun a => by
    simp [BoundSnapshotWriteAuthority.canonicalItems, intentItems]
  have hvalue : ∀ name v w, (name, v) ∈ authority'.canonicalItems → (name, w) ∈ authority.canonicalItems →
      v.json = w.json :=
    fun name v w hv hw => Dict.value_eq_of_display_eq (hnodup authority') (hnodup authority) hjson hv hw
  have htext : ∀ name s t, (name, Value.string s) ∈ authority'.canonicalItems →
      (name, Value.string t) ∈ authority.canonicalItems → s = t :=
    fun name s t hs ht => text_of_json (hvalue name _ _ hs ht)
  have hflag : ∀ name b c, (name, Value.bool b) ∈ authority'.canonicalItems →
      (name, Value.bool c) ∈ authority.canonicalItems → b = c :=
    fun name b c hb hc => bool_of_json (hvalue name _ _ hb hc)
  have hlist : ∀ a : BoundSnapshotWriteAuthority rt, a.canonicalItems =
      [("contract_version", Value.string writeAuthorityVersion),
        ("account", .string a.account), ("as_of", .string a.asOf), ("run_id", .string a.runId),
        ("issuer", .string a.issuer), ("overwrite_existing", .bool a.overwriteExisting),
        ("confirmed", .bool a.confirmed), ("target_digest", .string a.targetDigest),
        ("plan_digest", .string a.planDigest), ("authority_digest", .string a.authorityDigest)] :=
    fun a => rfl
  have haccount := htext "account" authority'.account authority.account (by simp [hlist]) (by simp [hlist])
  have hasOf := htext "as_of" authority'.asOf authority.asOf (by simp [hlist]) (by simp [hlist])
  have hrunId := htext "run_id" authority'.runId authority.runId (by simp [hlist]) (by simp [hlist])
  have hissuer := htext "issuer" authority'.issuer authority.issuer (by simp [hlist]) (by simp [hlist])
  have hoverwrite := hflag "overwrite_existing" authority'.overwriteExisting authority.overwriteExisting
    (by simp [hlist]) (by simp [hlist])
  have hconfirmed := hflag "confirmed" authority'.confirmed authority.confirmed
    (by simp [hlist]) (by simp [hlist])
  have htarget := htext "target_digest" authority'.targetDigest authority.targetDigest
    (by simp [hlist]) (by simp [hlist])
  have hplan := htext "plan_digest" authority'.planDigest authority.planDigest
    (by simp [hlist]) (by simp [hlist])
  have hauthority := htext "authority_digest" authority'.authorityDigest authority.authorityDigest
    (by simp [hlist]) (by simp [hlist])
  cases authority
  cases authority'
  simp only at haccount hasOf hrunId hissuer hoverwrite hconfirmed htarget hplan hauthority
  subst haccount hasOf hrunId hissuer hoverwrite hconfirmed htarget hplan hauthority
  rfl

end

end PortfolioManagement.Snapshots
