import PortfolioManagement.Mutations.Target

/-!
# A payload is read back

What the constructor of a target makes of canonical parts is a target of those parts, so reading the
payload of a target gives the target again.
-/

namespace PortfolioManagement.Mutations

open Json (text optionalText display)

section
variable {rt : MutationRuntime}

/-! ## Dicts of fields -/

theorem keys_fields (raw : HoldingField → Json) :
    (HoldingField.sorted.map fun field => (field.name, raw field)).map Prod.fst =
      HoldingField.sorted.map HoldingField.name := by
  rw [List.map_map]
  rfl

theorem nodup_fields (raw : HoldingField → Json) :
    ((HoldingField.sorted.map fun field => (field.name, raw field)).map Prod.fst).Nodup := by
  rw [keys_fields]
  decide

/-- A dict of fields has the value of each. -/
theorem get_fieldDict (raw : HoldingField → Json) (field : HoldingField) :
    Json.get (fieldDict raw) field.name = raw field :=
  Json.get_display (nodup_fields raw) (List.mem_map_of_mem (HoldingField.mem_sorted field))

theorem mem_keys_fieldDict {raw : HoldingField → Json} {key : Codes} :
    key ∈ (fieldDict raw).map Prod.fst ↔ ∃ field ∈ HoldingField.sorted, codes field.name = key := by
  rw [fieldDict, Json.mem_keys_display, keys_fields]
  simp

theorem canonical_fieldDict {raw : HoldingField → Json} (h : ∀ field, Canonical (raw field)) :
    Canonical (.object (fieldDict raw)) := by
  refine Json.canonical_display fun item hitem => ?_
  obtain ⟨field, -, rfl⟩ := List.mem_map.mp hitem
  exact h field

/-! ## The constructor -/

theorem HoldingTarget.ext {t t' : HoldingTarget rt} (hidentity : t.identity = t'.identity)
    (hvalues : t.values = t'.values) (howned : t.ownedFields = t'.ownedFields)
    (hrecord : t.baseRecordId = t'.baseRecordId) (hdigest : t.baseDigest = t'.baseDigest) : t = t' := by
  cases t
  cases t'
  cases hidentity
  cases hvalues
  cases howned
  cases hrecord
  cases hdigest
  rfl

theorem strippedId_name (name : Option Name) : strippedId (name.map Subtype.val) = name := by
  unfold strippedId
  cases name with
  | none => rfl
  | some name =>
    show (if h : strip name.1 = "" then none else some ⟨strip name.1, validName_strip h⟩) = some name
    rw [dif_neg (by rw [name.2.stripped]; exact name.2.ne_empty)]
    exact congrArg some (Subtype.ext name.2.stripped)

theorem baseRecordIdOf_name (name : Option Name) :
    baseRecordIdOf rt (optionalText (name.map Subtype.val)) = .ok name := by
  unfold baseRecordIdOf
  cases name with
  | none =>
    rw [show (optionalText ((none : Option Name).map Subtype.val)).strOrEmpty rt.repr = codes "" from rfl,
      textOf?_codes]
    rfl
  | some name =>
    have htext : (optionalText (Option.map Subtype.val (some name))).strOrEmpty rt.repr = codes name.1 :=
      Json.strOrEmpty_text rt.repr name.1
    simp only [htext, textOf?_codes]
    exact congrArg Except.ok (strippedId_name (some name))

/-- What a target is made of. -/
theorem ofParts_ok {identity : HoldingIdentity} {v : HoldingValues rt} {owned : List HoldingField}
    {recordId : Option Name} {digest : Name} {t : HoldingTarget rt}
    (h : HoldingTarget.ofParts rt identity v owned recordId digest = .ok t) :
    t.identity = identity ∧ t.values = v ∧ t.ownedFields = HoldingField.sorted.filter (· ∈ owned) ∧
      t.baseRecordId = recordId ∧ t.baseDigest = digest := by
  unfold HoldingTarget.ofParts at h
  dsimp only at h
  split_ifs at h
  cases h
  exact ⟨rfl, rfl, rfl, rfl, rfl⟩

/-- The parts of a target are accepted again. -/
theorem ofParts_self (t : HoldingTarget rt) {owned : List HoldingField}
    (howned : HoldingField.sorted.filter (· ∈ owned) = t.ownedFields) :
    HoldingTarget.ofParts rt t.identity t.values owned t.baseRecordId t.baseDigest = .ok t := by
  unfold HoldingTarget.ofParts
  dsimp only
  rw [dif_pos t.registered, dif_pos (by rw [howned]; exact t.owned),
    dif_pos fun hnone => (t.created hnone).1,
    dif_pos fun hnone => by rw [howned]; exact (t.created hnone).2.1,
    dif_pos fun hnone => by rw [howned]; exact (t.created hnone).2.2]
  exact congrArg Except.ok (HoldingTarget.ext rfl rfl howned rfl rfl)

theorem completeValues_fieldDict (raw : HoldingField → Json) : completeValues (fieldDict raw) := by
  refine ⟨fun field hfield => mem_keys_fieldDict.mpr ⟨field, hfield, rfl⟩, fun key hkey => ?_⟩
  obtain ⟨field, hfield, rfl⟩ := mem_keys_fieldDict.mp hkey
  exact List.mem_map_of_mem hfield

theorem filter_names (owned : List HoldingField) :
    HoldingField.sorted.filter (fun field => field.name ∈ owned.map HoldingField.name) =
      HoldingField.sorted.filter (· ∈ owned) := by
  refine List.filter_congr fun field _ => ?_
  rw [decide_eq_decide]
  exact List.mem_map_of_injective HoldingField.name_injective

/-- The constructor on canonical values. -/
theorem make_fieldDict (identity : HoldingIdentity) (v : HoldingValues rt) (owned : List HoldingField)
    (recordId : Option Name) (digest : Name) :
    HoldingTarget.make rt identity (fieldDict v.raw) (owned.map HoldingField.name)
        (optionalText (recordId.map Subtype.val)) (text digest) =
      HoldingTarget.ofParts rt identity v (HoldingField.sorted.filter (· ∈ owned)) recordId digest := by
  have hnames : ¬ ∃ name ∈ owned.map HoldingField.name,
      name ∉ HoldingField.sorted.map HoldingField.name := by
    rintro ⟨name, hname, hunknown⟩
    obtain ⟨field, -, rfl⟩ := List.mem_map.mp hname
    exact hunknown (List.mem_map_of_mem (HoldingField.mem_sorted field))
  unfold HoldingTarget.make
  rw [if_neg (not_not.mpr (completeValues_fieldDict v.raw))]
  simp only [get_fieldDict, canonicalValues_raw, filter_names, bind, Except.bind]
  rw [if_neg hnames]
  simp only [baseRecordIdOf_name, requiredText_name]

/-! ## The payload -/

theorem ownedNames_texts (fields : List HoldingField) :
    ownedNames rt (fields.map fun field => text field.name) = .ok (fields.map HoldingField.name) := by
  unfold ownedNames
  induction fields with
  | nil => rfl
  | cons field fields ih =>
    rw [List.map_cons, List.mapM_cons, ih]
    rw [show (text field.name).str rt.repr = codes field.name from rfl, textOf?_codes]
    rfl

theorem make_asDict (identity : HoldingIdentity) :
    HoldingIdentity.make rt (Json.get identity.asDict "asset_id") (Json.get identity.asDict "account")
      (Json.get identity.asDict "broker") = .ok identity := by
  have hget : ∀ name value, (name, value) ∈ [("asset_id", text identity.assetId),
      ("account", text identity.account), ("broker", text identity.broker)] →
      Json.get identity.asDict name = value := fun name value hmem =>
    Json.get_display (show ["asset_id", "account", "broker"].Nodup by decide) hmem
  unfold HoldingIdentity.make
  rw [hget "asset_id" (text identity.assetId) (by simp), hget "account" (text identity.account) (by simp),
    hget "broker" (text identity.broker) (by simp), requiredText_name, requiredText_name,
    requiredText_name]
  rfl

/-- The parts of a payload. -/
structure PayloadOf (t : HoldingTarget rt) (payload : Members) : Prop where
  identity : Json.get payload "identity" = .object t.identity.asDict
  values : Json.get payload "values" = .object (fieldDict t.values.raw)
  owned : Json.get payload "owned_fields" = .array (t.ownedFields.map fun field => text field.name)
  recordId : Json.get payload "base_record_id" = optionalText (t.baseRecordId.map Subtype.val)
  digest : Json.get payload "base_digest" = text t.baseDigest

theorem payloadOf_toPayload (t : HoldingTarget rt) : PayloadOf t t.toPayload := by
  have hget : ∀ name value, (name, value) ∈ [("identity", Json.object t.identity.asDict),
      ("values", .object (fieldDict t.values.raw)),
      ("owned_fields", .array (t.ownedFields.map fun field => text field.name)),
      ("base_record_id", optionalText (t.baseRecordId.map Subtype.val)),
      ("base_digest", text t.baseDigest)] → Json.get t.toPayload name = value := fun name value hmem =>
    Json.get_display (show ["identity", "values", "owned_fields", "base_record_id", "base_digest"].Nodup
      by decide) hmem
  constructor <;> exact hget _ _ (by simp)

/-- A payload is read back as the target it was written of. -/
theorem fromPayload_toPayload (t : HoldingTarget rt) :
    HoldingTarget.fromPayload rt t.toPayload = .ok t := by
  have hparts := payloadOf_toPayload t
  unfold HoldingTarget.fromPayload
  rw [hparts.identity, hparts.values, hparts.owned, hparts.recordId, hparts.digest]
  simp only [make_asDict, ownedNames_texts, bind, Except.bind, make_fieldDict]
  refine ofParts_self t ?_
  rw [← t.sorted, ← t.sorted]

end

end PortfolioManagement.Mutations
