import PortfolioManagement.Lib.Joined
import PortfolioManagement.Domain.Text

/-!
# Keys joined from names

Fingerprints, snapshot rows and ledger rows are keyed by texts joined from stripped names, with `|`
or `:` between them. Nothing keeps a name from containing the delimiter, so a key belongs to one
tuple of names only when none of them has a seam.
-/

namespace PortfolioManagement

/-- A character that `str.strip` removes. -/
def SpaceChar (c : Char) : Prop := isSpace c = true

instance : DecidablePred SpaceChar := fun c => inferInstanceAs (Decidable (isSpace c = true))

/-- What the contracts leave of a required text: stripped, and not empty. -/
structure ValidName (s : String) : Prop where
  ne_empty : s ≠ ""
  stripped : strip s = s

instance (s : String) : Decidable (ValidName s) :=
  decidable_of_iff (s ≠ "" ∧ strip s = s) ⟨fun h => ⟨h.1, h.2⟩, fun h => ⟨h.1, h.2⟩⟩

/-- A stripped text that is not empty is a name. -/
theorem validName_strip {s : String} (h : strip s ≠ "") : ValidName (strip s) := ⟨h, strip_strip s⟩

/-- Nothing is dropped from a text exactly when it does not begin with a blank. -/
theorem dropWhile_eq_self_iff_startsOk {xs : List Char} :
    xs.dropWhile isSpace = xs ↔ Joined.StartsOk SpaceChar xs := by
  cases xs with
  | nil => exact iff_of_true rfl Joined.startsOk_nil
  | cons c xs =>
    rw [List.dropWhile_eq_self_iff]
    constructor
    · intro h d hd hblank
      cases hd
      exact h (Nat.succ_pos _) hblank
    · intro h _ hblank
      exact h c rfl hblank

/-- A text ends well exactly when it begins well in reverse. -/
theorem startsOk_reverse {xs : List Char} :
    Joined.StartsOk SpaceChar xs.reverse ↔ Joined.EndsOk SpaceChar xs := by
  unfold Joined.StartsOk Joined.EndsOk
  rw [List.head?_reverse]

/-- A text is stripped when there is no blank at its ends. -/
theorem strip_eq_self_iff {s : String} :
    strip s = s ↔ Joined.StartsOk SpaceChar s.toList ∧ Joined.EndsOk SpaceChar s.toList := by
  unfold strip
  rw [← dropWhile_eq_self_iff_startsOk, ← startsOk_reverse, ← dropWhile_eq_self_iff_startsOk,
    ← String.toList_inj, String.toList_ofList]
  constructor
  · intro h
    have hfront : s.toList.dropWhile isSpace = s.toList := by
      refine (List.dropWhile_suffix isSpace).eq_of_length_le ?_
      calc s.toList.length
          = ((s.toList.dropWhile isSpace).reverse.dropWhile isSpace).length := by
            conv_lhs => rw [← h, List.length_reverse]
        _ ≤ (s.toList.dropWhile isSpace).reverse.length :=
            (List.dropWhile_suffix isSpace).length_le
        _ = (s.toList.dropWhile isSpace).length := List.length_reverse
    rw [hfront] at h
    refine ⟨hfront, ?_⟩
    rw [← List.reverse_inj, h, List.reverse_reverse]
  · rintro ⟨hfront, hback⟩
    rw [hfront, hback, List.reverse_reverse]

/-- The names are those of the library, for the blanks of `str.strip`. -/
theorem validName_iff {s : String} : ValidName s ↔ Joined.IsName SpaceChar s.toList := by
  constructor
  · rintro ⟨hne, hstrip⟩
    obtain ⟨hstarts, hends⟩ := strip_eq_self_iff.mp hstrip
    exact ⟨fun h => hne (String.toList_eq_nil_iff.mp h), hstarts, hends⟩
  · rintro ⟨hne, hstarts, hends⟩
    exact ⟨fun h => hne (String.toList_eq_nil_iff.mpr h), strip_eq_self_iff.mpr ⟨hstarts, hends⟩⟩

/-- `delimiter.join(fields)`, character by character. -/
theorem toList_joined (d : Char) (fields : List String) :
    ((String.singleton d).intercalate fields).toList =
      Joined.join d (fields.map String.toList) := by
  induction fields with
  | nil => simp [Joined.join]
  | cons x rest ih =>
    cases rest with
    | nil => simp [Joined.join]
    | cons y rest =>
      rw [String.intercalate_cons_cons, String.toList_append, String.toList_append, ih]
      simp [Joined.join, String.toList_singleton]

/-- The fields of a key have no seam at the delimiter. -/
def Seamless (d : Char) (fields : List String) : Prop :=
  Joined.Seamless d SpaceChar (fields.map String.toList)

/-- Names without the delimiter have no seam. -/
theorem seamless_of_not_mem {d : Char} {fields : List String} (h : ∀ s ∈ fields, d ∉ s.toList) :
    Seamless d fields := by
  refine Joined.seamless_of_not_mem fun x hx => ?_
  obtain ⟨s, hs, rfl⟩ := List.mem_map.mp hx
  exact h s hs

/-- A joined key has one reading as that many names exactly when no name has a seam. -/
theorem seamless_iff_unique {d : Char} (hd : ¬ SpaceChar d) {fields : List String}
    (hfields : ∀ x ∈ fields, ValidName x) :
    Seamless d fields ↔ ∀ names : List String, names.length = fields.length →
      (∀ x ∈ names, ValidName x) →
      (String.singleton d).intercalate names = (String.singleton d).intercalate fields →
      names = fields := by
  have hlists : ∀ x ∈ fields.map String.toList, Joined.IsName SpaceChar x := by
    intro x hx
    obtain ⟨s, hs, rfl⟩ := List.mem_map.mp hx
    exact validName_iff.mp (hfields s hs)
  have hinj : Function.Injective (List.map String.toList) :=
    List.map_injective_iff.mpr fun _ _ => String.toList_inj.mp
  unfold Seamless
  rw [Joined.seamless_iff hd hlists]
  constructor
  · intro h names hlen hnames hjoin
    by_contra hne
    refine h ⟨names.map String.toList, by simpa using hlen, ?_, ?_, fun heq => hne (hinj heq)⟩
    · intro x hx
      obtain ⟨s, hs, rfl⟩ := List.mem_map.mp hx
      exact validName_iff.mp (hnames s hs)
    · rw [← toList_joined, ← toList_joined, hjoin]
  · rintro h ⟨names, hlen, hnames, hjoin, hne⟩
    have hback : (names.map String.ofList).map String.toList = names := by
      rw [List.map_map]
      exact List.map_id'' (fun x => String.toList_ofList) names
    refine hne ?_
    rw [← hback, h (names.map String.ofList) (by simpa using hlen) ?_ ?_]
    · intro s hs
      obtain ⟨x, hx, rfl⟩ := List.mem_map.mp hs
      exact validName_iff.mpr (String.toList_ofList ▸ hnames x hx)
    · rw [← String.toList_inj, toList_joined, toList_joined, hback, hjoin]

/-! ## Identities -/

/-- `_identity` joins its parts. -/
theorem identityText_eq_joined (assetId account broker : String) :
    identityText assetId account broker =
      (String.singleton '|').intercalate [assetId, account, broker] := by
  rw [String.intercalate_cons_cons, String.intercalate_cons_cons, String.intercalate_singleton]
  simp [identityText, String.append_assoc, show String.singleton '|' = "|" from rfl]

/-- A cut is before the first bar. -/
theorem cutBar_some {cs front rest : List Char} (h : cutBar cs = (front, some rest)) :
    cs = front ++ '|' :: rest ∧ '|' ∉ front := by
  unfold cutBar at h
  split at h
  · cases h
  · rename_i c rest' hdrop
    cases h
    have hc : c = '|' := by
      have := List.head?_dropWhile_not (fun c => decide (c ≠ '|')) cs
      rw [hdrop] at this
      simpa using this
    subst hc
    refine ⟨?_, fun hmem => ?_⟩
    · rw [← hdrop, List.takeWhile_append_dropWhile]
    · simpa using List.mem_takeWhile_imp hmem

/-- What an identity splits into joins to it again, and has bars in the broker only. -/
theorem splitIdentity_some {s a b c : String} (h : splitIdentity s = some (a, b, c)) :
    s = identityText a b c ∧ BarFree a ∧ BarFree b := by
  unfold splitIdentity at h
  split at h
  · rename_i asset rest hcut
    split at h
    · rename_i account broker hcut'
      simp only [Option.some.injEq, Prod.mk.injEq] at h
      obtain ⟨rfl, rfl, rfl⟩ := h
      obtain ⟨hs, ha⟩ := cutBar_some hcut
      obtain ⟨hrest, hb⟩ := cutBar_some hcut'
      refine ⟨?_, by simpa [BarFree] using ha, by simpa [BarFree] using hb⟩
      rw [← String.toList_inj, hs, hrest]
      simp [identityText, String.toList_append]
    · cases h
  · cases h

/-- An identity names one holding: it splits into its account and broker, and no other names have
it. -/
structure IdentityExact (assetId account broker : String) : Prop where
  split : (splitIdentity (identityText assetId account broker)).map Prod.snd =
    some (account, broker)
  unique : ∀ assetId' account' broker', ValidName assetId' → ValidName account' →
    ValidName broker' → identityText assetId' account' broker' = identityText assetId account broker →
    assetId' = assetId ∧ account' = account ∧ broker' = broker

/-- An identity splits into its account and broker exactly when bars are in the broker only. -/
theorem split_iff_barFree {assetId account broker : String} :
    (splitIdentity (identityText assetId account broker)).map Prod.snd = some (account, broker) ↔
      BarFree assetId ∧ BarFree account := by
  constructor
  · intro h
    obtain ⟨⟨a, b, c⟩, hsplit, heq⟩ := Option.map_eq_some_iff.mp h
    obtain ⟨rfl, rfl⟩ := Prod.mk.inj heq
    obtain ⟨htext, ha, hb⟩ := splitIdentity_some hsplit
    have hasset : assetId = a := by
      simpa [identityText, String.append_left_inj, String.append_assoc] using htext
    exact ⟨hasset ▸ ha, hb⟩
  · rintro ⟨ha, hb⟩
    rw [splitIdentity_identityText broker ha hb]
    rfl

/-- An identity names one holding exactly when bars are in the broker only, and not at a seam. -/
theorem identityExact_iff {assetId account broker : String} (hasset : ValidName assetId)
    (haccount : ValidName account) (hbroker : ValidName broker) :
    IdentityExact assetId account broker ↔
      BarFree assetId ∧ BarFree account ∧ Seamless '|' [assetId, account, broker] := by
  have hseam := @seamless_iff_unique '|' (by decide) [assetId, account, broker]
    (by simp [hasset, haccount, hbroker])
  rw [hseam, ← and_assoc, ← split_iff_barFree]
  constructor
  · rintro ⟨hsplit, hunique⟩
    refine ⟨hsplit, fun names hlen hnames hjoin => ?_⟩
    obtain ⟨a, b, c, rfl⟩ := List.length_eq_three.mp hlen
    rw [← identityText_eq_joined, ← identityText_eq_joined] at hjoin
    obtain ⟨rfl, rfl, rfl⟩ := hunique a b c (hnames a (by simp)) (hnames b (by simp))
      (hnames c (by simp)) hjoin
    rfl
  · rintro ⟨hsplit, hunique⟩
    refine ⟨hsplit, fun a b c ha hb hc heq => ?_⟩
    have := hunique [a, b, c] rfl (by simp [ha, hb, hc])
      (by rw [← identityText_eq_joined, ← identityText_eq_joined, heq])
    simpa using this

/-! ## Snapshot rows -/

/-- The fields of a snapshot's business key, as `str(value or "")`. -/
structure SnapshotKeyFields where
  account : String
  asOf : String
  broker : String
  assetId : String

namespace SnapshotKeyFields

/-- The stripped fields, in the order of the key. -/
def values (fields : SnapshotKeyFields) : List String :=
  [strip fields.account, strip fields.asOf, strip fields.broker, strip fields.assetId]

/-- The names of the blank fields, sorted. -/
def missing (fields : SnapshotKeyFields) : List String :=
  ([("account", strip fields.account), ("as_of", strip fields.asOf),
    ("asset_id", strip fields.assetId), ("broker", strip fields.broker)].filter
      fun field => field.2 = "").map Prod.fst

/-- `snapshot_dedup_key`. -/
def snapshotDedupKey (fields : SnapshotKeyFields) : Except Error String :=
  if fields.missing ≠ [] then
    .error (.value ("snapshot dedup key requires nonblank fields: " ++
      ", ".intercalate fields.missing))
  else .ok (":".intercalate fields.values)

/-- Nothing is missing exactly when every stripped field is a name. -/
theorem missing_eq_nil_iff {fields : SnapshotKeyFields} :
    fields.missing = [] ↔ ∀ x ∈ fields.values, ValidName x := by
  have hname : ∀ s, ValidName (strip s) ↔ strip s ≠ "" := fun s => ⟨(·.ne_empty), validName_strip⟩
  simp only [missing, values, List.map_eq_nil_iff, List.filter_eq_nil_iff, List.forall_mem_cons,
    hname, decide_eq_true_eq]
  constructor
  · rintro ⟨haccount, hasOf, hassetId, hbroker, -⟩
    exact ⟨haccount, hasOf, hbroker, hassetId, by simp⟩
  · rintro ⟨haccount, hasOf, hbroker, hassetId, -⟩
    exact ⟨haccount, hasOf, hassetId, hbroker, by simp⟩

/-- The key of names is their text. -/
theorem snapshotDedupKey_ok_iff {fields : SnapshotKeyFields} {key : String} :
    fields.snapshotDedupKey = .ok key ↔
      (∀ x ∈ fields.values, ValidName x) ∧ key = (String.singleton ':').intercalate fields.values := by
  unfold snapshotDedupKey
  by_cases hmissing : fields.missing = []
  · rw [if_neg (not_not.mpr hmissing), Except.ok.injEq]
    exact ⟨fun h => ⟨missing_eq_nil_iff.mp hmissing, h.symm⟩, fun h => h.2.symm⟩
  · rw [if_pos hmissing]
    exact iff_of_false (by simp) fun h => hmissing (missing_eq_nil_iff.mpr h.1)

/-- A key names one snapshot row: no other fields have it. -/
def KeyExact (fields : SnapshotKeyFields) : Prop :=
  ∀ other : SnapshotKeyFields, other.snapshotDedupKey = fields.snapshotDedupKey →
    other.values = fields.values

/-- An accepted key names one snapshot row exactly when no field has a seam. -/
theorem keyExact_iff {fields : SnapshotKeyFields} {key : String}
    (h : fields.snapshotDedupKey = .ok key) : fields.KeyExact ↔ Seamless ':' fields.values := by
  obtain ⟨hnames, rfl⟩ := snapshotDedupKey_ok_iff.mp h
  rw [seamless_iff_unique (by decide) hnames]
  unfold KeyExact
  rw [h]
  constructor
  · intro hexact names hlen hother hjoin
    obtain ⟨a, b, c, d, rfl⟩ := List.length_eq_four.mp hlen
    have hstrip : ∀ x ∈ [a, b, c, d], strip x = x := fun x hx => (hother x hx).stripped
    have hvalues : (⟨a, b, c, d⟩ : SnapshotKeyFields).values = [a, b, c, d] := by
      simp [values, hstrip]
    rw [← hexact ⟨a, b, c, d⟩ (snapshotDedupKey_ok_iff.mpr ⟨hvalues ▸ hother, by rw [hvalues, hjoin]⟩),
      hvalues]
  · intro hunique other hother
    obtain ⟨hothers, hkey⟩ := snapshotDedupKey_ok_iff.mp hother
    exact hunique other.values rfl hothers hkey.symm

end SnapshotKeyFields

end PortfolioManagement
