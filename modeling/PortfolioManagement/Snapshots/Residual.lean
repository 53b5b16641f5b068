import PortfolioManagement.Snapshots.ExactSet

/-!
# When a replay is accepted

One lemma for each loop body of `residual_actions` says when it does not raise and what it then finds to
do; together they say which current sets are accepted.
-/

namespace PortfolioManagement.Snapshots

/-! ## Rows of a set -/

section
variable {rows : List HoldingSnapshot} {row other : HoldingSnapshot} {key : BusinessKey}

theorem mem_keysOf : key ∈ keysOf rows ↔ ∃ row ∈ rows, row.key = key := List.mem_map

theorem key_mem_keysOf (h : row ∈ rows) : row.key ∈ keysOf rows := List.mem_map_of_mem h

theorem rowAt_eq_some (hkeys : (keysOf rows).Nodup) :
    rowAt rows key = some row ↔ row ∈ rows ∧ row.key = key := by
  constructor
  · intro h
    exact ⟨List.mem_of_find?_eq_some h, by simpa using List.find?_some h⟩
  · rintro ⟨hrow, rfl⟩
    cases hfind : rowAt rows row.key with
    | none =>
      have hnone := List.find?_eq_none.mp hfind row hrow
      simp at hnone
    | some found =>
      have hfound : found.key = row.key := by simpa using List.find?_some hfind
      rw [eq_of_key_eq hkeys (List.mem_of_find?_eq_some hfind) hrow hfound]

theorem rowAt_eq_none : rowAt rows key = none ↔ key ∉ keysOf rows := by
  unfold rowAt keysOf
  rw [List.find?_eq_none, List.mem_map]
  simp

/-- Payloads are the same exactly when the rows are, up to the record id. -/
theorem payload_eq_iff {p q : RowPayload} (hrow : row.payload = .ok p) (hother : other.payload = .ok q) :
    p = q ↔ row = other.withRecordId row.recordId := by
  constructor
  · rintro rfl
    exact HoldingSnapshot.eq_of_payload hrow hother
  · intro heq
    have hpayload : row.payload = other.payload := by
      rw [heq]
      rfl
    rw [hrow, hother] at hpayload
    exact Except.ok.inj hpayload

end

/-! ## Loop bodies -/

/-- What `residual_actions` finds to do about a desired row of a safe set. -/
def desiredResult (current : List HoldingSnapshot) (desired : HoldingSnapshot) : KeyAction :=
  match rowAt current desired.key with
  | none => .create desired
  | some row =>
    if row = desired.withRecordId row.recordId then .unchanged
    else .update row.id desired

/-- What it finds to do about an obsolete row of a safe set. -/
def obsoleteResult (current : List HoldingSnapshot) (beforeRow : HoldingSnapshot) : KeyAction :=
  match rowAt current beforeRow.key with
  | none => .unchanged
  | some row => .delete row.id

section
variable {plan : SnapshotExactSetPlan} {current : List HoldingSnapshot}
  {row desired beforeRow : HoldingSnapshot} {action : KeyAction}

theorem SnapshotExactSetPlan.validBefore : ValidRows plan.account plan.asOf true plan.before :=
  validateRows_ok.mp plan.beforeValid

theorem SnapshotExactSetPlan.validDesired : ValidRows plan.account plan.asOf false plan.desired :=
  validateRows_ok.mp plan.desiredValid

theorem checkBoundRow_ok {p q : RowPayload} (hrow : row.payload = .ok p) (hdesired : desired.payload = .ok q) :
    SnapshotExactSetPlan.checkBoundRow row beforeRow p q = .ok () ↔
      beforeRow.Encodable ∧ row.recordId = beforeRow.recordId ∧
        (row = beforeRow ∨ row = desired.withRecordId beforeRow.recordId) := by
  unfold SnapshotExactSetPlan.checkBoundRow
  by_cases hid : row.recordId = beforeRow.recordId
  · rw [if_neg (not_not.mpr hid), HoldingSnapshot.encodable_iff]
    cases hbefore : beforeRow.payload with
    | error e => exact iff_of_false (fun h => by cases h) fun ⟨⟨_, h⟩, _⟩ => by cases h
    | ok b =>
      have hsame := payload_eq_iff hrow hbefore
      have htarget := payload_eq_iff hrow hdesired
      rw [hid] at hsame htarget
      rw [HoldingSnapshot.withRecordId_self] at hsame
      by_cases heither : p ≠ b ∧ p ≠ q
      · refine iff_of_false (fun h => ?_) fun ⟨_, _, h⟩ => ?_
        · have hraise : (.error (.matchesNeither row.key) : Except SnapshotError Unit) = .ok () := by
            rw [← h]
            exact (if_pos heither).symm
          cases hraise
        · rcases h with h | h
          · exact heither.1 (hsame.mpr h)
          · exact heither.2 (htarget.mpr h)
      · refine iff_of_true (if_neg heither) ⟨⟨b, rfl⟩, hid, ?_⟩
        by_cases hb : p = b
        · exact .inl (hsame.mp hb)
        · exact .inr (htarget.mp (not_not.mp fun hq => heither ⟨hb, hq⟩))
  · rw [if_pos hid]
    exact iff_of_false (fun h => by cases h) fun h => hid h.2.1

/-- What the plan asks of the current row of a desired key. -/
structure RowSafe (plan : SnapshotExactSetPlan) (row desired : HoldingSnapshot) : Prop where
  /-- a row bound before is that record, as it was or as desired -/
  bound : ∀ b ∈ plan.before, b.key = desired.key →
    row.recordId = b.recordId ∧ (row = b ∨ row = desired.withRecordId b.recordId)
  /-- a new row is as desired -/
  new : desired.key ∉ keysOf plan.before → row = desired.withRecordId row.recordId

theorem checkCurrentRow_ok {p q : RowPayload} (hrow : row.payload = .ok p)
    (hdesired : desired.payload = .ok q) : plan.checkCurrentRow row desired p q = .ok () ↔
      RowSafe plan row desired ∧ ∀ b ∈ plan.before, b.key = desired.key → b.Encodable := by
  have hbefore : (keysOf plan.before).Nodup := plan.validBefore.keys
  unfold SnapshotExactSetPlan.checkCurrentRow
  cases hb : rowAt plan.before desired.key with
  | none =>
    have hnew := rowAt_eq_none.mp hb
    have hnobefore : ∀ b ∈ plan.before, b.key ≠ desired.key := fun b hmem heq =>
      hnew (heq ▸ key_mem_keysOf hmem)
    by_cases hpq : p = q
    · refine iff_of_true (if_neg (not_not.mpr hpq)) ⟨⟨fun b hb hkey => absurd hkey (hnobefore b hb),
        fun _ => (payload_eq_iff hrow hdesired).mp hpq⟩, fun b hb hkey => absurd hkey (hnobefore b hb)⟩
    · simp only
      rw [if_pos hpq]
      exact iff_of_false (fun h => by cases h) fun h =>
        hpq ((payload_eq_iff hrow hdesired).mpr (h.1.new hnew))
  | some b =>
    obtain ⟨hbmem, hbkey⟩ := (rowAt_eq_some hbefore).mp hb
    have hunique : ∀ r ∈ plan.before, r.key = desired.key → r = b := fun r hr hrkey =>
      eq_of_key_eq hbefore hr hbmem (hrkey.trans hbkey.symm)
    simp only
    rw [checkBoundRow_ok hrow hdesired]
    constructor
    · rintro ⟨hencodable, hbound⟩
      refine ⟨⟨fun r hr hrkey => ?_, fun hnew => absurd (hbkey ▸ key_mem_keysOf hbmem) hnew⟩,
        fun r hr hrkey => ?_⟩
      · rwa [hunique r hr hrkey]
      · rwa [hunique r hr hrkey]
    · rintro ⟨hsafe, hencodable⟩
      exact ⟨hencodable b hbmem hbkey, hsafe.bound b hbmem hbkey⟩

/-- What holds of a desired row when its loop body does not raise. -/
structure DesiredSafe (plan : SnapshotExactSetPlan) (current : List HoldingSnapshot)
    (desired : HoldingSnapshot) : Prop where
  /-- a row bound before did not disappear -/
  kept : desired.key ∈ keysOf plan.before → desired.key ∈ keysOf current
  /-- the current row is one the plan accepts -/
  safe : ∀ row ∈ current, row.key = desired.key → RowSafe plan row desired
  /-- the rows compared have payloads -/
  encodable : ∀ row ∈ current, row.key = desired.key →
    ∀ r, r = row ∨ r ∈ plan.before ∧ r.key = desired.key ∨ r = desired → r.Encodable

theorem desiredAction_ok (hcurrent : (keysOf current).Nodup) :
    plan.desiredAction current desired = .ok action ↔
      DesiredSafe plan current desired ∧ action = desiredResult current desired := by
  unfold SnapshotExactSetPlan.desiredAction desiredResult
  cases hrow : rowAt current desired.key with
  | none =>
    have habsent := rowAt_eq_none.mp hrow
    have hnone : ∀ row ∈ current, row.key ≠ desired.key := fun row hmem heq =>
      habsent (heq ▸ key_mem_keysOf hmem)
    cases hb : rowAt plan.before desired.key with
    | none =>
      have hnew := rowAt_eq_none.mp hb
      constructor
      · intro h
        cases h
        exact ⟨⟨fun h => absurd h hnew, fun row hmem heq => absurd heq (hnone row hmem),
          fun row hmem heq => absurd heq (hnone row hmem)⟩, rfl⟩
      · rintro ⟨-, rfl⟩
        rfl
    | some b =>
      obtain ⟨hmem, hkey⟩ := (rowAt_eq_some plan.validBefore.keys).mp hb
      refine iff_of_false (fun h => by cases h) fun ⟨hsafe, _⟩ => ?_
      exact habsent (hsafe.kept (hkey ▸ key_mem_keysOf hmem))
  | some row =>
    obtain ⟨hmem, hkey⟩ := (rowAt_eq_some hcurrent).mp hrow
    have hunique : ∀ r ∈ current, r.key = desired.key → r = row := fun r hr hrkey =>
      eq_of_key_eq hcurrent hr hmem (hrkey.trans hkey.symm)
    simp only
    cases hp : row.payload with
    | error e =>
      refine iff_of_false (fun h => by cases h) fun ⟨hsafe, _⟩ => ?_
      obtain ⟨p, hok⟩ := HoldingSnapshot.encodable_iff.mp (hsafe.encodable row hmem hkey row (.inl rfl))
      rw [hp] at hok
      cases hok
    | ok p =>
      cases hq : desired.payload with
      | error e =>
        refine iff_of_false (fun h => by cases h) fun ⟨hsafe, _⟩ => ?_
        obtain ⟨q, hok⟩ := HoldingSnapshot.encodable_iff.mp
          (hsafe.encodable row hmem hkey desired (.inr (.inr rfl)))
        rw [hq] at hok
        cases hok
      | ok q =>
        cases hchecked : plan.checkCurrentRow row desired p q with
        | error e =>
          refine iff_of_false (fun h => ?_) fun ⟨hsafe, _⟩ => ?_
          · have hraise : (.error e : Except SnapshotError KeyAction) = .ok action := by
              rw [← h]
              show _ = (plan.checkCurrentRow row desired p q >>= _)
              rw [hchecked]
              rfl
            cases hraise
          · have hok := (checkCurrentRow_ok hp hq).mpr ⟨hsafe.safe row hmem hkey,
              fun b hb hbkey => hsafe.encodable row hmem hkey b (.inr (.inl ⟨hb, hbkey⟩))⟩
            rw [hchecked] at hok
            cases hok
        | ok u =>
          obtain ⟨hsafe, hencodable⟩ := (checkCurrentRow_ok hp hq).mp hchecked
          have hdesired : DesiredSafe plan current desired := by
            refine ⟨fun _ => hkey ▸ key_mem_keysOf hmem, fun r hr hrkey => ?_, fun r hr hrkey s hs => ?_⟩
            · rwa [hunique r hr hrkey]
            · rcases hs with rfl | ⟨hb, hbkey⟩ | rfl
              · rw [hunique s hr hrkey]
                exact HoldingSnapshot.encodable_iff.mpr ⟨p, hp⟩
              · exact hencodable s hb hbkey
              · exact HoldingSnapshot.encodable_iff.mpr ⟨q, hq⟩
          have hstep : (plan.checkCurrentRow row desired p q >>= fun _ =>
              if p = q then (pure .unchanged : Except SnapshotError KeyAction)
              else pure (.update row.id desired)) =
              .ok (if row = desired.withRecordId row.recordId then .unchanged
                else .update row.id desired) := by
            rw [hchecked]
            show (if p = q then _ else _) = _
            simp only [payload_eq_iff hp hq]
            split_ifs <;> rfl
          constructor
          · intro h
            exact ⟨hdesired, Except.ok.inj (h.symm.trans hstep)⟩
          · rintro ⟨-, rfl⟩
            exact hstep

/-- What holds of an obsolete row when its loop body does not raise. -/
structure ObsoleteSafe (current : List HoldingSnapshot) (beforeRow : HoldingSnapshot) : Prop where
  /-- the row is gone or as it was -/
  kept : ∀ row ∈ current, row.key = beforeRow.key → row = beforeRow
  /-- the rows compared have payloads -/
  encodable : beforeRow.key ∈ keysOf current → beforeRow.Encodable

theorem obsoleteAction_ok (hcurrent : (keysOf current).Nodup) :
    SnapshotExactSetPlan.obsoleteAction current beforeRow = .ok action ↔
      ObsoleteSafe current beforeRow ∧ action = obsoleteResult current beforeRow := by
  unfold SnapshotExactSetPlan.obsoleteAction obsoleteResult
  cases hrow : rowAt current beforeRow.key with
  | none =>
    have habsent := rowAt_eq_none.mp hrow
    constructor
    · intro h
      cases h
      exact ⟨⟨fun row hmem heq => absurd (heq ▸ key_mem_keysOf hmem) habsent, fun h => absurd h habsent⟩,
        rfl⟩
    · rintro ⟨-, rfl⟩
      rfl
  | some row =>
    obtain ⟨hmem, hkey⟩ := (rowAt_eq_some hcurrent).mp hrow
    have hunique : ∀ r ∈ current, r.key = beforeRow.key → r = row := fun r hr hrkey =>
      eq_of_key_eq hcurrent hr hmem (hrkey.trans hkey.symm)
    simp only
    by_cases hid : row.recordId = beforeRow.recordId
    · rw [if_neg (not_not.mpr hid)]
      cases hp : row.payload with
      | error e =>
        refine iff_of_false (fun h => by cases h) fun ⟨hsafe, _⟩ => ?_
        obtain ⟨p, hok⟩ := HoldingSnapshot.encodable_iff.mp
          (hsafe.encodable (hkey ▸ key_mem_keysOf hmem))
        rw [← hsafe.kept row hmem hkey, hp] at hok
        cases hok
      | ok p =>
        cases hb : beforeRow.payload with
        | error e =>
          refine iff_of_false (fun h => by cases h) fun ⟨hsafe, _⟩ => ?_
          obtain ⟨q, hok⟩ := HoldingSnapshot.encodable_iff.mp
            (hsafe.encodable (hkey ▸ key_mem_keysOf hmem))
          rw [hb] at hok
          cases hok
        | ok b =>
          have hsame := payload_eq_iff hp hb
          rw [hid, HoldingSnapshot.withRecordId_self] at hsame
          by_cases hpb : p = b
          · have hstep : (if p ≠ b then (throw (.obsoleteChanged beforeRow.key) :
                Except SnapshotError KeyAction) else pure (.delete row.id)) =
                .ok (.delete row.id) := if_neg (not_not.mpr hpb)
            constructor
            · intro h
              refine ⟨⟨fun r hr hrkey => ?_, fun _ => HoldingSnapshot.encodable_iff.mpr ⟨b, hb⟩⟩,
                Except.ok.inj (h.symm.trans hstep)⟩
              rw [hunique r hr hrkey]
              exact hsame.mp hpb
            · rintro ⟨-, rfl⟩
              exact hstep
          · have hstep : (if p ≠ b then (throw (.obsoleteChanged beforeRow.key) :
                Except SnapshotError KeyAction) else pure (.delete row.id)) =
                .error (.obsoleteChanged beforeRow.key) := if_pos hpb
            refine iff_of_false (fun h => ?_) fun ⟨hsafe, _⟩ =>
              hpb (hsame.mpr (hsafe.kept row hmem hkey))
            cases h.symm.trans hstep
    · rw [if_pos hid]
      refine iff_of_false (fun h => by cases h) fun ⟨hsafe, _⟩ => hid ?_
      rw [hsafe.kept row hmem hkey]

end

/-! ## Accepted sets -/

/-- The current set is the one before or a safe part of the target. -/
structure SafeReplay (plan : SnapshotExactSetPlan) (current : List HoldingSnapshot) : Prop where
  /-- the rows are valid and have record ids -/
  valid : ValidRows plan.account plan.asOf true current
  /-- every row is bound -/
  known : ∀ row ∈ current, row.key ∈ keysOf plan.before ∨ row.key ∈ keysOf plan.desired
  /-- no desired row that was bound before disappeared -/
  kept : ∀ d ∈ plan.desired, d.key ∈ keysOf plan.before → d.key ∈ keysOf current
  /-- the current rows of desired keys are ones the plan accepts -/
  safe : ∀ d ∈ plan.desired, ∀ row ∈ current, row.key = d.key → RowSafe plan row d
  /-- the current rows of obsolete keys are as they were -/
  obsolete : ∀ b ∈ plan.obsolete, ∀ row ∈ current, row.key = b.key → row = b

/-- The bound rows of the current keys have payloads. -/
def Comparable (plan : SnapshotExactSetPlan) (current : List HoldingSnapshot) : Prop :=
  ∀ row ∈ current, ∀ r ∈ plan.before ++ plan.desired, r.key = row.key → r.Encodable

/-- The actions about a safe set. -/
def safeActions (plan : SnapshotExactSetPlan) (current : List HoldingSnapshot) : SnapshotSetActions :=
  .collect ((sortBy HoldingSnapshot.sortKey plan.desired).map (desiredResult current) ++
    (sortBy HoldingSnapshot.sortKey plan.obsolete).map (obsoleteResult current))

section
variable {plan : SnapshotExactSetPlan} {current : List HoldingSnapshot}
  {actions : SnapshotSetActions}

theorem mem_obsolete {b : HoldingSnapshot} :
    b ∈ plan.obsolete ↔ b ∈ plan.before ∧ b.key ∉ keysOf plan.desired := by
  unfold SnapshotExactSetPlan.obsolete
  rw [List.mem_filter, decide_eq_true_eq]

theorem unknownKeys_eq_nil : plan.unknownKeys current = [] ↔
    ∀ row ∈ current, row.key ∈ keysOf plan.before ∨ row.key ∈ keysOf plan.desired := by
  unfold SnapshotExactSetPlan.unknownKeys keysOf
  rw [List.map_eq_nil_iff, List.eq_nil_iff_forall_not_mem]
  simp only [mem_sortBy, List.mem_filter, decide_eq_true_eq, not_and, not_not]
  refine forall₂_congr fun row _ => ?_
  tauto

/-- The rows compared with the current rows of a safe set have payloads exactly when the bound rows of
their keys do. -/
theorem SafeReplay.desiredSafe (hsafe : SafeReplay plan current) (hcomparable : Comparable plan current)
    {d : HoldingSnapshot} (hd : d ∈ plan.desired) : DesiredSafe plan current d where
  kept := hsafe.kept d hd
  safe := hsafe.safe d hd
  encodable := by
    intro row hrow hkey r hr
    have hdesired : d.Encodable :=
      hcomparable row hrow d (List.mem_append_right _ hd) hkey.symm
    rcases hr with rfl | ⟨hbefore, hbkey⟩ | rfl
    · have hrowsafe := hsafe.safe d hd r hrow hkey
      by_cases hbound : d.key ∈ keysOf plan.before
      · obtain ⟨b, hb, hbkey⟩ := mem_keysOf.mp hbound
        rcases (hrowsafe.bound b hb hbkey).2 with heq | heq
        · rw [heq]
          exact hcomparable r hrow b (List.mem_append_left _ hb) (hbkey.trans hkey.symm)
        · rw [heq]
          exact hdesired
      · rw [hrowsafe.new hbound]
        exact hdesired
    · exact hcomparable row hrow r (List.mem_append_left _ hbefore) (hbkey.trans hkey.symm)
    · exact hdesired

theorem SafeReplay.obsoleteSafe (hsafe : SafeReplay plan current) (hcomparable : Comparable plan current)
    {b : HoldingSnapshot} (hb : b ∈ plan.obsolete) : ObsoleteSafe current b where
  kept := hsafe.obsolete b hb
  encodable := by
    intro hin
    obtain ⟨row, hrow, hkey⟩ := mem_keysOf.mp hin
    exact hcomparable row hrow b (List.mem_append_left _ (mem_obsolete.mp hb).1) hkey.symm

theorem comparable_of_safe (hdesired : ∀ d ∈ plan.desired, DesiredSafe plan current d)
    (hobsolete : ∀ b ∈ plan.obsolete, ObsoleteSafe current b) : Comparable plan current := by
  intro row hrow r hr hkey
  by_cases hin : row.key ∈ keysOf plan.desired
  · obtain ⟨d, hd, hdkey⟩ := mem_keysOf.mp hin
    refine (hdesired d hd).encodable row hrow hdkey.symm r ?_
    rcases List.mem_append.mp hr with hbefore | hmem
    · exact .inr (.inl ⟨hbefore, hkey.trans hdkey.symm⟩)
    · exact .inr (.inr (eq_of_key_eq plan.validDesired.keys hmem hd (hkey.trans hdkey.symm)))
  · rcases List.mem_append.mp hr with hbefore | hmem
    · exact (hobsolete r (mem_obsolete.mpr ⟨hbefore, hkey ▸ hin⟩)).encodable
        (hkey ▸ key_mem_keysOf hrow)
    · exact absurd (hkey ▸ key_mem_keysOf hmem) hin

/-- `residual_actions` accepts the safe sets whose bound rows have payloads. -/
theorem residualActions_ok : plan.residualActions current = .ok actions ↔
    SafeReplay plan current ∧ Comparable plan current ∧ actions = safeActions plan current := by
  have hdesired : ∀ (hkeys : (keysOf current).Nodup) bs,
      (sortBy HoldingSnapshot.sortKey plan.desired).mapM (plan.desiredAction current) = .ok bs ↔
        (∀ d ∈ sortBy HoldingSnapshot.sortKey plan.desired, DesiredSafe plan current d) ∧
          bs = (sortBy HoldingSnapshot.sortKey plan.desired).map (desiredResult current) :=
    fun hkeys bs => mapM_ok_iff fun d _ action => desiredAction_ok hkeys
  have hobsolete : ∀ (hkeys : (keysOf current).Nodup) bs,
      (sortBy HoldingSnapshot.sortKey plan.obsolete).mapM (SnapshotExactSetPlan.obsoleteAction current) =
          .ok bs ↔
        (∀ b ∈ sortBy HoldingSnapshot.sortKey plan.obsolete, ObsoleteSafe current b) ∧
          bs = (sortBy HoldingSnapshot.sortKey plan.obsolete).map (obsoleteResult current) :=
    fun hkeys bs => mapM_ok_iff fun b _ action => obsoleteAction_ok hkeys
  simp only [mem_sortBy] at hdesired hobsolete
  unfold SnapshotExactSetPlan.residualActions
  constructor
  · intro h
    obtain ⟨u, hvalid, h⟩ := except_bind_ok h
    have hvalid := validateRows_ok.mp hvalid
    by_cases hunknown : plan.unknownKeys current = []
    · rw [if_neg (not_not.mpr hunknown)] at h
      obtain ⟨planned, hplanned, h⟩ := except_bind_ok h
      obtain ⟨dropped, hdropped, h⟩ := except_bind_ok h
      cases h
      obtain ⟨hdesiredSafe, rfl⟩ := (hdesired hvalid.keys planned).mp hplanned
      obtain ⟨hobsoleteSafe, rfl⟩ := (hobsolete hvalid.keys dropped).mp hdropped
      have hknown := unknownKeys_eq_nil.mp hunknown
      exact ⟨⟨hvalid, hknown, fun d hd => (hdesiredSafe d hd).kept, fun d hd => (hdesiredSafe d hd).safe,
        fun b hb => (hobsoleteSafe b hb).kept⟩, comparable_of_safe hdesiredSafe hobsoleteSafe, rfl⟩
    · rw [if_pos hunknown] at h
      cases h
  · rintro ⟨hsafe, hcomparable, rfl⟩
    have hplanned := (hdesired hsafe.valid.keys _).mpr ⟨fun d hd => hsafe.desiredSafe hcomparable hd, rfl⟩
    have hdropped := (hobsolete hsafe.valid.keys _).mpr ⟨fun b hb => hsafe.obsoleteSafe hcomparable hb, rfl⟩
    have hthen : ∀ x : Except SnapshotError SnapshotSetActions,
        ((.ok () : Except SnapshotError Unit) >>= fun _ => x) = x := fun _ => rfl
    rw [validateRows_ok.mpr hsafe.valid, hthen, if_neg (not_not.mpr (unknownKeys_eq_nil.mpr hsafe.known)),
      hplanned, hdropped]
    rfl

end

end PortfolioManagement.Snapshots
