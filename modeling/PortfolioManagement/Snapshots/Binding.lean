import PortfolioManagement.Snapshots.ReadBack

/-!
# What a plan digest binds

With the digest taken as injective, two plans of one digest have the same account, date and target digest,
the same rows before and, up to record ids, the same desired rows. A replay looks at nothing else: the
actions of a plan that was read back are those of the plan, up to the record ids of the desired rows.
-/

namespace PortfolioManagement.Snapshots

variable {rt : PayloadRuntime}

/-- No two canonical values have one digest. -/
def CollisionFree (rt : PayloadRuntime) : Prop :=
  ∀ x y : Json, Canonical x → Canonical y → rt.sha256 x = rt.sha256 y → x = y

/-! ## Rows -/

theorem text_of_json {s t : String} (h : (Value.string s).json = (Value.string t).json) : s = t :=
  Json.text_inj.mp h

/-- The items of a payload determine it. -/
theorem RowPayload.eq_of_items {p q : RowPayload}
    (h : ∀ name v w, (name, v) ∈ p.items → (name, w) ∈ q.items → v.json = w.json) : p = q := by
  have htext : ∀ name s t, (name, Value.string s) ∈ p.items → (name, Value.string t) ∈ q.items →
      s = t := fun name s t hp hq => text_of_json (h name _ _ hp hq)
  have hoptional : ∀ name s t, (name, Value.optionalString s) ∈ p.items →
      (name, Value.optionalString t) ∈ q.items → s = t :=
    fun name s t hp hq => Value.optionalString_inj.mp (h name _ _ hp hq)
  have hasOf := htext "as_of" p.asOf q.asOf (by simp [items]) (by simp [items])
  have haccount := htext "account" p.account q.account (by simp [items]) (by simp [items])
  have hassetId := htext "asset_id" p.assetId q.assetId (by simp [items]) (by simp [items])
  have hbroker := htext "broker" p.broker q.broker (by simp [items]) (by simp [items])
  have hquantity := htext "quantity" p.quantity q.quantity (by simp [items]) (by simp [items])
  have hcurrency := htext "currency" p.currency q.currency (by simp [items]) (by simp [items])
  have hprice := htext "price" p.price q.price (by simp [items]) (by simp [items])
  have hcnyPrice := htext "cny_price" p.cnyPrice q.cnyPrice (by simp [items]) (by simp [items])
  have hmarketValueCny := htext "market_value_cny" p.marketValueCny q.marketValueCny
    (by simp [items]) (by simp [items])
  have hdedupKey := htext "dedup_key" p.dedupKey q.dedupKey (by simp [items]) (by simp [items])
  have hassetName := hoptional "asset_name" p.assetName q.assetName (by simp [items]) (by simp [items])
  have havgCost := hoptional "avg_cost" p.avgCost q.avgCost (by simp [items]) (by simp [items])
  have hsource := hoptional "source" p.source q.source (by simp [items]) (by simp [items])
  have hremark := hoptional "remark" p.remark q.remark (by simp [items]) (by simp [items])
  cases p
  cases q
  simp only [mk.injEq] at *
  exact ⟨hasOf, haccount, hassetId, hbroker, hquantity, hcurrency, hprice, hcnyPrice, hmarketValueCny,
    hdedupKey, hassetName, havgCost, hsource, hremark⟩

theorem items_of_dict_json {d d' : Dict} (h : (Value.dict d).json = (Value.dict d').json) :
    d.items = d'.items := Json.object.inj h

theorem RowPayload.value_inj {p q : RowPayload} (h : p.value.json = q.value.json) : p = q := by
  have hitems := items_of_dict_json h
  have hnodup : ∀ r : RowPayload, (r.items.map Prod.fst).Nodup := fun r => by
    rw [r.names]
    exact nodup_rowFields.tail
  exact eq_of_items fun name v w hv hw =>
    Dict.value_eq_of_display_eq (hnodup p) (hnodup q) hitems hv hw

/-- The values of rows before determine the record ids too. -/
theorem RowPayload.recorded_inj {p q : RowPayload} {i j : String} (hi : i ≠ "") (hj : j ≠ "")
    (h : (p.recorded i).json = (q.recorded j).json) : i = j ∧ p = q := by
  unfold recorded at h
  rw [if_neg hi, if_neg hj] at h
  have hitems := items_of_dict_json h
  have hnodup : ∀ (r : RowPayload) (id : Option String),
      ((("record_id", Value.optionalString id) :: r.items).map Prod.fst).Nodup := fun r id =>
    nodup_rowFields
  have hvalue : ∀ name v w, (name, v) ∈ ("record_id", .optionalString (some i)) :: p.items →
      (name, w) ∈ ("record_id", .optionalString (some j)) :: q.items → v.json = w.json :=
    fun name v w hv hw =>
      Dict.value_eq_of_display_eq (hnodup p (some i)) (hnodup q (some j)) hitems hv hw
  have hid := Value.optionalString_inj.mp (hvalue "record_id" _ _ List.mem_cons_self List.mem_cons_self)
  exact ⟨Option.some.inj hid, eq_of_items fun name v w hv hw =>
    hvalue name v w (List.mem_cons_of_mem _ hv) (List.mem_cons_of_mem _ hw)⟩

/-- Rows that are written to the same values are the same rows. -/
theorem rows_eq_of_values {write : HoldingSnapshot → Except SnapshotError Value}
    (kept : HoldingSnapshot → HoldingSnapshot) {rows others : List HoldingSnapshot}
    {values values' : List Value}
    (hinj : ∀ row ∈ rows, ∀ other ∈ others, ∀ v w, write row = .ok v → write other = .ok w →
      v.json = w.json → kept row = kept other)
    (h : rows.mapM write = .ok values) (h' : others.mapM write = .ok values')
    (hjson : values.map Value.json = values'.map Value.json) : rows.map kept = others.map kept := by
  have hrows := forall₂_of_mapM_ok h
  have hothers := forall₂_of_mapM_ok h'
  clear h h'
  induction hrows generalizing others values' with
  | nil =>
    cases hothers with
    | nil => rfl
    | cons _ _ => cases hjson
  | @cons row value rows values hrow _ ih =>
    cases hothers with
    | nil => cases hjson
    | @cons other value' others values' hother hothers =>
      rw [List.map_cons, List.map_cons, List.cons.injEq] at hjson
      rw [List.map_cons, List.map_cons,
        hinj row List.mem_cons_self other List.mem_cons_self _ _ hrow hother hjson.1,
        ih (fun r hr o ho => hinj r (List.mem_cons_of_mem _ hr) o (List.mem_cons_of_mem _ ho)) hjson.2
          hothers]

theorem eq_of_values_before {rows others : List HoldingSnapshot} {values values' : List Value}
    (hids : ∀ row ∈ rows, row.id ≠ "") (hids' : ∀ row ∈ others, row.id ≠ "")
    (h : (rows.mapM fun row => row.payload.map (RowPayload.recorded row.id)) = .ok values)
    (h' : (others.mapM fun row => row.payload.map (RowPayload.recorded row.id)) = .ok values')
    (hjson : values.map Value.json = values'.map Value.json) : rows = others := by
  have hrows := rows_eq_of_values id (fun row hrow other hother v w hv hw hvw => ?_) h h' hjson
  · rwa [List.map_id, List.map_id] at hrows
  · obtain ⟨p, hp, rfl⟩ := map_payload_ok hv
    obtain ⟨q, hq, rfl⟩ := map_payload_ok hw
    obtain ⟨hid, rfl⟩ := RowPayload.recorded_inj (hids row hrow) (hids' other hother) hvw
    have hsame := HoldingSnapshot.eq_of_payload hp hq
    have hrecord : ∀ r : HoldingSnapshot, r.id ≠ "" → r.recordId = some r.id := fun r hr => by
      unfold HoldingSnapshot.id at hr ⊢
      cases hrecordId : r.recordId with
      | none => exact absurd (by rw [hrecordId]; rfl) hr
      | some recordId => rfl
    rw [hrecord row (hids row hrow), hid, ← hrecord other (hids' other hother)] at hsame
    exact hsame

theorem eq_of_values_desired {rows others : List HoldingSnapshot} {values values' : List Value}
    (h : (rows.mapM fun row => row.payload.map RowPayload.value) = .ok values)
    (h' : (others.mapM fun row => row.payload.map RowPayload.value) = .ok values')
    (hjson : values.map Value.json = values'.map Value.json) :
    rows.map (·.withRecordId none) = others.map (·.withRecordId none) := by
  refine rows_eq_of_values (·.withRecordId none) (fun row _ other _ v w hv hw hvw => ?_) h h' hjson
  obtain ⟨p, hp, rfl⟩ := map_payload_ok hv
  obtain ⟨q, hq, rfl⟩ := map_payload_ok hw
  obtain rfl := RowPayload.value_inj hvw
  rw [HoldingSnapshot.eq_of_payload hp hq]
  rfl

/-! ## Plans -/

theorem SnapshotExactSetPlan.eq_of_fields {plan plan' : SnapshotExactSetPlan}
    (haccount : plan.account = plan'.account) (hasOf : plan.asOf = plan'.asOf)
    (htarget : plan.targetDigest = plan'.targetDigest) (hbefore : plan.before = plan'.before)
    (hdesired : plan.desired = plan'.desired) : plan = plan' := by
  cases plan
  cases plan'
  cases haccount
  cases hasOf
  cases htarget
  cases hbefore
  cases hdesired
  rfl

section
variable {plan plan' : SnapshotExactSetPlan} {digest : String}

/-- Plans of one digest are the same up to the record ids of the desired rows. -/
theorem unrecorded_eq_of_digest (hfree : CollisionFree rt) (h : plan.planDigest rt = .ok digest)
    (h' : plan'.planDigest rt = .ok digest) : plan'.unrecorded = plan.unrecorded := by
  have hitems : ∀ {p : SnapshotExactSetPlan}, p.planDigest rt = .ok digest →
      ∃ items, p.canonicalItems rt = .ok items ∧
        rt.sha256 (Value.dict (.display items)).json = digest := by
    intro p hp
    unfold SnapshotExactSetPlan.planDigest at hp
    cases hitems : p.canonicalItems rt with
    | error e =>
      rw [hitems] at hp
      cases hp
    | ok items =>
      rw [hitems] at hp
      exact ⟨items, rfl, Except.ok.inj hp⟩
  obtain ⟨items, hcanonical, hsha⟩ := hitems h
  obtain ⟨items', hcanonical', hsha'⟩ := hitems h'
  have hjson := hfree _ _ (Value.dict _).canonical (Value.dict _).canonical (hsha'.trans hsha.symm)
  obtain ⟨rowDigest, before, desired, -, hbefore, hdesired, rfl⟩ :=
    SnapshotExactSetPlan.canonicalItems_ok hcanonical
  obtain ⟨rowDigest', before', desired', -, hbefore', hdesired', rfl⟩ :=
    SnapshotExactSetPlan.canonicalItems_ok hcanonical'
  have hvalue : ∀ name v w, (name, v) ∈ [("contract_version", Value.string exactSetVersion),
      ("account", .string plan.account), ("as_of", .string plan.asOf),
      ("target_digest", .string plan.targetDigest), ("row_digest", .string rowDigest),
      ("before", .array before), ("desired", .array desired)] →
      (name, w) ∈ [("contract_version", Value.string exactSetVersion),
        ("account", .string plan'.account), ("as_of", .string plan'.asOf),
        ("target_digest", .string plan'.targetDigest), ("row_digest", .string rowDigest'),
        ("before", .array before'), ("desired", .array desired')] → w.json = v.json :=
    fun name v w hv hw => (Dict.value_eq_of_display_eq (by simp) (by simp)
      (items_of_dict_json hjson) hw hv)
  have hbeforeJson := Json.array.inj
    (hvalue "before" (.array before) (.array before') (by simp) (by simp))
  have hdesiredJson := Json.array.inj
    (hvalue "desired" (.array desired) (.array desired') (by simp) (by simp))
  refine SnapshotExactSetPlan.eq_of_fields
    (text_of_json (hvalue "account" (.string plan.account) (.string plan'.account) (by simp) (by simp)))
    (text_of_json (hvalue "as_of" (.string plan.asOf) (.string plan'.asOf) (by simp) (by simp)))
    (text_of_json (hvalue "target_digest" (.string plan.targetDigest) (.string plan'.targetDigest)
      (by simp) (by simp))) ?_ ?_
  · exact eq_of_values_before ((validateRows_ok.mp plan'.beforeValid).recorded rfl)
      ((validateRows_ok.mp plan.beforeValid).recorded rfl) hbefore' hbefore hbeforeJson
  · exact eq_of_values_desired hdesired' hdesired hdesiredJson

/-- What is checked of a payload that is read. -/
theorem planFromPayload_ok {payload : Json} (h : planFromPayload rt payload = .ok plan) :
    plan.Built ∧ ∃ members digest, payload = .object members ∧
      Json.get members "plan_digest" = Json.text digest ∧ plan.planDigest rt = .ok digest := by
  unfold planFromPayload at h
  cases payload with
  | object members =>
    simp only at h
    obtain ⟨account, -, h⟩ := except_bind_ok h
    obtain ⟨asOf, -, h⟩ := except_bind_ok h
    obtain ⟨targetDigest, -, h⟩ := except_bind_ok h
    obtain ⟨before, -, h⟩ := except_bind_ok h
    obtain ⟨desired, -, h⟩ := except_bind_ok h
    obtain ⟨plan', hplan, h⟩ := except_bind_ok h
    obtain ⟨-, h⟩ := except_guard_ok h
    obtain ⟨digest, hdigest, h⟩ := except_bind_ok h
    obtain ⟨hsame, h⟩ := except_guard_ok h
    cases h
    obtain ⟨-, -, -, hbefore, hdesired⟩ := exactSetPlan_ok hplan
    refine ⟨⟨?_, ?_⟩, members, digest, rfl, Json.same_text.mp (not_not.mp hsame),
      lifted_ok.mp hdigest⟩
    · rw [hbefore, sortBy_sortBy]
    · rw [hdesired, sortBy_sortBy]
  | _ => cases h

/-- A payload that is accepted under the digest of a plan is read as that plan. -/
theorem planFromPayload_bound (hfree : CollisionFree rt) {members : Members}
    (hplan : plan.planDigest rt = .ok digest)
    (h : planFromPayload rt (.object members) = .ok plan')
    (hdigest : Json.get members "plan_digest" = Json.text digest) :
    plan'.unrecorded = plan.unrecorded := by
  obtain ⟨-, members', digest', hmembers, hdigest', hplan'⟩ := planFromPayload_ok h
  cases hmembers
  obtain rfl := Json.text_inj.mp (hdigest.symm.trans hdigest')
  exact unrecorded_eq_of_digest hfree hplan hplan'

end

/-! ## Replays -/

/-- The action without the record id of the desired row. -/
def KeyAction.unrecorded : KeyAction → KeyAction
  | .create desired => .create (desired.withRecordId none)
  | .update recordId desired => .update recordId (desired.withRecordId none)
  | .delete recordId => .delete recordId
  | .unchanged => .unchanged

/-- The actions without the record ids of the desired rows. -/
def SnapshotSetActions.unrecorded (actions : SnapshotSetActions) : SnapshotSetActions :=
  { actions with
    creates := actions.creates.map (·.withRecordId none)
    updates := actions.updates.map fun update => (update.1, update.2.withRecordId none) }

theorem collect_unrecorded (actions : List KeyAction) :
    SnapshotSetActions.collect (actions.map KeyAction.unrecorded) =
      (SnapshotSetActions.collect actions).unrecorded := by
  have hcreated : ∀ a : KeyAction, a.unrecorded.created = a.created.map (·.withRecordId none) :=
    fun a => by cases a <;> rfl
  have hupdated : ∀ a : KeyAction, a.unrecorded.updated =
      a.updated.map fun update => (update.1, update.2.withRecordId none) := fun a => by cases a <;> rfl
  have hdeleted : ∀ a : KeyAction, a.unrecorded.deleted = a.deleted := fun a => by cases a <;> rfl
  have hunchanged : ∀ a : KeyAction, a.unrecorded.isUnchanged = a.isUnchanged :=
    fun a => by cases a <;> rfl
  unfold SnapshotSetActions.collect SnapshotSetActions.unrecorded
  simp only [List.filterMap_map, List.countP_map, List.map_filterMap, Function.comp_def, hcreated,
    hupdated, hdeleted, hunchanged]

section
variable {plan : SnapshotExactSetPlan} {current : List HoldingSnapshot}

theorem rowAt_unrecorded_before (key : BusinessKey) :
    rowAt plan.unrecorded.before key = rowAt plan.before key := rfl

theorem desiredAction_unrecorded (desired : HoldingSnapshot) :
    plan.unrecorded.desiredAction current (desired.withRecordId none) =
      (plan.desiredAction current desired).map KeyAction.unrecorded := by
  have hkey : (desired.withRecordId none).key = desired.key := rfl
  have hpayload : (desired.withRecordId none).payload = desired.payload := rfl
  unfold SnapshotExactSetPlan.desiredAction
  rw [hkey, rowAt_unrecorded_before, hpayload]
  cases rowAt current desired.key with
  | none =>
    simp only
    by_cases hbound : (rowAt plan.before desired.key).isSome = true
    · rw [if_pos hbound, if_pos hbound]
      rfl
    · rw [if_neg hbound, if_neg hbound]
      rfl
  | some row =>
    have hcheck : ∀ p q, plan.unrecorded.checkCurrentRow row (desired.withRecordId none) p q =
        plan.checkCurrentRow row desired p q := fun _ _ => rfl
    simp only [hcheck]
    cases row.payload with
    | error e => rfl
    | ok p =>
      cases desired.payload with
      | error e => rfl
      | ok q =>
        simp only [bind, Except.bind, pure, Except.pure]
        cases plan.checkCurrentRow row desired p q with
        | error e => rfl
        | ok u =>
          simp only
          by_cases hpq : p = q
          · rw [if_pos hpq, if_pos hpq]
            rfl
          · rw [if_neg hpq, if_neg hpq]
            rfl

theorem obsoleteAction_unrecorded {row : HoldingSnapshot} {action : KeyAction}
    (h : SnapshotExactSetPlan.obsoleteAction current row = .ok action) : action.unrecorded = action := by
  unfold SnapshotExactSetPlan.obsoleteAction at h
  cases hfound : rowAt current row.key with
  | none =>
    rw [hfound] at h
    cases h
    rfl
  | some found =>
    rw [hfound] at h
    simp only at h
    by_cases hid : found.recordId = row.recordId
    · rw [if_neg (not_not.mpr hid)] at h
      obtain ⟨p, -, h⟩ := except_bind_ok h
      obtain ⟨q, -, h⟩ := except_bind_ok h
      by_cases hpq : p = q
      · rw [if_neg (not_not.mpr hpq)] at h
        cases h
        rfl
      · rw [if_pos hpq] at h
        cases h
    · rw [if_pos hid] at h
      cases h

theorem mapM_desiredAction_unrecorded (rows : List HoldingSnapshot) :
    (rows.map (·.withRecordId none)).mapM (plan.unrecorded.desiredAction current) =
      (rows.mapM (plan.desiredAction current)).map (List.map KeyAction.unrecorded) := by
  induction rows with
  | nil => rfl
  | cons row rows ih =>
    rw [List.map_cons, List.mapM_cons, List.mapM_cons, desiredAction_unrecorded, ih]
    cases plan.desiredAction current row with
    | error e => rfl
    | ok action => cases rows.mapM (plan.desiredAction current) <;> rfl

/-- A replay of a plan that was read back does what a replay of the plan does. -/
theorem residualActions_unrecorded : plan.unrecorded.residualActions current =
    (plan.residualActions current).map SnapshotSetActions.unrecorded := by
  have hkeys : keysOf plan.unrecorded.desired = keysOf plan.desired := by
    rw [SnapshotExactSetPlan.desired_unrecorded, keysOf, keysOf, List.map_map]
    rfl
  have hunknown : plan.unrecorded.unknownKeys current = plan.unknownKeys current := by
    unfold SnapshotExactSetPlan.unknownKeys
    rw [hkeys]
    rfl
  have hobsolete : plan.unrecorded.obsolete = plan.obsolete := by
    unfold SnapshotExactSetPlan.obsolete
    rw [hkeys]
    rfl
  have hvalidate : validateRows plan.unrecorded.account plan.unrecorded.asOf true .current current =
      validateRows plan.account plan.asOf true .current current := rfl
  unfold SnapshotExactSetPlan.residualActions
  rw [hvalidate, hunknown, hobsolete, SnapshotExactSetPlan.sortBy_unrecorded,
    mapM_desiredAction_unrecorded]
  cases validateRows plan.account plan.asOf true .current current with
  | error e => rfl
  | ok u =>
    simp only [bind, Except.bind, pure, Except.pure]
    by_cases hbound : plan.unknownKeys current = []
    · rw [if_neg (not_not.mpr hbound), if_neg (not_not.mpr hbound)]
      cases (sortBy HoldingSnapshot.sortKey plan.desired).mapM (plan.desiredAction current) with
      | error e => rfl
      | ok ds =>
        cases hos : (sortBy HoldingSnapshot.sortKey plan.obsolete).mapM
          (SnapshotExactSetPlan.obsoleteAction current) with
        | error e => rfl
        | ok os =>
          have hkept : os.map KeyAction.unrecorded = os := by
            have hsame : os.map KeyAction.unrecorded = os.map id :=
              List.map_congr_left fun action haction => by
                obtain ⟨row, -, hrow⟩ := forall₂_mem_right (forall₂_of_mapM_ok hos) haction
                exact obsoleteAction_unrecorded hrow
            rw [hsame, List.map_id]
          simp only [Except.map]
          rw [← collect_unrecorded, List.map_append, hkept]
    · rw [if_pos hbound, if_pos hbound]
      rfl

end

end PortfolioManagement.Snapshots
