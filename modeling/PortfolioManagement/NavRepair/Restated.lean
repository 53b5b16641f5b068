import PortfolioManagement.Ledger.DatasetLaws
import PortfolioManagement.Nav.SelfCheck
import PortfolioManagement.NavRepair.Prepared

/-!
# All or back

Whatever requests fail and wherever a run of the restatement ends, it has written only rows that were in
the state it expected. A run that completes leaves the series of every account after the restatement, or
before it when it rolls back.
-/

namespace PortfolioManagement.NavRepair

open Nav
open Prog (Spec EndsIn)
open Relation (ReflTransGen)

/-! ## Requests -/

section
variable {R : Remote → Remote → Prop} {K : Sheet → Prop} {E : NavRefusal → Remote → Prop}

/-- The ends of requests are no part of what a relation looks at. -/
def Quiet (R : Remote → Remote → Prop) : Prop :=
  ∀ w w' : Remote, w'.sheet = w.sheet → w'.issued = w.issued → R w w'

theorem nextAnswer_sheet (w : Remote) : ∃ a, (nextAnswer w).1 = .ok a ∧
    (nextAnswer w).2.sheet = w.sheet ∧ (nextAnswer w).2.issued = w.issued := by
  unfold nextAnswer
  cases w.answers with
  | nil => exact ⟨_, rfl, rfl, rfl⟩
  | cons a rest => exact ⟨_, rfl, rfl, rfl⟩

theorem nextAnswer_spec (hR : Quiet R) :
    Spec R (fun w => K w.sheet) nextAnswer (fun _ w => K w.sheet) E := by
  intro w hw
  obtain ⟨a, hok, hsheet, hissued⟩ := nextAnswer_sheet w
  refine ⟨.single (hR _ _ hsheet hissued), ?_⟩
  cases hrun : nextAnswer w with
  | mk r w' =>
    rw [hrun] at hok hsheet
    cases hok
    have hsame : w'.sheet = w.sheet := hsheet
    show K w'.sheet
    rw [hsame]
    exact hw

/-- A read gives the rows of the table and leaves the table alone. -/
theorem readFreshNavRows_spec (hR : Quiet R) (account : String) :
    Spec R (fun w => K w.sheet) (readFreshNavRows account)
      (fun rows w => K w.sheet ∧ rows = w.sheet.accountRows account) (fun _ _ => True) := by
  unfold readFreshNavRows
  refine Spec.bind (nextAnswer_spec hR) fun a => ?_
  cases a with
  | ok => exact Spec.reads fun w hw => ⟨hw, rfl⟩
  | refused => exact Spec.raise fun _ _ => trivial
  | lost => exact Spec.raise fun _ _ => trivial

/-- A patch is issued in one step and carried out in another. -/
theorem patchNavFields_spec (hR : Quiet R) {recordId : Nat} {states : Items NavColumn FieldState}
    (hissue : ∀ w : Remote, K w.sheet → R w (w.issue recordId (patchPayload states)))
    (hwrite : ∀ w : Remote, K w.sheet → R w (w.carryOut recordId (patchPayload states))) :
    Spec R (fun w => K w.sheet) (patchNavFields recordId states) (fun _ _ => True)
      (fun _ _ => True) := by
  unfold patchNavFields
  refine Spec.bind (Q := fun _ w => K w.sheet) (Spec.require (fun w hw _ => hw) fun _ _ _ => trivial)
    fun _ => ?_
  refine Spec.bind (Q := fun _ w => K w.sheet) (Spec.alter hissue fun _ hw => hw) fun _ => ?_
  refine Spec.bind (nextAnswer_spec hR) fun a => ?_
  cases a with
  | ok => exact Spec.alter hwrite fun _ _ => trivial
  | refused => exact Spec.raise fun _ _ => trivial
  | lost =>
    exact Spec.bind (Q := fun _ _ => True) (Spec.alter hwrite fun _ _ => trivial) fun _ =>
      Spec.raise fun _ _ => trivial

end

/-! ## Writes -/

/-- A request of the restatement: the row of a target is in the states that are expected of it, and it
is to be given those of the other side. -/
structure Restating (plan : AccountPlan) (rollback : Bool) (target : RestatedTarget)
    (request : PatchRequest) (row : FreshNavRow) : Prop where
  /-- a target of the plan -/
  mem : target ∈ plan.targets
  /-- its row is in the recorded series -/
  recorded : ∃ r ∈ plan.beforeSeries, r.recordId = target.recordId
  /-- it is the row of the request -/
  recordId : request.recordId = target.recordId
  /-- the row as it is then -/
  found : request.sheet.record target.recordId = some row
  /-- it is one of the account -/
  account : row.account = plan.account
  /-- it is in the expected states -/
  expected : rowFields row = (target.sides rollback).1
  /-- its cash and its total are shifted alike -/
  shift : fieldDelta (target.sides rollback).1 (target.sides rollback).2 .cashValue =
    fieldDelta (target.sides rollback).1 (target.sides rollback).2 .totalValue
  /-- what is written -/
  fields : request.fields =
    patchPayload (changedFields (target.sides rollback).1 (target.sides rollback).2)

/-- A request is one of the restatement. -/
def Guarded (plans : List AccountPlan) (rollback : Bool) (request : PatchRequest) : Prop :=
  ∃ plan ∈ plans, ∃ target row, Restating plan rollback target request row

theorem Guarded.mono {plans plans' : List AccountPlan} {rollback : Bool} {request : PatchRequest}
    (h : Guarded plans rollback request) (hsub : plans ⊆ plans') : Guarded plans' rollback request := by
  obtain ⟨plan, hplan, rest⟩ := h
  exact ⟨plan, hsub hplan, rest⟩

/-- What a run of the command does at a time: at most one guarded request is issued, and at most one is
carried out, on the table it was issued for. -/
structure Restates (plans : List AccountPlan) (rollback : Bool) (w w' : Remote) : Prop where
  /-- the table -/
  sheet : w'.sheet = w.sheet ∨
    ∃ request, Guarded plans rollback request ∧ request.sheet = w.sheet ∧ w'.sheet = request.result
  /-- the requests -/
  issued : w'.issued = w.issued ∨
    ∃ request, Guarded plans rollback request ∧ w'.issued = w.issued ++ [request]

theorem quiet_restates (plans : List AccountPlan) (rollback : Bool) : Quiet (Restates plans rollback) :=
  fun _ _ hsheet hissued => ⟨.inl hsheet, .inl hissued⟩

theorem Restates.mono {plans plans' : List AccountPlan} {rollback : Bool} {w w' : Remote}
    (h : Restates plans rollback w w') (hsub : plans ⊆ plans') : Restates plans' rollback w w' where
  sheet := h.sheet.imp_right fun ⟨request, hguarded, hrest⟩ => ⟨request, hguarded.mono hsub, hrest⟩
  issued := h.issued.imp_right fun ⟨request, hguarded, hrest⟩ => ⟨request, hguarded.mono hsub, hrest⟩

section
variable {plan : AccountPlan} {rollback : Bool} {target : RestatedTarget}

theorem patchNavCashRestatement_spec (hmem : target ∈ plan.targets)
    (hrecorded : ∃ r ∈ plan.beforeSeries, r.recordId = target.recordId) :
    Spec (Restates [plan] rollback) (fun _ => True)
      (patchNavCashRestatement plan.account target.recordId (target.sides rollback).1
        (target.sides rollback).2) (fun _ _ => True) (fun _ _ => True) := by
  have hquiet := quiet_restates [plan] rollback
  have hpassed : ∀ (c : Prop) [Decidable c] (e : NavRefusal),
      Spec (Restates [plan] rollback) (fun _ => True) (Prog.require c e) (fun _ _ => True)
        (fun _ _ => True) := fun _ _ _ => Spec.require (fun _ _ _ => trivial) fun _ _ _ => trivial
  unfold patchNavCashRestatement
  refine Spec.bind (hpassed _ _) fun _ => ?_
  refine Spec.bind (hpassed _ _) fun _ => ?_
  refine Spec.bind (hpassed _ _) fun _ => ?_
  refine Spec.bind (Q := fun _ _ => fieldDelta (target.sides rollback).1 (target.sides rollback).2
    .cashValue = fieldDelta (target.sides rollback).1 (target.sides rollback).2 .totalValue)
    (Spec.require (fun _ _ h => h) fun _ _ _ => trivial) fun _ => ?_
  refine Spec.bind (readFreshNavRows_spec (K := fun _ => fieldDelta (target.sides rollback).1
    (target.sides rollback).2 .cashValue = fieldDelta (target.sides rollback).1
      (target.sides rollback).2 .totalValue) hquiet plan.account) fun rows => ?_
  cases hrows : rows.filter fun row => row.recordId = target.recordId with
  | nil => exact Spec.raise fun _ _ => trivial
  | cons row rest =>
    cases rest with
    | cons _ _ => exact Spec.raise fun _ _ => trivial
    | nil =>
      refine Spec.of_eq fun w hw => ?_
      obtain ⟨hshift, rfl⟩ := hw
      have hrow : row ∈ (w.sheet.accountRows plan.account).filter
          fun row => row.recordId = target.recordId := by
        rw [hrows]
        exact List.mem_cons_self
      obtain ⟨hrow, hid⟩ := List.mem_filter.mp hrow
      obtain ⟨hsheet, haccount⟩ := Sheet.mem_accountRows.mp hrow
      refine Spec.bind (Q := fun _ v => v.sheet = w.sheet ∧ rowFields row = (target.sides rollback).1)
        (Spec.require (fun v hv h => ⟨congrArg Remote.sheet hv, h⟩) fun _ _ _ => trivial) fun _ => ?_
      -- what the check of the fresh row leaves for the request
      have hguarded : ∀ v : Remote, v.sheet = w.sheet ∧ rowFields row = (target.sides rollback).1 →
          Guarded [plan] rollback ⟨v.sheet, target.recordId,
            patchPayload (changedFields (target.sides rollback).1 (target.sides rollback).2)⟩ := by
        intro v hv
        refine ⟨plan, List.mem_cons_self, target, row, hmem, hrecorded, rfl, ?_, haccount, hv.2, hshift,
          rfl⟩
        show v.sheet.record target.recordId = some row
        rw [hv.1]
        exact Sheet.record_eq_some.mpr ⟨hsheet, of_decide_eq_true hid⟩
      exact patchNavFields_spec (K := fun sheet => sheet = w.sheet ∧
          rowFields row = (target.sides rollback).1) hquiet
        (fun v hv => ⟨.inl rfl, .inr ⟨_, hguarded v hv, rfl⟩⟩)
        (fun v hv => ⟨.inr ⟨_, hguarded v hv, rfl, rfl⟩, .inl rfl⟩)

/-! ## Verified series -/

/-- The series was verified. -/
structure Verified (plan : AccountPlan) (allowMixed : Bool) (live : List SeriesRow) : Prop where
  /-- the same rows -/
  rows : live.map (fun r => (r.recordId, r.date)) = plan.beforeSeries.map fun r => (r.recordId, r.date)
  /-- in allowed states -/
  states : ∀ pair ∈ live.zip plan.beforeSeries, pair.1.fields ∈ allowedFields plan allowMixed pair.2

theorem verifySeries_spec {R : Remote → Remote → Prop} (hR : Quiet R) (allowMixed : Bool) :
    Spec R (fun _ => True) (verifySeries plan allowMixed)
      (fun live w => Verified plan allowMixed live ∧ live = series (w.sheet.accountRows plan.account))
      (fun _ _ => True) := by
  unfold verifySeries
  refine Spec.bind (readFreshNavRows_spec (K := fun _ => True) hR plan.account) fun rows => ?_
  refine Spec.bind (Q := fun _ w => rows = w.sheet.accountRows plan.account ∧
      (series rows).map (fun r => (r.recordId, r.date)) =
        plan.beforeSeries.map fun r => (r.recordId, r.date))
    (Spec.require (fun w hw h => ⟨hw.2, h⟩) fun _ _ _ => trivial) fun _ => ?_
  refine Spec.bind (Q := fun _ w => rows = w.sheet.accountRows plan.account ∧
      Verified plan allowMixed (series rows))
    (Spec.require (fun w hw h => ⟨hw.1, hw.2, h⟩) fun _ _ _ => trivial) fun _ => ?_
  exact Spec.ret fun w hw => ⟨hw.2, congrArg series hw.1⟩

/-- A row of a verified series is in the recorded series. -/
theorem Verified.recorded {allowMixed : Bool} {live : List SeriesRow} (h : Verified plan allowMixed live)
    {recordId : Nat} {fields : Items NavColumn FieldState}
    (hfields : fieldsOf live recordId = some fields) : ∃ r ∈ plan.beforeSeries, r.recordId = recordId := by
  obtain ⟨row, hfind, -⟩ := Option.map_eq_some_iff.mp hfields
  have hmem := List.mem_of_find?_eq_some hfind
  have hid : row.recordId = recordId := by simpa using List.find?_some hfind
  have hpair : (row.recordId, row.date) ∈ plan.beforeSeries.map fun r => (r.recordId, r.date) := by
    rw [← h.rows]
    exact List.mem_map.mpr ⟨row, hmem, rfl⟩
  obtain ⟨r, hr, hsame⟩ := List.mem_map.mp hpair
  exact ⟨r, hr, (congrArg Prod.fst hsame).trans hid⟩

/-- The series after the restatement. -/
def afterSeries (plan : AccountPlan) : List SeriesRow :=
  plan.beforeSeries.map fun r =>
    match plan.target r.recordId with
    | none => r
    | some target => { r with fields := target.after }

theorem eq_map_of_zip {live before : List SeriesRow}
    {g : SeriesRow → Items NavColumn FieldState}
    (hrows : live.map (fun r => (r.recordId, r.date)) = before.map fun r => (r.recordId, r.date))
    (hstates : ∀ pair ∈ live.zip before, pair.1.fields = g pair.2) :
    live = before.map fun r => { r with fields := g r } := by
  induction live generalizing before with
  | nil =>
    cases before with
    | nil => rfl
    | cons _ _ => cases hrows
  | cons row live ih =>
    cases before with
    | nil => cases hrows
    | cons r before =>
      rw [List.map_cons, List.map_cons, List.cons.injEq] at hrows
      obtain ⟨hid, hdate⟩ := Prod.mk.inj hrows.1
      have hfields := hstates (row, r) List.mem_cons_self
      rw [List.map_cons, ← ih hrows.2 fun pair hpair => hstates pair (List.mem_cons_of_mem _ hpair)]
      have hrow : row = { r with fields := g r } := by
        obtain ⟨recordId, date, fields⟩ := row
        rw [SeriesRow.mk.injEq]
        exact ⟨hid, hdate, hfields⟩
      rw [← hrow]

/-- A strictly verified series is the one after the restatement. -/
theorem Verified.eq_afterSeries {live : List SeriesRow} (h : Verified plan false live) :
    live = afterSeries plan := by
  have hg := eq_map_of_zip (g := fun r => ((plan.target r.recordId).map (·.after)).getD r.fields) h.rows
    fun pair hpair => ?_
  · rw [hg]
    refine List.map_congr_left fun r _ => ?_
    cases plan.target r.recordId <;> rfl
  · have hallowed := h.states pair hpair
    unfold allowedFields at hallowed
    cases htarget : plan.target pair.2.recordId with
    | none =>
      rw [htarget] at hallowed
      exact List.mem_singleton.mp hallowed
    | some target =>
      rw [htarget] at hallowed
      exact List.mem_singleton.mp hallowed

theorem restateRow_spec {current : List SeriesRow} (hmem : target ∈ plan.targets)
    (hcurrent : Verified plan true current) :
    Spec (Restates [plan] rollback) (fun _ => True) (restateRow plan rollback current target)
      (fun current' _ => Verified plan true current') (fun _ _ => True) := by
  unfold restateRow
  cases hfields : fieldsOf current target.recordId with
  | none => exact Spec.raise fun _ _ => trivial
  | some live =>
    simp only
    split
    · exact Spec.ret fun _ _ => hcurrent
    · refine Spec.bind (patchNavCashRestatement_spec hmem (hcurrent.recorded hfields)) fun _ => ?_
      refine Spec.bind (verifySeries_spec (quiet_restates [plan] rollback) true) fun current' => ?_
      refine Spec.bind (Q := fun _ _ => Verified plan true current')
        (Spec.require (fun _ hw _ => hw.1) fun _ _ _ => trivial) fun _ => ?_
      exact Spec.ret fun _ hw => hw

/-- The turns of the targets keep the series verified. -/
theorem restateRows_spec {targets : List RestatedTarget} (hsub : targets ⊆ plan.targets)
    {current : List SeriesRow} (hcurrent : Verified plan true current) :
    Spec (Restates [plan] rollback) (fun _ => True)
      (Prog.fold targets current (restateRow plan rollback)) (fun _ _ => True) (fun _ _ => True) := by
  refine ((Spec.fold (fun _ current _ => Verified plan true current) fun target rest b hsuf => ?_).pre
    fun _ _ => hcurrent).post fun _ _ _ => trivial
  intro w hw
  exact restateRow_spec (hsub (hsuf.subset List.mem_cons_self)) hw w trivial

end

/-! ## Completion -/

section
variable (lrt : Ledger.Runtime) (rt : Runtime) (inv : Invocation)

/-- The row of a target is its own recomputation from the other rows, and the cash flows are those the
plan was made of. -/
def RecomputedIn (plan : AccountPlan) (fresh : List FreshNavRow) (target : RestatedTarget) : Prop :=
  ∃ observed ∈ fresh, observed.recordId = target.recordId ∧
    ∃ candidate ds,
      recomputeDerivedRow lrt rt (inv.contextOf plan.account) (inv.verifyGate plan.account target.date)
          observed (fresh.map (·.nav)) (restatementRunId plan.account target.date) =
        .ok (candidate, ds) ∧
      (∀ field ∈ derivedFields, recordNumber candidate.nav field = recordNumber observed.nav field) ∧
      verifyDataset ds target = .ok ()

/-- What a completed run leaves of an account. -/
def Completed (plan : AccountPlan) (sheet : Sheet) : Prop :=
  if inv.rollback then series (sheet.accountRows plan.account) = plan.beforeSeries
  else
    series (sheet.accountRows plan.account) = afterSeries plan ∧
      ∀ target ∈ plan.targets,
        RecomputedIn lrt rt inv plan (sheet.accountRows plan.account) target

variable {lrt rt inv} {plan : AccountPlan}

theorem verifyTarget_ok {fresh : List FreshNavRow} {target : RestatedTarget}
    (h : verifyTarget lrt rt inv plan fresh target = .ok ()) :
    RecomputedIn lrt rt inv plan fresh target := by
  unfold verifyTarget at h
  cases hfind : fresh.find? fun row => row.recordId = target.recordId with
  | none =>
    rw [hfind] at h
    cases h
  | some observed =>
    rw [hfind] at h
    obtain ⟨⟨candidate, ds⟩, hcandidate, h⟩ := except_bind_ok h
    obtain ⟨u, hds, h⟩ := except_bind_ok h
    refine ⟨observed, List.mem_of_find?_eq_some hfind, by simpa using List.find?_some hfind, candidate,
      ds, hcandidate, ?_, mapError_ok hds⟩
    intro field hfield
    by_contra hne
    rw [if_pos ⟨field, hfield, hne⟩] at h
    cases h

/-- The final check passes only when every target is its own recomputation. -/
theorem verifyCalculation_spec {R : Remote → Remote → Prop} (hR : Quiet R) {K : Sheet → Prop} :
    Spec R (fun w => K w.sheet) (verifyCalculation lrt rt inv plan)
      (fun _ w => K w.sheet ∧ ∀ target ∈ plan.targets,
        RecomputedIn lrt rt inv plan (w.sheet.accountRows plan.account) target) (fun _ _ => True) := by
  unfold verifyCalculation
  refine Spec.bind (readFreshNavRows_spec hR plan.account) fun fresh => ?_
  refine (Spec.fold (fun rest _ w => (K w.sheet ∧ fresh = w.sheet.accountRows plan.account) ∧
      ∀ target ∈ plan.targets, target ∉ rest → RecomputedIn lrt rt inv plan fresh target)
    fun target rest b _ => Spec.lift fun w hw => ?_).conseq ?_ ?_ fun _ _ => id
  · cases hcheck : verifyTarget lrt rt inv plan fresh target with
    | error e => trivial
    | ok u =>
      refine ⟨hw.1, fun other hother hrest => ?_⟩
      by_cases hsame : other = target
      · rw [hsame]
        exact verifyTarget_ok hcheck
      · exact hw.2 other hother fun hmem => (List.mem_cons.mp hmem).elim hsame hrest
  · exact fun w hw => ⟨hw, fun target hmem hrest => absurd hmem hrest⟩
  · rintro _ w ⟨⟨hK, hfresh⟩, hall⟩
    exact ⟨hK, fun target hmem => hfresh ▸ hall target hmem List.not_mem_nil⟩

theorem execute_spec : Spec (Restates [plan] inv.rollback) (fun _ => True) (execute lrt rt inv plan)
    (fun _ w => Completed lrt rt inv plan w.sheet) (fun _ _ => True) := by
  have hquiet := quiet_restates [plan] inv.rollback
  unfold execute Completed
  refine Spec.bind (verifySeries_spec hquiet true) fun current => ?_
  refine Spec.of_eq fun w hw => ?_
  have hsub : (if inv.rollback then plan.targets.reverse else plan.targets) ⊆ plan.targets := by
    split
    · exact fun target => List.mem_reverse.mp
    · exact fun target => id
  refine Spec.bind ((restateRows_spec hsub hw.1).pre fun _ _ => trivial) fun _ => ?_
  split
  · refine Spec.bind (readFreshNavRows_spec (K := fun _ => True) hquiet plan.account) fun rows => ?_
    exact Spec.require (fun v hv h => hv.2 ▸ h) fun _ _ _ => trivial
  · refine Spec.bind (verifySeries_spec hquiet false) fun live => ?_
    refine (verifyCalculation_spec (K := fun sheet => series (sheet.accountRows plan.account) =
      afterSeries plan) hquiet).pre fun v hv => ?_
    rw [← hv.2]
    exact hv.1.eq_afterSeries

/-- The checks before the first write only read. -/
theorem precheck_spec : Spec (Restates [plan] inv.rollback) (fun _ => True) (precheck lrt inv plan)
    (fun _ _ => True) (fun _ _ => True) := by
  have hquiet := quiet_restates [plan] inv.rollback
  unfold precheck
  refine Spec.bind (Q := fun _ _ => True) ((verifySeries_spec hquiet true).post fun _ _ _ => trivial)
    fun _ => ?_
  split
  · exact Spec.ret fun _ _ => trivial
  · refine Spec.bind (Q := fun _ _ => True) (Spec.require (fun _ _ _ => trivial) fun _ _ _ => trivial)
      fun _ => ?_
    refine Spec.fold_inv fun _ target _ => Spec.lift fun w _ => ?_
    cases (checkTargetDataset lrt inv plan target).mapError NavRefusal.failed <;> trivial

end

/-! ## Runs of the command -/

section
variable {plans : List AccountPlan} {rollback : Bool} {w w' : Remote}

/-- A row that no recorded series has. -/
def Outside (plans : List AccountPlan) (row : FreshNavRow) : Prop :=
  ∀ plan ∈ plans, plan.account = row.account → ∀ r ∈ plan.beforeSeries, r.recordId ≠ row.recordId

/-- A guarded request changes no row outside the recorded series. -/
theorem Guarded.mem_result {request : PatchRequest} (h : Guarded plans rollback request)
    {row : FreshNavRow} (hrow : Outside plans row) :
    row ∈ request.result.1 ↔ row ∈ request.sheet.1 := by
  obtain ⟨plan, hplan, target, old, hwrite⟩ := h
  obtain ⟨hold, hid⟩ := Sheet.record_eq_some.mp hwrite.found
  obtain ⟨r, hr, hrid⟩ := hwrite.recorded
  have hne : row.account = plan.account → row.recordId ≠ target.recordId := by
    intro haccount hsame
    exact hrow plan hplan haccount.symm r hr (hrid.trans hsame.symm)
  have hsame : ∀ other ∈ request.sheet.1, other.recordId = request.recordId → other = old :=
    fun other hother hotherId => eq_of_key_eq request.sheet.2 hother hold
      (hotherId.trans (hwrite.recordId.trans hid.symm))
  constructor
  · intro hmem
    obtain ⟨other, hother, heq⟩ := List.mem_map.mp hmem
    split at heq
    · next hotherId =>
      -- the written row is the one of the target
      have hrowId : row.recordId = target.recordId := by
        rw [← heq, FreshNavRow.write_recordId, hotherId, hwrite.recordId]
      have hrowAccount : row.account = plan.account := by
        rw [← heq, FreshNavRow.write_account, hsame other hother hotherId, hwrite.account]
      exact absurd hrowId (hne hrowAccount)
    · exact heq ▸ hother
  · intro hmem
    refine List.mem_map.mpr ⟨row, hmem, if_neg fun hrowId => ?_⟩
    have hrowOld := hsame row hmem hrowId
    exact hne (hrowOld ▸ hwrite.account) (hrowId.trans hwrite.recordId)

/-- A step leaves the rows outside the recorded series alone. -/
theorem Restates.mem_iff (h : Restates plans rollback w w') {row : FreshNavRow}
    (hrow : Outside plans row) : row ∈ w'.sheet.1 ↔ row ∈ w.sheet.1 := by
  rcases h.sheet with hsame | ⟨request, hguarded, hsheet, hresult⟩
  · rw [hsame]
  · rw [hresult, ← hsheet]
    exact hguarded.mem_result hrow

/-- A step issues only guarded requests. -/
theorem Restates.guarded (h : Restates plans rollback w w')
    (hw : ∀ request ∈ w.issued, Guarded plans rollback request) :
    ∀ request ∈ w'.issued, Guarded plans rollback request := by
  intro request hmem
  rcases h.issued with hsame | ⟨new, hguarded, hnew⟩
  · exact hw request (hsame ▸ hmem)
  · rw [hnew] at hmem
    rcases List.mem_append.mp hmem with hold | hlast
    · exact hw request hold
    · exact List.mem_singleton.mp hlast ▸ hguarded

/-- The rows of another account stay as they are. -/
theorem Restates.accountRows_ne {plan : AccountPlan} (h : Restates [plan] rollback w w')
    {account : String} (hne : plan.account ≠ account) :
    w'.sheet.accountRows account = w.sheet.accountRows account := by
  rcases h.sheet with hsame | ⟨request, ⟨plan', hplan', target, row, hwrite⟩, hsheet, hresult⟩
  · rw [hsame]
  · obtain rfl := List.mem_singleton.mp hplan'
    rw [hresult, ← hsheet]
    exact Sheet.accountRows_write_ne (hwrite.recordId ▸ hwrite.found) request.fields
      (hwrite.account.trans_ne hne)

end

section
variable {lrt : Ledger.Runtime} {rt : Runtime} {inv : Invocation} {plans : List AccountPlan}

/-- What is complete depends on the rows of the account only. -/
theorem completed_congr {plan : AccountPlan} {sheet sheet' : Sheet}
    (hrows : sheet'.accountRows plan.account = sheet.accountRows plan.account)
    (h : Completed lrt rt inv plan sheet) : Completed lrt rt inv plan sheet' := by
  unfold Completed at *
  rw [hrows]
  exact h

theorem restate_spec (haccounts : (plans.map (·.account)).Nodup) :
    Spec (Restates plans inv.rollback) (fun _ => True) (restate lrt rt inv plans)
      (fun _ w => ∀ plan ∈ plans, Completed lrt rt inv plan w.sheet) (fun _ _ => True) := by
  have hmono : ∀ plan ∈ plans, ∀ w w', Restates [plan] inv.rollback w w' →
      Restates plans inv.rollback w w' := fun plan hplan w w' h =>
    h.mono fun p hp => List.mem_singleton.mp hp ▸ hplan
  unfold restate
  refine Spec.bind (Q := fun _ _ => True) (Spec.fold_inv fun _ plan hplan =>
    precheck_spec.mono (hmono plan hplan)) fun _ => ?_
  -- the invariant: the accounts whose turn is over are complete
  refine (Spec.fold (fun rest _ w => ∀ plan ∈ plans, plan ∉ rest →
    Completed lrt rt inv plan w.sheet) fun plan rest b hsuf => ?_).conseq ?_ ?_ fun _ _ => id
  · have hplan : plan ∈ plans := hsuf.subset List.mem_cons_self
    have hother : ∀ p ∈ plans, p ≠ plan → plan.account ≠ p.account := fun p hp hne hsame =>
      hne (eq_of_key_eq haccounts hp hplan hsame.symm)
    refine ((execute_spec ).keep (I := fun w => ∀ p ∈ plans, p ≠ plan → p ∉ rest →
      Completed lrt rt inv p w.sheet) fun w w' hstep hw p hp hne hrest => ?_).conseq ?_ ?_ ?_
      |>.mono (hmono plan hplan)
    · exact completed_congr (hstep.accountRows_ne (hother p hp hne)) (hw p hp hne hrest)
    · exact fun w hw => ⟨trivial, fun p hp hne hrest => hw p hp fun hmem =>
        (List.mem_cons.mp hmem).elim hne hrest⟩
    · intro _ w hw p hp hrest
      by_cases hsame : p = plan
      · exact hsame ▸ hw.1
      · exact hw.2 p hp hsame hrest
    · exact fun _ _ _ => trivial
  · exact fun _ _ plan hplan hrest => absurd hplan hrest
  · exact fun _ w hw plan hplan => hw plan hplan List.not_mem_nil

/-- The plans are those of the accounts they were prepared for. -/
theorem prepareAll_ok {evidenceText : RestatementEvidence → String}
    {gate : String → CivilDate → Ledger.EffectService} {fx : FxManifest}
    {snapshots : String → CivilDate → List SnapshotRow} {sheet : Sheet}
    {sources : List (RepairContext × AuditBundle)}
    (h : prepareAll lrt rt evidenceText gate fx snapshots sheet sources = .ok plans) :
    List.Forall₂ (fun source plan => PreparedPlan lrt rt source.1 (gate source.1.account)
      (sheet.accountRows source.1.account) plan) sources plans :=
  (forall₂_of_mapM_ok h).imp fun _ _ hplan => prepare_ok hplan

/-- Rows outside the recorded series stay as they are through all runs. -/
theorem mem_invokeAll (haccounts : (plans.map (·.account)).Nodup) {row : FreshNavRow}
    (hrow : Outside plans row) (invs : List Invocation) (sheet : Sheet) :
    row ∈ (invokeAll lrt rt plans invs sheet).1 ↔ row ∈ sheet.1 := by
  induction invs generalizing sheet with
  | nil => exact Iff.rfl
  | cons inv rest ih =>
    refine (ih _).trans ?_
    exact (restate_spec haccounts).invariant (I := fun w => row ∈ w.sheet.1 ↔ row ∈ sheet.1)
      (fun _ _ hstep hw => (hstep.mem_iff hrow).trans hw) trivial Iff.rfl

end

/-- The states of a row that holds cash only. -/
def cashStates (total shares nav : ℚ) : NavColumn → FieldState
  | .totalValue | .cashValue => .value (.number total)
  | .stockValue | .fundValue | .cnStockValue | .usStockValue | .hkStockValue => .value (.number 0)
  | .shares => .value (.number shares)
  | .nav => .value (.number nav)
  | _ => .missing

/-- The row of 18 March 2025 and one before it. -/
def fundSheet : Sheet :=
  ⟨[⟨1, "a", Ledger.ledgerDate, cashStates 100 100 1⟩, ⟨2, "a", depositDay, cashStates 100 100 1⟩],
    by decide⟩

/-- The balance of the fund. -/
def fundRow : SnapshotRow := ⟨"s1", "2025-03-18", "CNY-MMF", "富途", "CNY", 100, 1, 1, 100⟩

/-- The account. -/
def fundContext : RepairContext := ⟨"a", ⟨2025, 0⟩, [], fun _ => none⟩

/-- The audit of the account. -/
def fundBundle : AuditBundle :=
  ⟨[⟨2, depositDay, fun field =>
    match cashStates 100 100 1 field with
    | .value (.number x) => some x
    | _ => none⟩], [fundRow]⟩

/-- The plans for a parity of 0.92. -/
def fundPlans : Except NavRefusal (List AccountPlan) :=
  prepareAll Ledger.ledgerRuntime depositRuntime (fun _ => "pbc_central_parity") (fun _ _ => none)
    ⟨[(depositDay, 92 / 100)], "sha256"⟩ (fun _ _ => [fundRow]) fundSheet [(fundContext, fundBundle)]

/-- The restatement leaves 92 at a NAV of 0.92, also when the answer to its write is lost and it is run
again. -/
example : (fundPlans.toOption.map fun plans =>
    let run := Invocation.mk false (fun _ => fundContext) (fun _ _ => [fundRow]) (fun _ _ => none)
      (fun _ _ => none)
    let lost := (invoke Ledger.ledgerRuntime depositRuntime (run [.ok, .ok, .ok, .lost]) plans
      fundSheet).2.sheet
    let again := invoke Ledger.ledgerRuntime depositRuntime (run []) plans lost
    (again.1.toOption, again.2.sheet.1.map fun row => (row.number .cashValue, row.number .nav))) =
      some (some (), [(some 100, some 1), (some 92, some (92 / 100))]) := by decide +kernel

end PortfolioManagement.NavRepair
