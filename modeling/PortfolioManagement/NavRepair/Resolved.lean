import PortfolioManagement.NavRepair.Patch
import PortfolioManagement.NavRepair.Rebased

/-!
# What a resolved plan holds

The targets of a plan are recomputed in the order of their dates, each among the rows as the targets
before it leave them, and the series at the end is that of the patched rows.
-/

namespace PortfolioManagement.NavRepair

open Nav

/-! ## Patched rows -/

theorem natText_injective {m n : Nat} (h : toString m = toString n) : m = n := by
  have hdigits : Nat.toDigits 10 m = Nat.toDigits 10 n := by
    rw [← Nat.toList_repr, ← Nat.toList_repr]
    exact congrArg String.toList h
  calc m = Nat.ofDigitChars 10 (Nat.toDigits 10 m) 0 :=
        (Nat.ofDigitChars_toDigits (by decide) (by decide)).symm
    _ = Nat.ofDigitChars 10 (Nat.toDigits 10 n) 0 := by rw [hdigits]
    _ = n := Nat.ofDigitChars_toDigits (by decide) (by decide)

section
variable {rows : List PatchTarget} {target : PatchTarget} {row observed candidate : FreshNavRow}

@[simp] theorem appliedRow_recordId : (appliedRow rows row).recordId = row.recordId := by
  unfold appliedRow
  cases targetOf rows row.recordId <;> rfl

@[simp] theorem appliedRow_account : (appliedRow rows row).account = row.account := by
  unfold appliedRow
  cases targetOf rows row.recordId <;> rfl

@[simp] theorem appliedRow_date : (appliedRow rows row).date = row.date := by
  unfold appliedRow
  cases targetOf rows row.recordId <;> rfl

theorem targetOf_eq_none {recordId : Nat} :
    targetOf rows recordId = none ↔ ∀ t ∈ rows, t.recordId ≠ recordId := by
  unfold targetOf
  rw [List.find?_eq_none]
  exact forall₂_congr fun t _ => by simp

theorem mem_of_targetOf {recordId : Nat} (h : targetOf rows recordId = some target) :
    target ∈ rows ∧ target.recordId = recordId :=
  ⟨List.mem_of_find?_eq_some h, by simpa using List.find?_some h⟩

theorem targetOf_append (done rest : List PatchTarget) (recordId : Nat) :
    targetOf (done ++ rest) recordId = (targetOf done recordId).or (targetOf rest recordId) :=
  List.find?_append

/-- A row that is no target stays as it is. -/
theorem appliedRow_of_notTarget (h : ∀ t ∈ rows, t.recordId ≠ row.recordId) :
    appliedRow rows row = row := by
  unfold appliedRow
  rw [targetOf_eq_none.mpr h]
  rfl

theorem FreshNavRow.ext {row row' : FreshNavRow} (hid : row.recordId = row'.recordId)
    (haccount : row.account = row'.account) (hdate : row.date = row'.date)
    (hstates : ∀ field, row.states field = row'.states field) : row = row' := by
  obtain ⟨recordId, account, date, states⟩ := row
  obtain ⟨recordId', account', date', states'⟩ := row'
  obtain rfl : states = states' := funext hstates
  cases hid
  cases haccount
  cases hdate
  rfl

/-- The row that a recomputation makes keeps everything that is not maintained. -/
structure Maintains (observed candidate : FreshNavRow) : Prop where
  recordId : candidate.recordId = observed.recordId
  account : candidate.account = observed.account
  date : candidate.date = observed.date
  others : ∀ field ∉ maintenanceFields, candidate.states field = observed.states field

theorem maintains_candidateRow (observed : FreshNavRow) (calculated : NAVHistory)
    (ds : Ledger.CashFlowDatasetSnapshot) : Maintains observed (candidateRow observed calculated ds) :=
  ⟨rfl, rfl, rfl, fun _ h => candidateRow_states_of_notMem h⟩

/-- The total is not maintained. -/
theorem Maintains.totalValue (h : Maintains observed candidate) :
    candidate.nav.totalValue = observed.nav.totalValue := by
  have hnumber : candidate.number .totalValue = observed.number .totalValue :=
    congrArg (fun state : FieldState => state.value?.bind FieldValue.number?)
      (h.others .totalValue (by decide))
  unfold FreshNavRow.nav
  rw [hnumber]

/-- The wanted row is the recomputed one. -/
theorem planRow_desired (h : Maintains observed candidate) :
    (planRow observed candidate).desired observed = candidate := by
  refine FreshNavRow.ext h.recordId.symm h.account.symm h.date.symm fun field => ?_
  show ((stateSubset candidate maintenanceFields).lookup field).getD (observed.states field) = _
  by_cases hmem : field ∈ maintenanceFields
  · rw [lookup_stateSubset candidate hmem]
    rfl
  · rw [lookup_stateSubset_of_notMem candidate hmem]
    exact (h.others field hmem).symm

end

/-! ## The turns -/

section
variable (lrt : Ledger.Runtime) (rt : Runtime) (context : RepairContext)
  (gate : CivilDate → Ledger.EffectService) (fresh : List FreshNavRow)

/-- The rows as the targets leave them. -/
def appliedNavs (rows : List PatchTarget) : List NAVHistory :=
  fresh.map fun row => (appliedRow rows row).nav

/-- A target is the recomputation of a row among the rows as the targets before it leave them. -/
structure ResolvedTarget (done : List PatchTarget) (target : PatchTarget)
    (observed candidate : FreshNavRow) : Prop where
  /-- the row -/
  mem : observed ∈ fresh
  /-- its recomputation -/
  recomputed : ∃ ds, recomputeDerivedRow lrt rt context (gate observed.date) observed
    (appliedNavs fresh done) (repairRunId context.account observed.date) = .ok (candidate, ds)
  /-- the row of the plan -/
  target : target = planRow observed candidate

/-- The targets of a plan in order. -/
inductive ResolvedChain : List PatchTarget → List PatchTarget → Prop
  | nil (done : List PatchTarget) : ResolvedChain done []
  | cons {done : List PatchTarget} {target : PatchTarget} {rest : List PatchTarget}
      {observed candidate : FreshNavRow}
      (head : ResolvedTarget lrt rt context gate fresh done target observed candidate)
      (tail : ResolvedChain (done ++ [target]) rest) : ResolvedChain done (target :: rest)

variable {lrt rt context gate fresh}

theorem ResolvedTarget.maintains {done : List PatchTarget} {target : PatchTarget}
    {observed candidate : FreshNavRow}
    (h : ResolvedTarget lrt rt context gate fresh done target observed candidate) :
    Maintains observed candidate := by
  obtain ⟨ds, hrecomputed⟩ := h.recomputed
  obtain ⟨_, calculated, hrow⟩ := recomputeDerivedRow_ok hrecomputed
  rw [hrow.row]
  exact maintains_candidateRow observed calculated ds

/-- Replacing the record of a target is applying the target. -/
theorem replaceNav_appliedNavs {done : List PatchTarget} {target : PatchTarget}
    {observed candidate : FreshNavRow} (hids : (fresh.map (·.recordId)).Nodup)
    (h : ResolvedTarget lrt rt context gate fresh done target observed candidate)
    (hnew : ∀ t ∈ done, t.recordId ≠ observed.recordId) :
    replaceNav candidate.nav (appliedNavs fresh done) = appliedNavs fresh (done ++ [target]) := by
  have hid : target.recordId = observed.recordId := by
    rw [h.target]
    rfl
  unfold replaceNav appliedNavs
  rw [List.map_map]
  refine List.map_congr_left fun row hrow => ?_
  rw [Function.comp_apply]
  by_cases hsame : row.recordId = observed.recordId
  · -- the row of the target
    obtain rfl := eq_of_key_eq hids hrow h.mem hsame
    have hcandidate : (appliedRow done row).nav.recordId = candidate.nav.recordId := by
      show some (toString (appliedRow done row).recordId) = some (toString candidate.recordId)
      rw [appliedRow_recordId, h.maintains.recordId]
    have htarget : targetOf (done ++ [target]) row.recordId = some target := by
      rw [targetOf_append, targetOf_eq_none.mpr hnew, Option.none_or]
      exact List.find?_cons_of_pos (decide_eq_true hid)
    have happlied : appliedRow (done ++ [target]) row = candidate := by
      unfold appliedRow
      rw [htarget]
      show target.desired row = candidate
      rw [h.target]
      exact planRow_desired h.maintains
    rw [if_pos hcandidate, happlied]
  · have hcandidate : (appliedRow done row).nav.recordId ≠ candidate.nav.recordId := by
      intro heq
      have htext : toString (appliedRow done row).recordId = toString candidate.recordId :=
        Option.some.inj heq
      rw [appliedRow_recordId, h.maintains.recordId] at htext
      exact hsame (natText_injective htext)
    have htarget : targetOf (done ++ [target]) row.recordId = targetOf done row.recordId := by
      have hone : targetOf [target] row.recordId = none :=
        targetOf_eq_none.mpr fun t ht => by
          rw [List.mem_singleton.mp ht, hid]
          exact Ne.symm hsame
      rw [targetOf_append, hone, Option.or_none]
    rw [if_neg hcandidate]
    unfold appliedRow
    rw [htarget]

theorem resolveTarget_ok {patch : PatchRow} {done : List PatchTarget} {target : PatchTarget}
    {candidate : FreshNavRow}
    (h : resolveTarget lrt rt context gate fresh patch (appliedNavs fresh done) =
      .ok (target, candidate)) :
    ∃ observed, observed.date = patch.d ∧
      ResolvedTarget lrt rt context gate fresh done target observed candidate := by
  unfold resolveTarget at h
  cases hfind : fresh.find? fun row => row.date = patch.d with
  | none =>
    rw [hfind] at h
    cases h
  | some observed =>
    rw [hfind] at h
    have hdate : observed.date = patch.d := by simpa using List.find?_some hfind
    obtain ⟨⟨made, ds⟩, hmade, h⟩ := except_bind_ok h
    simp only at h
    split at h
    · cases h
    · split at h
      · cases h
      · obtain ⟨rfl, rfl⟩ := Prod.mk.inj (Except.ok.inj h)
        refine ⟨observed, hdate, List.mem_of_find?_eq_some hfind, ⟨ds, ?_⟩, rfl⟩
        rw [hdate]
        exact mapError_ok hmade

/-- The chain of the turns, and the series they leave. -/
theorem resolveTargets_ok {patches : List PatchRow} {done targets : List PatchTarget}
    {series : List NAVHistory} (hids : (fresh.map (·.recordId)).Nodup)
    (hdates : (patches.map (·.d)).Nodup) (hdone : ∀ t ∈ done, t.date ∉ patches.map (·.d))
    (hrecorded : ∀ t ∈ done, ∃ row ∈ fresh, t.recordId = row.recordId ∧ t.date = row.date)
    (h : resolveTargets lrt rt context gate fresh patches (appliedNavs fresh done) =
      .ok (targets, series)) :
    ResolvedChain lrt rt context gate fresh done targets ∧
      series = appliedNavs fresh (done ++ targets) ∧ targets.map (·.date) = patches.map (·.d) := by
  induction patches generalizing done targets series with
  | nil =>
    cases h
    exact ⟨.nil done, by rw [List.append_nil], rfl⟩
  | cons patch rest ih =>
    obtain ⟨⟨target, candidate⟩, htarget, h⟩ := except_bind_ok h
    obtain ⟨⟨others, series'⟩, hothers, h⟩ := except_bind_ok h
    cases h
    obtain ⟨observed, hobserved, hresolved⟩ := resolveTarget_ok htarget
    obtain ⟨hpatch, hrest⟩ := List.nodup_cons.mp hdates
    have htargetDate : target.date = patch.d := by
      rw [hresolved.target]
      exact hobserved
    -- the row of the patch is not one of the targets before
    have hnew : ∀ t ∈ done, t.recordId ≠ observed.recordId := by
      intro t ht hid
      obtain ⟨row, hrow, hrowId, hrowDate⟩ := hrecorded t ht
      have hsame := eq_of_key_eq hids hrow hresolved.mem (hrowId.symm.trans hid)
      refine hdone t ht ?_
      rw [hrowDate, hsame, hobserved]
      exact List.mem_cons_self
    simp only [replaceNav_appliedNavs hids hresolved hnew] at hothers
    have hdone' : ∀ t ∈ done ++ [target], t.date ∉ rest.map (·.d) := by
      intro t ht
      rcases List.mem_append.mp ht with hold | hlast
      · exact fun hmem => hdone t hold (List.mem_cons_of_mem _ hmem)
      · rw [List.mem_singleton.mp hlast, htargetDate]
        exact hpatch
    have hrecorded' : ∀ t ∈ done ++ [target],
        ∃ row ∈ fresh, t.recordId = row.recordId ∧ t.date = row.date := by
      intro t ht
      rcases List.mem_append.mp ht with hold | hlast
      · exact hrecorded t hold
      · refine ⟨observed, hresolved.mem, ?_⟩
        rw [List.mem_singleton.mp hlast, hresolved.target]
        exact ⟨rfl, rfl⟩
    obtain ⟨hchain, hseries, hothersDates⟩ := ih hrest hdone' hrecorded' hothers
    refine ⟨.cons hresolved hchain, ?_, ?_⟩
    · rw [hseries, List.append_assoc]
      rfl
    · rw [List.map_cons, List.map_cons, htargetDate, hothersDates]

/-- A target of a chain, with the targets before and after it. -/
theorem ResolvedChain.split {done targets : List PatchTarget}
    (h : ResolvedChain lrt rt context gate fresh done targets) :
    ∀ t ∈ targets, ∃ before after observed candidate, targets = before ++ t :: after ∧
      ResolvedTarget lrt rt context gate fresh (done ++ before) t observed candidate := by
  induction h with
  | nil => exact fun t ht => absurd ht List.not_mem_nil
  | @cons done target rest observed candidate head tail ih =>
    intro t ht
    rcases List.mem_cons.mp ht with rfl | hrest
    · exact ⟨[], rest, observed, candidate, rfl, by rw [List.append_nil]; exact head⟩
    · obtain ⟨before, after, observed', candidate', hsplit, hresolved⟩ := ih t hrest
      refine ⟨target :: before, after, observed', candidate', by rw [hsplit]; rfl, ?_⟩
      rw [List.append_assoc] at hresolved
      exact hresolved

/-- What a resolved plan holds. -/
structure ResolvedPlan (lrt : Ledger.Runtime) (rt : Runtime) (context : RepairContext)
    (gate : CivilDate → Ledger.EffectService) (fresh : List FreshNavRow) (patches : List PatchRow)
    (plan : PatchPlan) (series : List NAVHistory) : Prop where
  /-- its targets -/
  chain : ResolvedChain lrt rt context gate fresh [] plan.rows
  /-- the series -/
  series : series = appliedNavs fresh plan.rows
  /-- the days of the targets -/
  dates : plan.rows.map (·.date) = patches.map (·.d)
  /-- the rows have distinct days -/
  distinct : (fresh.map (·.date)).Nodup
  /-- the account -/
  account : plan.account = context.account
  /-- the other rows -/
  dependencies : plan.dependencyRows = maintenanceDependencyEvidence fresh (patches.map (·.d))
  /-- the digest -/
  digest : plan.planDigest = canonicalPlanDigest plan.account plan.rows plan.dependencyRows

theorem assertMaintenanceHistoryEvidence_ok {rows : List FreshNavRow} {account : String}
    {targets : List CivilDate} (h : assertMaintenanceHistoryEvidence rows account targets = .ok ()) :
    targets ≠ [] ∧ (rows.map (·.date)).Nodup := by
  unfold assertMaintenanceHistoryEvidence at h
  by_cases htargets : targets = []
  · rw [if_pos htargets] at h
    cases h
  · rw [if_neg htargets] at h
    by_cases hdates : (rows.map (·.date)).Nodup
    · exact ⟨htargets, hdates⟩
    · rw [if_pos hdates] at h
      cases h

theorem resolvePatchTargets_ok {patches : List PatchRow} {plan : PatchPlan} {series : List NAVHistory}
    (hids : (fresh.map (·.recordId)).Nodup) (hdates : (patches.map (·.d)).Nodup)
    (h : resolvePatchTargets lrt rt context gate fresh patches = .ok (plan, series)) :
    ResolvedPlan lrt rt context gate fresh patches plan series := by
  unfold resolvePatchTargets at h
  split at h
  · cases h
  · obtain ⟨u, hevidence, h⟩ := except_bind_ok h
    obtain ⟨⟨rows, series'⟩, hrows, h⟩ := except_bind_ok h
    cases h
    have hnone : fresh.map (·.nav) = appliedNavs fresh [] := rfl
    rw [hnone] at hrows
    obtain ⟨hchain, hseries, htargetDates⟩ := resolveTargets_ok hids hdates
      (fun t ht => absurd ht List.not_mem_nil) (fun t ht => absurd ht List.not_mem_nil) hrows
    exact
      { chain := hchain
        series := hseries
        dates := htargetDates
        distinct := (assertMaintenanceHistoryEvidence_ok (mapError_ok hevidence)).2
        account := rfl
        dependencies := rfl
        digest := rfl }

end

end PortfolioManagement.NavRepair
