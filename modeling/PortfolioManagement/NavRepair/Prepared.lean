import PortfolioManagement.NavRepair.CashRestatement

/-!
# What a restatement plan records

The targets of a prepared plan are the rows of the tail in their order: the cash and the total of each
are shifted by one amount, and its derived fields are those recomputed from the shifted row after the
rows before it were replaced.
-/

namespace PortfolioManagement.NavRepair

open Nav

/-! ## States -/

theorem withEvidence_states_of_ne {row : FreshNavRow} {text : String} {field : NavColumn}
    (h : field ≠ .details) : (withEvidence row text).states field = row.states field := by
  unfold withEvidence
  cases field <;> first | rfl | exact absurd rfl h

/-! ## Targets -/

section
variable (lrt : Ledger.Runtime) (rt : Runtime) (context : RepairContext)
  (gate : CivilDate → Ledger.EffectService)

/-- A target is the restatement of a row: `candidate` is the shifted row recomputed among the working
rows. -/
structure RestatedRow (row : FreshNavRow) (working : List NAVHistory) (target : RestatedTarget)
    (cash total delta : ℚ) (candidate : FreshNavRow) (text : String) : Prop where
  /-- the row -/
  recordId : target.recordId = row.recordId
  /-- its day -/
  date : target.date = row.date
  /-- its states -/
  before : target.before = rowFields row
  /-- its cash -/
  cashValue : row.states .cashValue = .value (.number cash)
  /-- its total -/
  totalValue : row.states .totalValue = .value (.number total)
  /-- the recomputation of the shifted row -/
  recomputed : ∃ ds, recomputeDerivedRow lrt rt context (gate row.date)
      (shiftCash row cash total delta) working (restatementRunId context.account row.date) =
        .ok (candidate, ds) ∧
      target.cashFlowFingerprint = ds.financialFingerprint
  /-- the states of the recomputed row, with the evidence in its details -/
  after : target.after = rowFields (withEvidence candidate text)

/-- The targets restate the rows one after the other, each among the rows already restated. -/
inductive RestatedChain : List FreshNavRow → List NAVHistory → List RestatedTarget → Prop
  | nil (working : List NAVHistory) : RestatedChain [] working []
  | cons {row : FreshNavRow} {rest : List FreshNavRow} {working : List NAVHistory}
      {target : RestatedTarget} {targets : List RestatedTarget} {cash total delta : ℚ}
      {candidate : FreshNavRow} {text : String}
      (head : RestatedRow lrt rt context gate row working target cash total delta candidate text)
      (tail : RestatedChain rest (replaceNav (withEvidence candidate text).nav working) targets) :
      RestatedChain (row :: rest) working (target :: targets)

/-- A plan that was prepared from the rows of an account. -/
structure PreparedPlan (fresh : List FreshNavRow) (plan : AccountPlan) : Prop where
  /-- its account -/
  account : plan.account = context.account
  /-- the recorded rows -/
  before : plan.beforeSeries = series fresh
  /-- the targets: the rows from the start on -/
  chain : RestatedChain lrt rt context gate (fresh.filter fun row => plan.start ≤ row.date)
    (fresh.map (·.nav)) plan.targets

variable {lrt rt context gate}

/-- The states before and after have cash and totals that differ by the same amount. -/
theorem RestatedRow.shift {row : FreshNavRow} {working : List NAVHistory} {target : RestatedTarget}
    {cash total delta : ℚ} {candidate : FreshNavRow} {text : String}
    (h : RestatedRow lrt rt context gate row working target cash total delta candidate text) :
    fieldDelta target.before target.after .cashValue = some delta ∧
      fieldDelta target.before target.after .totalValue = some delta := by
  obtain ⟨ds, hrecomputed, -⟩ := h.recomputed
  obtain ⟨valuation, calculated, hrow⟩ := recomputeDerivedRow_ok hrecomputed
  have hafter : ∀ field ∉ maintenanceFields, field ∈ restatedFields → field ≠ .details →
      target.after.lookup field = some ((shiftCash row cash total delta).states field) := by
    intro field hfield hmem hdetails
    rw [h.after]
    refine (lookup_stateSubset _ hmem).trans (congrArg some ?_)
    rw [withEvidence_states_of_ne hdetails, hrow.row]
    exact candidateRow_states_of_notMem hfield
  have hbefore : ∀ field ∈ restatedFields, target.before.lookup field = some (row.states field) := by
    intro field hmem
    rw [h.before]
    exact lookup_stateSubset row hmem
  constructor
  · unfold fieldDelta
    rw [hbefore .cashValue (by decide), hafter .cashValue (by decide) (by decide) (by decide), h.cashValue]
    exact congrArg some (add_sub_cancel_left cash delta)
  · unfold fieldDelta
    rw [hbefore .totalValue (by decide), hafter .totalValue (by decide) (by decide) (by decide), h.totalValue]
    exact congrArg some (add_sub_cancel_left total delta)

/-- Every target of a chain is shifted by one amount. -/
theorem RestatedChain.shift {rows : List FreshNavRow} {working : List NAVHistory}
    {targets : List RestatedTarget} (h : RestatedChain lrt rt context gate rows working targets) :
    ∀ target ∈ targets, ∃ delta, fieldDelta target.before target.after .cashValue = some delta ∧
      fieldDelta target.before target.after .totalValue = some delta := by
  induction h with
  | nil => exact fun target hmem => absurd hmem List.not_mem_nil
  | cons head _ ih =>
    intro target hmem
    rcases List.mem_cons.mp hmem with rfl | hrest
    · exact ⟨_, head.shift⟩
    · exact ih target hrest

end

/-! ## Preparing -/

theorem cashTarget_ok {row adjusted : FreshNavRow} {amount rate delta : ℚ}
    (h : cashTarget row amount rate = .ok (adjusted, delta)) :
    ∃ cash total, row.states .cashValue = .value (.number cash) ∧
      row.states .totalValue = .value (.number total) ∧ adjusted = shiftCash row cash total delta := by
  unfold cashTarget at h
  split at h
  · cases h
  · obtain ⟨cash, hcash, h⟩ := except_bind_ok h
    obtain ⟨total, htotal, h⟩ := except_bind_ok h
    obtain ⟨rfl, rfl⟩ := Prod.mk.inj (Except.ok.inj h)
    exact ⟨cash, total, finiteStateValue_ok hcash, finiteStateValue_ok htotal, rfl⟩

section
variable {lrt : Ledger.Runtime} {rt : Runtime} {evidenceText : RestatementEvidence → String}
  {context : RepairContext} {gate : CivilDate → Ledger.EffectService} {bundle : AuditBundle}
  {fx : FxManifest} {snapshots : List SnapshotRow}

theorem prepareTarget_ok {row candidate : FreshNavRow} {working : List NAVHistory}
    {target : RestatedTarget}
    (h : prepareTarget lrt rt evidenceText context gate bundle fx snapshots row working =
      .ok (target, candidate)) :
    ∃ cash total delta recomputed text, candidate = withEvidence recomputed text ∧
      RestatedRow lrt rt context gate row working target cash total delta recomputed text := by
  unfold prepareTarget at h
  obtain ⟨_, -, h⟩ := except_bind_ok h
  obtain ⟨fund, -, h⟩ := except_bind_ok h
  cases hrate : fx.rates.lookup row.date with
  | none =>
    rw [hrate] at h
    cases h
  | some rate =>
    rw [hrate] at h
    obtain ⟨⟨adjusted, delta⟩, hadjusted, h⟩ := except_bind_ok h
    obtain ⟨cash, total, hcash, htotal, rfl⟩ := cashTarget_ok (mapError_ok hadjusted)
    simp only at h
    obtain ⟨⟨recomputed, ds⟩, hrecomputed, hresult⟩ := except_bind_ok h
    obtain ⟨rfl, rfl⟩ := Prod.mk.inj (Except.ok.inj hresult)
    exact ⟨cash, total, delta, recomputed, _, rfl,
      { recordId := rfl
        date := rfl
        before := rfl
        cashValue := hcash
        totalValue := htotal
        recomputed := ⟨ds, hrecomputed, rfl⟩
        after := rfl }⟩

theorem prepareTargets_ok {rows : List FreshNavRow} {working : List NAVHistory}
    {targets : List RestatedTarget}
    (h : prepareTargets lrt rt evidenceText context gate bundle fx snapshots rows working =
      .ok targets) : RestatedChain lrt rt context gate rows working targets := by
  induction rows generalizing working targets with
  | nil =>
    cases h
    exact .nil working
  | cons row rest ih =>
    obtain ⟨⟨target, candidate⟩, htarget, h⟩ := except_bind_ok h
    obtain ⟨others, hothers, h⟩ := except_bind_ok h
    cases h
    obtain ⟨cash, total, delta, recomputed, text, rfl, hhead⟩ := prepareTarget_ok htarget
    exact .cons hhead (ih hothers)

theorem prepare_ok {holdings : CivilDate → List SnapshotRow} {fresh : List FreshNavRow}
    {plan : AccountPlan}
    (h : prepare lrt rt evidenceText context gate bundle fx holdings fresh = .ok plan) :
    PreparedPlan lrt rt context gate fresh plan := by
  unfold prepare at h
  cases hdates : (bundle.navs.map (·.date)).insertionSort (· ≤ ·) with
  | nil =>
    simp only [hdates] at h
    cases h
  | cons start others =>
    simp only [hdates] at h
    split at h
    · cases h
    split at h
    · cases h
    obtain ⟨_, -, h⟩ := except_bind_ok h
    split at h
    · cases h
    obtain ⟨targets, htargets, h⟩ := except_bind_ok h
    cases h
    exact ⟨rfl, rfl, prepareTargets_ok htargets⟩

end

end PortfolioManagement.NavRepair
