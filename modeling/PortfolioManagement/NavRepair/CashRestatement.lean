import PortfolioManagement.Lib.Digest
import PortfolioManagement.NavRepair.Remote

/-!
# The cash restatement

`cash_restatement`: from a day on, the cash and the total of every row of an account are shifted by what
a fund balance that was booked in the wrong currency is worth less, and the derived fields are
recomputed along the chain. A plan records the rows before and after; it is applied or rolled back row
by row, and both may be repeated after an interruption.
-/

namespace PortfolioManagement.NavRepair

open Nav
open Prog (raise reads alter lift require fold)

/-! ## The plan -/

/-- `FIELDS`. -/
def restatedFields : List NavColumn := baseFields ++ maintenanceFields

/-- `states`. -/
def rowFields (row : FreshNavRow) : Items NavColumn FieldState := stateSubset row restatedFields

/-- A row of a series. -/
structure SeriesRow where
  /-- `record_id` -/
  recordId : Nat
  /-- `date` -/
  date : CivilDate
  /-- `fields` -/
  fields : Items NavColumn FieldState
deriving DecidableEq

/-- `series`. -/
def series (rows : List FreshNavRow) : List SeriesRow :=
  rows.map fun row => ⟨row.recordId, row.date, rowFields row⟩

/-- A row of `holdings_snapshot`. -/
structure SnapshotRow where
  /-- `record_id` -/
  recordId : String
  /-- `as_of` -/
  asOf : String
  /-- `asset_id` -/
  assetId : String
  /-- `broker` -/
  broker : String
  /-- `currency` -/
  currency : String
  /-- `quantity` -/
  quantity : ℚ
  /-- `price` -/
  price : ℚ
  /-- `cny_price` -/
  cnyPrice : ℚ
  /-- `market_value_cny` -/
  marketValueCny : ℚ
deriving DecidableEq

/-- `snapshot_hash`. -/
def snapshotHash (rows : List SnapshotRow) : Digest (List SnapshotRow) :=
  .of (sortBy (·.recordId) rows)

/-- A NAV row of the audit. -/
structure AuditRow where
  /-- `record_id` -/
  recordId : Nat
  /-- `date` -/
  date : CivilDate
  /-- the base facts -/
  base : NavColumn → Option ℚ

/-- The audit of an account. -/
structure AuditBundle where
  /-- `navs` -/
  navs : List AuditRow
  /-- `snapshots` -/
  snapshots : List SnapshotRow

/-- The manifest of the central parity rates. -/
structure FxManifest where
  /-- `rates` -/
  rates : Items CivilDate ℚ
  /-- `sha256` -/
  sha256 : String

/-- `base_fact_restatement`. -/
structure RestatementEvidence where
  /-- `rate` -/
  rate : ℚ
  /-- `rate_source_sha256` -/
  rateSourceSha256 : String
  /-- `delta` -/
  delta : ℚ
  /-- `original_cash_value` -/
  originalCashValue : Option ℚ
  /-- `original_total_value` -/
  originalTotalValue : Option ℚ
  /-- `mmf_snapshot_record_id` -/
  mmfSnapshotRecordId : String

/-- A row to restate. -/
structure RestatedTarget where
  /-- `record_id` -/
  recordId : Nat
  /-- `date` -/
  date : CivilDate
  /-- `before` -/
  before : Items NavColumn FieldState
  /-- `after` -/
  after : Items NavColumn FieldState
  /-- `cash_flow_fingerprint` -/
  cashFlowFingerprint : Ledger.DatasetFingerprint

/-- The plan of an account. -/
structure AccountPlan where
  /-- `account` -/
  account : String
  /-- `start` -/
  start : CivilDate
  /-- `before_series` -/
  beforeSeries : List SeriesRow
  /-- `snapshot_sha256` -/
  snapshotSha256 : Digest (List SnapshotRow)
  /-- `targets` -/
  targets : List RestatedTarget

/-! ## Preparing -/

/-- The row with its cash and its total shifted. -/
def shiftCash (row : FreshNavRow) (cash total delta : ℚ) : FreshNavRow :=
  { row with
    states := fun field =>
      match field with
      | .cashValue => .value (.number (cash + delta))
      | .totalValue => .value (.number (total + delta))
      | other => row.states other }

/-- `cash_target`: the shifted row and the shift. -/
def cashTarget (row : FreshNavRow) (amount rate : ℚ) : Except Error (FreshNavRow × ℚ) := do
  if amount < 0 ∨ rate ≤ 0 then throw (.value "invalid MMF amount or FX rate")
  let delta := (money (amount * rate)).toDecimal - amount
  let cash ← finiteStateValue row .cashValue
  let total ← finiteStateValue row .totalValue
  pure (shiftCash row cash total delta, delta)

/-- The fund row of a day. -/
def fundSnapshot (snapshots : List SnapshotRow) (day : CivilDate) : Except Error SnapshotRow :=
  match snapshots.filter fun s =>
    s.asOf = day.isoformat ∧ s.assetId = "CNY-MMF" ∧ s.broker = "富途" with
  | [s] =>
    if s.currency ≠ "CNY" ∨ s.marketValueCny ≠ s.quantity ∨ s.price ≠ 1 ∨ s.cnyPrice ≠ 1 then
      .error (.value ("unexpected MMF shape: " ++ day.isoformat))
    else .ok s
  | _ => .error (.value ("unexpected MMF shape: " ++ day.isoformat))

/-- The row is the one the audit saw. -/
def checkAudited (bundle : AuditBundle) (row : FreshNavRow) : Except Error Unit :=
  match bundle.navs.find? fun n => n.date = row.date with
  | none => .error ⟨.runtimeError, "StopIteration"⟩
  | some original =>
    if row.recordId ≠ original.recordId ∨
        ∃ field ∈ baseFields, recordNumber row.nav field ≠ original.base field then
      .error (.value ("base facts changed since audit: " ++ row.date.isoformat))
    else if (row.details.bind fun d => d.others.lookup "base_fact_restatement").isSome then
      .error (.value ("already restated: " ++ row.date.isoformat))
    else .ok ()

/-- The row with the evidence of the restatement in its details. -/
def withEvidence (row : FreshNavRow) (text : String) : FreshNavRow :=
  { row with
    states := fun field =>
      match field, row.details with
      | .details, some d =>
        .value (.details { d with others := Items.set "base_fact_restatement" text d.others })
      | other, _ => row.states other }

/-- The run id of a recomputation. -/
def restatementRunId (account : String) (day : CivilDate) : String :=
  "cash-restatement:" ++ account ++ ":" ++ day.isoformat

section
variable (lrt : Ledger.Runtime) (rt : Runtime) (evidenceText : RestatementEvidence → String)
  (context : RepairContext) (gate : CivilDate → Ledger.EffectService)

/-- The target of a row, and the row it makes. -/
def prepareTarget (bundle : AuditBundle) (fx : FxManifest) (snapshots : List SnapshotRow)
    (row : FreshNavRow) (working : List NAVHistory) :
    Except NavRefusal (RestatedTarget × FreshNavRow) := do
  (checkAudited bundle row).mapError .failed
  let fund ← (fundSnapshot snapshots row.date).mapError .failed
  match fx.rates.lookup row.date with
  | none => throw (.failed ⟨.keyError, row.date.isoformat⟩)
  | some rate =>
    let (adjusted, delta) ← (cashTarget row fund.quantity rate).mapError .failed
    let (candidate, ds) ← recomputeDerivedRow lrt rt context (gate row.date) adjusted working
      (restatementRunId context.account row.date)
    let candidate := withEvidence candidate (evidenceText
      { rate := rate
        rateSourceSha256 := fx.sha256
        delta := delta
        originalCashValue := row.number .cashValue
        originalTotalValue := row.number .totalValue
        mmfSnapshotRecordId := fund.recordId })
    pure (⟨row.recordId, row.date, rowFields row, rowFields candidate, ds.financialFingerprint⟩,
      candidate)

/-- The targets of the rows, each computed after the rows before it were replaced. -/
def prepareTargets (bundle : AuditBundle) (fx : FxManifest) (snapshots : List SnapshotRow) :
    List FreshNavRow → List NAVHistory → Except NavRefusal (List RestatedTarget)
  | [], _ => .ok []
  | row :: rest, working => do
    let (target, candidate) ← prepareTarget lrt rt evidenceText context gate bundle fx snapshots row
      working
    let targets ← prepareTargets bundle fx snapshots rest (replaceNav candidate.nav working)
    pure (target :: targets)

/-- `prepare`; `snapshots` are the holdings snapshots of the account from a day on. -/
def prepare (bundle : AuditBundle) (fx : FxManifest) (snapshots : CivilDate → List SnapshotRow)
    (fresh : List FreshNavRow) : Except NavRefusal AccountPlan := do
  let sourceDates := (bundle.navs.map (·.date)).insertionSort (· ≤ ·)
  match sourceDates with
  | [] => throw (.failed (.value "invalid source dates"))
  | start :: _ =>
    if ¬ sourceDates.Nodup then throw (.failed (.value "invalid source dates"))
    if snapshotHash (snapshots start) ≠ snapshotHash bundle.snapshots then
      throw (.failed (.value "snapshot evidence changed since audit"))
    let rows := fresh.filter fun row => start ≤ row.date
    (assertMaintenanceHistoryEvidence fresh context.account (rows.map (·.date))).mapError .failed
    if rows.map (·.date) ≠ sourceDates then
      throw (.failed (.value "NAV tail changed; refresh audit before planning"))
    let targets ← prepareTargets lrt rt evidenceText context gate bundle fx (snapshots start) rows
      (fresh.map (·.nav))
    pure ⟨context.account, start, series fresh, snapshotHash (snapshots start), targets⟩

end

/-! ## The patch of a row -/

/-- The base facts a restatement must not change. -/
def keptBaseFields : List NavColumn :=
  baseFields.filter fun field => field ≠ .cashValue ∧ field ≠ .totalValue

/-- How much a number changes. -/
def fieldDelta (expected target : Items NavColumn FieldState) (field : NavColumn) : Option ℚ :=
  match expected.lookup field, target.lookup field with
  | some (.value (.number before)), some (.value (.number after)) => some (after - before)
  | _, _ => none

/-- The states that change. -/
def changedFields (expected target : Items NavColumn FieldState) : Items NavColumn FieldState :=
  target.filter fun item => expected.lookup item.1 ≠ some item.2

/-- `patch_nav_cash_restatement`. -/
def patchNavCashRestatement (account : String) (recordId : Nat)
    (expected target : Items NavColumn FieldState) : RemoteProg Unit := do
  require (expected.map Prod.fst = restatedFields ∧ target.map Prod.fst = restatedFields)
    (.failed (.value "cash restatement requires complete before/after states"))
  require (∀ field ∈ keptBaseFields, expected.lookup field = target.lookup field)
    (.failed (.value "cash restatement cannot change non-cash base facts"))
  require ((fieldDelta expected target .cashValue).isSome ∧
      (fieldDelta expected target .totalValue).isSome)
    (.failed (.value "cash and total must be present"))
  require (fieldDelta expected target .cashValue = fieldDelta expected target .totalValue)
    (.failed (.value "cash and total restatement deltas must agree"))
  let rows ← readFreshNavRows account
  match rows.filter fun row => row.recordId = recordId with
  | [row] =>
    require (rowFields row = expected) (.failed (.value "cash restatement CAS conflict"))
    patchNavFields recordId (changedFields expected target)
  | _ => raise (.failed (.value "cash restatement target is not unique"))

/-! ## Applying and rolling back -/

/-- The target of a record id: of several the last one. -/
def AccountPlan.target (plan : AccountPlan) (recordId : Nat) : Option RestatedTarget :=
  (plan.targets.filter fun t => t.recordId = recordId).getLast?

/-- The states a row may have. -/
def allowedFields (plan : AccountPlan) (allowMixed : Bool) (original : SeriesRow) :
    List (Items NavColumn FieldState) :=
  match plan.target original.recordId with
  | none => [original.fields]
  | some target => if allowMixed then [target.before, target.after] else [target.after]

/-- `verify_series`. -/
def verifySeries (plan : AccountPlan) (allowMixed : Bool) : RemoteProg (List SeriesRow) := do
  let live := series (← readFreshNavRows plan.account)
  require (live.map (fun r => (r.recordId, r.date)) =
      plan.beforeSeries.map fun r => (r.recordId, r.date))
    (.failed (.value "NAV series membership changed"))
  require (∀ pair ∈ live.zip plan.beforeSeries, pair.1.fields ∈ allowedFields plan allowMixed pair.2)
    (.failed (.value "NAV CAS conflict"))
  pure live

/-- The states of a row of a series. -/
def fieldsOf (rows : List SeriesRow) (recordId : Nat) : Option (Items NavColumn FieldState) :=
  (rows.find? fun r => r.recordId = recordId).map (·.fields)

/-- The states a row is expected in and those it is written to. -/
def RestatedTarget.sides (target : RestatedTarget) (rollback : Bool) :
    Items NavColumn FieldState × Items NavColumn FieldState :=
  if rollback then (target.after, target.before) else (target.before, target.after)

/-- The turn of a target in `execute`. -/
def restateRow (plan : AccountPlan) (rollback : Bool) (current : List SeriesRow)
    (target : RestatedTarget) : RemoteProg (List SeriesRow) := do
  let (before, after) := target.sides rollback
  match fieldsOf current target.recordId with
  | none => raise (.failed ⟨.keyError, toString target.recordId⟩)
  | some live =>
    if live = after then pure current
    else do
      patchNavCashRestatement plan.account target.recordId before after
      let current ← verifySeries plan true
      require (fieldsOf current target.recordId = some after)
        (.failed (.value "write readback mismatch"))
      pure current

/-- `verify_dataset`. -/
def verifyDataset (ds : Ledger.CashFlowDatasetSnapshot) (target : RestatedTarget) :
    Except Error Unit :=
  match target.after.lookup .details with
  | some (.value (.details d)) =>
    match d.maintenanceProvenance with
    | some provenance =>
      if ¬ ds.complete then .error (.value "cash-flow dataset is blocked")
      else if ds.financialFingerprint ≠ provenance.cashFlowDataset.financialFingerprint then
        .error (.value "cash-flow evidence changed: financial_fingerprint")
      else if ds.fxConfirmationFingerprint ≠ provenance.cashFlowDataset.fxConfirmationFingerprint then
        .error (.value "cash-flow evidence changed: fx_confirmation_fingerprint")
      else .ok ()
    | none => .error ⟨.keyError, "maintenance_provenance"⟩
  | _ => .error ⟨.keyError, "details"⟩

/-- The maintenance fields other than the details. -/
def derivedFields : List NavColumn := maintenanceFields.filter fun field => field ≠ .details

/-- What a run of the command finds. -/
structure Invocation where
  /-- `mode` is `rollback` -/
  rollback : Bool
  /-- the context of an account -/
  context : String → RepairContext
  /-- the holdings snapshots of an account from a day on -/
  snapshots : String → CivilDate → List SnapshotRow
  /-- the effect gate of a dataset that is built before the first write -/
  checkGate : String → CivilDate → Ledger.EffectService
  /-- the effect gate of the final recomputation -/
  verifyGate : String → CivilDate → Ledger.EffectService
  /-- how its requests end -/
  answers : List RemoteAnswer

/-- `create_nav_repair_context`. -/
def Invocation.contextOf (inv : Invocation) (account : String) : RepairContext :=
  { inv.context account with account := account }

section
variable (lrt : Ledger.Runtime) (rt : Runtime) (inv : Invocation)

/-- The turn of a target in `verify_calculation`. -/
def verifyTarget (plan : AccountPlan) (fresh : List FreshNavRow) (target : RestatedTarget) :
    Except NavRefusal Unit :=
  match fresh.find? fun row => row.recordId = target.recordId with
  | none => .error (.failed ⟨.keyError, toString target.recordId⟩)
  | some observed => do
    let (candidate, ds) ← recomputeDerivedRow lrt rt (inv.contextOf plan.account)
      (inv.verifyGate plan.account target.date) observed (fresh.map (·.nav))
      (restatementRunId plan.account target.date)
    (verifyDataset ds target).mapError .failed
    if ∃ field ∈ derivedFields, recordNumber candidate.nav field ≠ recordNumber observed.nav field then
      throw (.failed (.value ("canonical verification failed: " ++ target.date.isoformat)))

/-- `verify_calculation`. -/
def verifyCalculation (plan : AccountPlan) : RemoteProg Unit := do
  let fresh ← readFreshNavRows plan.account
  fold plan.targets () fun _ target => lift (verifyTarget lrt rt inv plan fresh target)

/-- `execute`. -/
def execute (plan : AccountPlan) : RemoteProg Unit := do
  let current ← verifySeries plan true
  let _ ← fold (if inv.rollback then plan.targets.reverse else plan.targets) current
    (restateRow plan inv.rollback)
  if inv.rollback then do
    let rows ← readFreshNavRows plan.account
    require (series rows = plan.beforeSeries) (.failed (.value "rollback verification failed"))
  else do
    let _ ← verifySeries plan false
    verifyCalculation lrt rt inv plan

/-- The dataset check of a target before the first write. -/
def checkTargetDataset (plan : AccountPlan) (target : RestatedTarget) : Except Error Unit := do
  let ds ← Ledger.buildDataset lrt (inv.contextOf plan.account).ledger
    (inv.contextOf plan.account).confirmations
    ⟨plan.account, target.date, "cash-restatement-check", (inv.contextOf plan.account).config.startYear⟩
    (inv.checkGate plan.account target.date)
  verifyDataset ds target

/-- The checks of an account before the first write. -/
def precheck (plan : AccountPlan) : RemoteProg Unit := do
  let _ ← verifySeries plan true
  if inv.rollback then pure ()
  else do
    require (snapshotHash (inv.snapshots plan.account plan.start) = plan.snapshotSha256)
      (.failed (.value "historical snapshots changed"))
    fold plan.targets () fun _ target => lift ((checkTargetDataset lrt inv plan target).mapError .failed)

/-- `main` in the modes `apply` and `rollback`. -/
def restate (plans : List AccountPlan) : RemoteProg Unit := do
  fold plans () fun _ plan => precheck lrt inv plan
  fold plans () fun _ plan => execute lrt rt inv plan

/-- A run of the command on a table. -/
def invoke (plans : List AccountPlan) (sheet : Sheet) : Except NavRefusal Unit × Remote :=
  restate lrt rt inv plans (.start sheet inv.answers)

end

/-- The table after runs of the command. -/
def invokeAll (lrt : Ledger.Runtime) (rt : Runtime) (plans : List AccountPlan)
    (invs : List Invocation) (sheet : Sheet) : Sheet :=
  invs.foldl (fun sheet inv => (invoke lrt rt inv plans sheet).2.sheet) sheet

/-- `main` in the mode `prepare`, for accounts with distinct names: every plan, computed from one table
that is still the same afterwards. -/
def prepareAll (lrt : Ledger.Runtime) (rt : Runtime) (evidenceText : RestatementEvidence → String)
    (gate : String → CivilDate → Ledger.EffectService) (fx : FxManifest)
    (snapshots : String → CivilDate → List SnapshotRow) (sheet : Sheet)
    (sources : List (RepairContext × AuditBundle)) : Except NavRefusal (List AccountPlan) :=
  sources.mapM fun source =>
    prepare lrt rt evidenceText source.1 (gate source.1.account) source.2 fx
      (snapshots source.1.account) (sheet.accountRows source.1.account)

end PortfolioManagement.NavRepair
