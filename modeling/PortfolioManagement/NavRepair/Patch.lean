import PortfolioManagement.Lib.Digest
import PortfolioManagement.NavRepair.Common

/-!
# Planning a patch

`patch`: the derived fields of the requested rows are recomputed one after the other, each among the rows
as the patches before it leave them. The plan records for every row its base facts, its maintenance
fields before and after, and, as evidence, the other rows before the last target. Rows that are no
targets are validated against the patched series.
-/

namespace PortfolioManagement.NavRepair

open Nav

/-! ## Requests -/

/-- `PATCH_FIELDS`. -/
def patchFields : List NavColumn :=
  [.cashFlow, .shareChange, .shares, .nav, .pnl, .mtdNavChange, .ytdNavChange, .mtdPnl, .ytdPnl]

/-- `VALIDATION_FIELDS`. -/
def validationFields : List NavColumn := maintenanceFields.filter fun field => field ≠ .details

/-- `PatchRow`: the numbers the file gives for a row. -/
structure PatchRow where
  /-- `d` -/
  d : CivilDate
  /-- the provided fields with their values -/
  requested : Items NavColumn (Option ℚ)
  /-- `gap_cash_flow`, if it is provided -/
  gapCashFlow : Option (Option ℚ)

/-- Why no plan was made: `SystemExit`. -/
inductive PatchExit
  /-- a text -/
  | text (message : String)
  /-- dates that do not resolve to one row, with their numbers of rows -/
  | unresolved (dates : List (CivilDate × Nat))
  /-- a recomputation that was refused -/
  | refused (day : CivilDate) (refusal : NavRefusal)
  /-- requested numbers that the calculation does not give -/
  | requested (fields : List String)

/-- `load_patch_rows` of the rows of a file. -/
def loadPatchRows (rows : List PatchRow) : Except Error (List PatchRow) :=
  if rows = [] then .error (.value "patch-file contains no rows")
  else if ¬ (rows.map (·.d)).Nodup then .error (.value "patch-file contains duplicate dates")
  else .ok (rows.insertionSort fun a b => a.d ≤ b.d)

/-! ## Plans -/

/-- A row of a plan. -/
structure PatchTarget where
  /-- `date` -/
  date : CivilDate
  /-- `record_id` -/
  recordId : Nat
  /-- `base_fields` -/
  baseFields : Items NavColumn FieldState
  /-- `original_fields` -/
  originalFields : Items NavColumn FieldState
  /-- `target_fields` -/
  targetFields : Items NavColumn FieldState
  /-- `original_maintenance_fields` -/
  originalMaintenanceFields : Items NavColumn FieldState
  /-- `desired_maintenance_fields` -/
  desiredMaintenanceFields : Items NavColumn FieldState
deriving DecidableEq

/-- A row of `dependency_rows`. -/
structure DependencyRow where
  /-- `date` -/
  date : CivilDate
  /-- `record_id` -/
  recordId : Nat
  /-- `account` -/
  account : String
  /-- `fields` -/
  fields : Items NavColumn FieldState
deriving DecidableEq

/-- `maintenance_dependency_evidence`. -/
def maintenanceDependencyEvidence (rows : List FreshNavRow) (targets : List CivilDate) :
    List DependencyRow :=
  sortBy (·.date) ((dependencyRows rows targets).map fun row =>
    ⟨row.date, row.recordId, row.account, stateSubset row [.totalValue, .shares, .nav]⟩)

/-- A row of the facts a plan digest covers. -/
structure DigestRow where
  /-- `date` -/
  date : CivilDate
  /-- `record_id` -/
  recordId : Nat
  /-- `base_fields` -/
  baseFields : Items NavColumn FieldState
  /-- `target_fields` -/
  targetFields : Items NavColumn FieldState
deriving DecidableEq

/-- The facts a plan digest covers; there is one mode. -/
structure PlanFacts where
  /-- `account` -/
  account : String
  /-- `rows` -/
  rows : List DigestRow
  /-- `dependency_rows` -/
  dependencyRows : List DependencyRow
deriving DecidableEq

/-- The covered facts of a row of a plan. -/
def PatchTarget.digestRow (target : PatchTarget) : DigestRow :=
  ⟨target.date, target.recordId, target.baseFields, target.desiredMaintenanceFields⟩

/-- `canonical_plan_digest`. -/
def canonicalPlanDigest (account : String) (rows : List PatchTarget)
    (dependencyRows : List DependencyRow) : Digest PlanFacts :=
  .of ⟨account, rows.map PatchTarget.digestRow, dependencyRows⟩

/-- A plan: the result of `_resolve_patch_targets`. -/
structure PatchPlan where
  /-- `account` -/
  account : String
  /-- `rows` -/
  rows : List PatchTarget
  /-- `dependency_rows` -/
  dependencyRows : List DependencyRow
  /-- `plan_digest` -/
  planDigest : Digest PlanFacts
deriving DecidableEq

/-! ## Resolving the targets -/

/-- The fields whose requested number is not the calculated one. -/
def requestedErrors (patch : PatchRow) (candidate : NAVHistory) : List String :=
  (patchFields.filterMap fun field =>
    match patch.requested.lookup field with
    | none => none
    | some expected =>
      let actual := recordNumber candidate field
      if field ∈ [.nav, .mtdNavChange, .ytdNavChange] then
        if navEqual actual expected then none else some (fieldName field)
      else if moneyEqual actual expected then none else some (fieldName field)) ++
    match patch.gapCashFlow with
    | none => []
    | some expected =>
      if moneyEqual ((basisOf candidate).map fun basis => basis.gapCashFlow.toDecimal) expected then []
      else ["gap_cash_flow"]

/-- The row of a plan for a row that is read and its recomputation. -/
def planRow (observed candidate : FreshNavRow) : PatchTarget where
  date := observed.date
  recordId := observed.recordId
  baseFields := stateSubset observed baseFields
  originalFields := (changedStates observed candidate).1
  targetFields := (changedStates observed candidate).2
  originalMaintenanceFields := stateSubset observed maintenanceFields
  desiredMaintenanceFields := maintenanceTargetStates candidate

/-- The run id of a repair. -/
def repairRunId (account : String) (day : CivilDate) : String :=
  "nav-repair:" ++ account ++ ":" ++ day.isoformat

section
variable (lrt : Ledger.Runtime) (rt : Runtime) (context : RepairContext)
  (gate : CivilDate → Ledger.EffectService)

/-- The turn of a patch: its row of the plan and the recomputed row. -/
def resolveTarget (fresh : List FreshNavRow) (patch : PatchRow) (working : List NAVHistory) :
    Except PatchExit (PatchTarget × FreshNavRow) :=
  match fresh.find? fun row => row.date = patch.d with
  | none => .error (.unresolved [(patch.d, 0)])
  | some observed => do
    let (candidate, _) ← (recomputeDerivedRow lrt rt context (gate patch.d) observed working
      (repairRunId context.account patch.d)).mapError (PatchExit.refused patch.d)
    if requestedErrors patch candidate.nav ≠ [] then
      throw (.requested (requestedErrors patch candidate.nav))
    if ∃ field ∈ baseFields, recordNumber observed.nav field ≠ recordNumber candidate.nav field then
      throw (.text ("safety abort: non-target field changed: " ++ patch.d.isoformat))
    pure (planRow observed candidate, candidate)

/-- The turns of the patches: the rows of the plan, and the series they leave. -/
def resolveTargets (fresh : List FreshNavRow) :
    List PatchRow → List NAVHistory → Except PatchExit (List PatchTarget × List NAVHistory)
  | [], working => .ok ([], working)
  | patch :: rest, working => do
    let (target, candidate) ← resolveTarget lrt rt context gate fresh patch working
    let (targets, series) ← resolveTargets fresh rest (replaceNav candidate.nav working)
    pure (target :: targets, series)

/-- The dates that do not resolve to one row. -/
def unresolvedDates (fresh : List FreshNavRow) (patches : List PatchRow) : List (CivilDate × Nat) :=
  patches.filterMap fun patch =>
    let found := (fresh.filter fun row => row.date = patch.d).length
    if found = 1 then none else some (patch.d, found)

/-- `_resolve_patch_targets`. -/
def resolvePatchTargets (fresh : List FreshNavRow) (patches : List PatchRow) :
    Except PatchExit (PatchPlan × List NAVHistory) := do
  if unresolvedDates fresh patches ≠ [] then throw (.unresolved (unresolvedDates fresh patches))
  (assertMaintenanceHistoryEvidence fresh context.account (patches.map (·.d))).mapError
    fun exc => PatchExit.text exc.message
  let (rows, series) ← resolveTargets lrt rt context gate fresh patches (fresh.map (·.nav))
  let dependencies := maintenanceDependencyEvidence fresh (patches.map (·.d))
  pure (⟨context.account, rows, dependencies, canonicalPlanDigest context.account rows dependencies⟩,
    series)

/-! ## Validation -/

/-- `validate_scope`. -/
inductive ValidateScope
  | changed
  | patched
  | all
deriving DecidableEq

/-- The first date after one. -/
def successorDate (dates : List CivilDate) (d : CivilDate) : Option CivilDate :=
  (dates.insertionSort (· ≤ ·)).find? fun e => d < e

/-- The dates of the rows that change. -/
def changedDates (rows : List PatchTarget) : List CivilDate :=
  (rows.filter fun row => row.originalFields ≠ row.targetFields).map (·.date)

/-- `_validation_dates`. -/
def validationDates (series : List NAVHistory) (rows : List PatchTarget) (scope : ValidateScope) :
    List CivilDate :=
  match scope with
  | .all => series.map (·.date)
  | .patched => rows.map (·.date)
  | .changed =>
    changedDates rows ++ (changedDates rows).filterMap (successorDate (series.map (·.date)))

/-- A violation of the validation. -/
inductive Violation
  | targetNotUnique (day : CivilDate) (recordIds : List Nat)
  | unavailable (day : CivilDate) (recordId : Nat) (detail : NavRefusal)
  | derivedMismatch (day : CivilDate) (recordId : Nat) (fields : List NavColumn)

/-- The run id of a validation. -/
def validationRunId (account : String) (day : CivilDate) : String :=
  "nav-repair-validation:" ++ account ++ ":" ++ day.isoformat

/-- The validation of a date. -/
def validateDate (fresh : List FreshNavRow) (series : List NAVHistory) (day : CivilDate) :
    Option Violation :=
  match fresh.filter fun row => row.date = day with
  | [observed] =>
    match recomputeDerivedRow lrt rt context (gate day) observed series
        (validationRunId context.account day) with
    | .error refusal => some (.unavailable day observed.recordId refusal)
    | .ok (candidate, _) =>
      let mismatches := validationFields.filter fun field =>
        observed.states field ≠ candidate.states field
      if mismatches = [] then none else some (.derivedMismatch day observed.recordId mismatches)
  | others => some (.targetNotUnique day (others.map (·.recordId)))

/-- `_canonical_validation_violations`. -/
def canonicalValidationViolations (fresh : List FreshNavRow) (series : List NAVHistory)
    (rows : List PatchTarget) (dates : List CivilDate) : List Violation :=
  ((dates.filter fun day => day ∉ rows.map (·.date)).insertionSort (· ≤ ·)).dedup.filterMap
    (validateDate lrt rt context gate fresh series)

end

/-! ## The patched rows -/

/-- The row as the plan wants it. -/
def PatchTarget.desired (target : PatchTarget) (row : FreshNavRow) : FreshNavRow :=
  { row with
    states := fun field => (target.desiredMaintenanceFields.lookup field).getD (row.states field) }

/-- The row of a plan for a record id. -/
def targetOf (rows : List PatchTarget) (recordId : Nat) : Option PatchTarget :=
  rows.find? fun target => target.recordId = recordId

/-- A row once the plan is applied. -/
def appliedRow (rows : List PatchTarget) (row : FreshNavRow) : FreshNavRow :=
  (targetOf rows row.recordId).elim row fun target => target.desired row

end PortfolioManagement.NavRepair
