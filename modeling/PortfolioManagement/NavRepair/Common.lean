import PortfolioManagement.Lib.Lists
import PortfolioManagement.Nav.RecordNav
import PortfolioManagement.Nav.Table

/-!
# Repairing NAV rows

`nav_history_repair.common`: the state of every field of a row as it is read, and the recomputation of
the derived fields of a row from its base facts, the other rows and a fresh cash-flow dataset.
-/

namespace PortfolioManagement.NavRepair

open Nav

/-! ## Fields -/

/-- `BASE_FIELDS`. -/
def baseFields : List NavColumn :=
  [.totalValue, .cashValue, .stockValue, .fundValue, .cnStockValue, .usStockValue, .hkStockValue]

/-- `MAINTENANCE_FIELDS`. -/
def maintenanceFields : List NavColumn :=
  [.stockWeight, .cashWeight, .shares, .nav, .cashFlow, .shareChange, .mtdNavChange, .ytdNavChange,
    .pnl, .mtdPnl, .ytdPnl, .details]

/-- Base facts are not maintained. -/
theorem notMem_maintenanceFields {field : NavColumn} (h : field ∈ baseFields) :
    field ∉ maintenanceFields := by
  revert field
  decide

/-- The name of a field. -/
def fieldName : NavColumn → String
  | .totalValue => "total_value"
  | .shares => "shares"
  | .nav => "nav"
  | .cashValue => "cash_value"
  | .stockValue => "stock_value"
  | .fundValue => "fund_value"
  | .cnStockValue => "cn_stock_value"
  | .usStockValue => "us_stock_value"
  | .hkStockValue => "hk_stock_value"
  | .stockWeight => "stock_weight"
  | .cashWeight => "cash_weight"
  | .cashFlow => "cash_flow"
  | .shareChange => "share_change"
  | .mtdNavChange => "mtd_nav_change"
  | .ytdNavChange => "ytd_nav_change"
  | .pnl => "pnl"
  | .mtdPnl => "mtd_pnl"
  | .ytdPnl => "ytd_pnl"
  | .details => "details"
  | .updatedAt => "updated_at"

/-! ## Details -/

/-- What a provenance keeps of a dataset. -/
structure DatasetProvenance where
  /-- `contract_version` -/
  contractVersion : String
  /-- `financial_fingerprint` -/
  financialFingerprint : Ledger.DatasetFingerprint
  /-- `full_fingerprint` -/
  fullFingerprint : Ledger.DatasetFingerprint
  /-- `window`: its first and its last day -/
  window : CivilDate × CivilDate
  /-- `fx_confirmation_fingerprint` -/
  fxConfirmationFingerprint : Ledger.FxFingerprint
  /-- `effect_store_revision` -/
  effectStoreRevision : Option String
  /-- `run_id` -/
  runId : String
  /-- `source_record_count` -/
  sourceRecordCount : Nat
  /-- `completed_record_count` -/
  completedRecordCount : Nat
deriving DecidableEq

/-- `dataset.details()` without the time of the read. -/
def datasetProvenance (ds : Ledger.CashFlowDatasetSnapshot) : DatasetProvenance where
  contractVersion := ds.contractVersion
  financialFingerprint := ds.financialFingerprint
  fullFingerprint := ds.fullFingerprint
  window := (ds.windowStart, ds.navDate)
  fxConfirmationFingerprint := ds.fxConfirmationFingerprint
  effectStoreRevision := ds.effectStoreRevision
  runId := ds.runId
  sourceRecordCount := ds.rawRows.length
  completedRecordCount := ds.completedRows.length

/-- `maintenance_provenance`. -/
structure MaintenanceProvenance where
  /-- the finality of the repair -/
  finality : FinalityPayload
  /-- `cash_flow_dataset` -/
  cashFlowDataset : DatasetProvenance
deriving DecidableEq

/-- The details of a row. -/
structure RowDetails where
  /-- what the calculation knows -/
  known : NavDetails
  /-- `maintenance_provenance` -/
  maintenanceProvenance : Option MaintenanceProvenance
  /-- the other items, as texts -/
  others : Items String String
deriving DecidableEq

/-- No details. -/
def RowDetails.empty : RowDetails where
  known :=
    { status := none
      monthlyCashFlow := none
      yearCashFlow := none
      cumulativeNavChange := none
      cumulativeAppreciation := none
      initialValue := none
      cumulativeCashFlow := none
      cagr := none
      cagrPct := none
      years := []
      finality := none
      cashFlowBasis := none }
  maintenanceProvenance := none
  others := []

/-- `maintenance_details`: the calculated evidence replaces the old one, an observed finality stays,
and the finality of the repair becomes the provenance. -/
def maintenanceDetails (existing : Option RowDetails) (calculated : NavDetails)
    (ds : Ledger.CashFlowDatasetSnapshot) : RowDetails :=
  let current := existing.getD .empty
  { known :=
      { status := current.known.status
        monthlyCashFlow := calculated.monthlyCashFlow
        yearCashFlow := calculated.yearCashFlow
        cumulativeNavChange := calculated.cumulativeNavChange
        cumulativeAppreciation := calculated.cumulativeAppreciation
        initialValue := calculated.initialValue
        cumulativeCashFlow := calculated.cumulativeCashFlow
        cagr := calculated.cagr
        cagrPct := calculated.cagrPct
        years := calculated.years.foldl (fun years item => Items.set item.1 item.2 years)
          current.known.years
        finality := current.known.finality.or calculated.finality
        cashFlowBasis := calculated.cashFlowBasis }
    maintenanceProvenance :=
      (calculated.finality.map fun finality => ⟨finality, datasetProvenance ds⟩).or
        current.maintenanceProvenance
    others := current.others }

/-! ## Field states -/

/-- The value of a field. -/
inductive FieldValue
  | number (x : ℚ)
  | details (d : RowDetails)
deriving DecidableEq

/-- The number of a value. -/
def FieldValue.number? : FieldValue → Option ℚ
  | .number x => some x
  | .details _ => none

/-- The details of a value. -/
def FieldValue.details? : FieldValue → Option RowDetails
  | .number _ => none
  | .details d => some d

/-- `FieldState`: a field that the row does not have, one without a value, or a value. -/
inductive FieldState
  | missing
  | null
  | value (v : FieldValue)
deriving DecidableEq

namespace FieldState

/-- Its value. -/
def value? : FieldState → Option FieldValue
  | value v => some v
  | _ => none

/-- `state`. -/
def name : FieldState → String
  | missing => "missing"
  | null => "null"
  | value _ => "value"

end FieldState

/-- `state_from_value`. -/
def stateFromValue (value : Option FieldValue) (preserveMissing : FieldState) : FieldState :=
  match value with
  | some v => .value v
  | none => if preserveMissing = .missing then .missing else .null

/-- `FreshNavRow`: a row as it is read. -/
structure FreshNavRow where
  /-- `record_id` -/
  recordId : Nat
  /-- `account` -/
  account : String
  /-- `date` -/
  date : CivilDate
  /-- `field_states` -/
  states : NavColumn → FieldState

namespace FreshNavRow

/-- The number of a field. -/
def number (row : FreshNavRow) (field : NavColumn) : Option ℚ :=
  (row.states field).value?.bind FieldValue.number?

/-- The details. -/
def details (row : FreshNavRow) : Option RowDetails :=
  (row.states .details).value?.bind FieldValue.details?

/-- `nav`: the row as a record, whose numbers have the precision of their fields. -/
def nav (row : FreshNavRow) : NAVHistory where
  recordId := some (toString row.recordId)
  date := row.date
  account := row.account
  totalValue := ((row.number .totalValue).map money).getD 0
  cashValue := (row.number .cashValue).map money
  stockValue := (row.number .stockValue).map money
  fundValue := (row.number .fundValue).map money
  cnStockValue := (row.number .cnStockValue).map money
  usStockValue := (row.number .usStockValue).map money
  hkStockValue := (row.number .hkStockValue).map money
  stockWeight := (row.number .stockWeight).map quantizeWeight
  cashWeight := (row.number .cashWeight).map quantizeWeight
  shares := (row.number .shares).map money
  nav := (row.number .nav).map quantizeNav
  cashFlow := (row.number .cashFlow).map money
  shareChange := (row.number .shareChange).map money
  mtdNavChange := (row.number .mtdNavChange).map quantizeNav
  ytdNavChange := (row.number .ytdNavChange).map quantizeNav
  pnl := (row.number .pnl).map money
  mtdPnl := (row.number .mtdPnl).map money
  ytdPnl := (row.number .ytdPnl).map money
  details := row.details.map (·.known)

@[simp] theorem nav_date (row : FreshNavRow) : row.nav.date = row.date := rfl
@[simp] theorem nav_account (row : FreshNavRow) : row.nav.account = row.account := rfl

end FreshNavRow

/-- `state_subset`. -/
def stateSubset (row : FreshNavRow) (fields : List NavColumn) : Items NavColumn FieldState :=
  fields.map fun field => (field, row.states field)

theorem lookup_stateSubset (row : FreshNavRow) {fields : List NavColumn} {field : NavColumn}
    (h : field ∈ fields) : (stateSubset row fields).lookup field = some (row.states field) := by
  unfold stateSubset
  induction fields with
  | nil => cases h
  | cons f rest ih =>
    rw [List.map_cons, List.lookup_cons]
    by_cases hf : field = f
    · rw [hf, beq_self_eq_true]
    · rw [beq_false_of_ne hf]
      exact ih ((List.mem_cons.mp h).resolve_left hf)

theorem lookup_stateSubset_of_notMem (row : FreshNavRow) {fields : List NavColumn}
    {field : NavColumn} (h : field ∉ fields) : (stateSubset row fields).lookup field = none := by
  unfold stateSubset
  induction fields with
  | nil => rfl
  | cons f rest ih =>
    have hne : field ≠ f := fun he => h (he ▸ List.mem_cons_self)
    rw [List.map_cons, List.lookup_cons, beq_false_of_ne hne]
    exact ih fun hmem => h (List.mem_cons_of_mem _ hmem)

/-- The number a record has in a field. -/
def recordNumber (r : NAVHistory) : NavColumn → Option ℚ
  | .totalValue => some r.totalValue.toDecimal
  | .shares => centsValue r.shares
  | .nav => microValue r.nav
  | .cashValue => centsValue r.cashValue
  | .stockValue => centsValue r.stockValue
  | .fundValue => centsValue r.fundValue
  | .cnStockValue => centsValue r.cnStockValue
  | .usStockValue => centsValue r.usStockValue
  | .hkStockValue => centsValue r.hkStockValue
  | .stockWeight => microValue r.stockWeight
  | .cashWeight => microValue r.cashWeight
  | .cashFlow => centsValue r.cashFlow
  | .shareChange => centsValue r.shareChange
  | .mtdNavChange => microValue r.mtdNavChange
  | .ytdNavChange => microValue r.ytdNavChange
  | .pnl => centsValue r.pnl
  | .mtdPnl => centsValue r.mtdPnl
  | .ytdPnl => centsValue r.ytdPnl
  | .details | .updatedAt => none

/-! ## Evidence -/

/-- An error of missing evidence. -/
def evidenceRequired (text : String) : Error := .value ("historical_evidence_required: " ++ text)

/-- `_finite_state_value`. -/
def finiteStateValue (row : FreshNavRow) (field : NavColumn) : Except Error ℚ :=
  match row.states field with
  | .value (.number x) => .ok x
  | .value (.details _) =>
    .error (evidenceRequired (row.date.isoformat ++ " field " ++ fieldName field ++ " is not finite"))
  | state =>
    .error (evidenceRequired (row.date.isoformat ++ " field " ++ fieldName field ++ " is " ++ state.name))

theorem finiteStateValue_ok {row : FreshNavRow} {field : NavColumn} {x : ℚ}
    (h : finiteStateValue row field = .ok x) : row.states field = .value (.number x) := by
  unfold finiteStateValue at h
  cases hstate : row.states field with
  | missing =>
    rw [hstate] at h
    cases h
  | null =>
    rw [hstate] at h
    cases h
  | value v =>
    rw [hstate] at h
    cases v with
    | number y =>
      cases h
      rfl
    | details d => cases h

/-- Every row passes a check. -/
def checkEach {α : Type} (check : α → Except Error Unit) : List α → Except Error Unit
  | [] => .ok ()
  | a :: rest => do
    check a
    checkEach check rest

/-- A target is the only row of its date and has its base facts. -/
def checkTarget (rows : List FreshNavRow) (account : String) (target : CivilDate) : Except Error Unit :=
  match rows.filter fun row => row.date = target with
  | [row] => do
    if row.account ≠ account then
      throw (evidenceRequired ("target identity mismatch: " ++ target.isoformat))
    checkEach (fun field => (finiteStateValue row field).map fun _ => ()) baseFields
  | others =>
    .error (evidenceRequired ("every target date must resolve to exactly one record: " ++
      target.isoformat ++ " count=" ++ toString others.length))

/-- A row before the last target can be a base of it. -/
def checkDependency (row : FreshNavRow) : Except Error Unit := do
  let _ ← finiteStateValue row .totalValue
  let shares ← finiteStateValue row .shares
  let nav ← finiteStateValue row .nav
  if nav ≤ 0 ∨ shares < 0 then
    throw (evidenceRequired ("invalid NAV dependency values: date=" ++ row.date.isoformat))

/-- The rows before the last target that are no targets. -/
def dependencyRows (rows : List FreshNavRow) (targets : List CivilDate) : List FreshNavRow :=
  rows.filter fun row => row.date ∉ targets ∧ ∃ target ∈ targets, row.date < target

/-- `assert_maintenance_history_evidence`. -/
def assertMaintenanceHistoryEvidence (rows : List FreshNavRow) (account : String)
    (targets : List CivilDate) : Except Error Unit := do
  if targets = [] then throw (evidenceRequired "no target dates")
  if ¬ (rows.map (·.date)).Nodup then
    throw (evidenceRequired "duplicate NAV dependency dates")
  checkEach (checkTarget rows account) targets
  checkEach checkDependency (dependencyRows rows targets)

/-- `valuation_from_observed`. -/
def valuationFromObserved (row : FreshNavRow) : Except Error PortfolioValuation := do
  let total ← finiteStateValue row .totalValue
  let cash ← finiteStateValue row .cashValue
  let nonCash ← finiteStateValue row .stockValue
  let fund ← finiteStateValue row .fundValue
  let cn ← finiteStateValue row .cnStockValue
  let us ← finiteStateValue row .usStockValue
  let hk ← finiteStateValue row .hkStockValue
  if money total ≠ money (cash + nonCash) then
    throw (evidenceRequired "observed total/cash/noncash decomposition is inconsistent")
  pure
    { totalValueCny := total
      cashValueCny := cash
      stockValueCny := nonCash - fund
      fundValueCny := fund
      cnAssetValue := cn
      usAssetValue := us
      hkAssetValue := hk }

/-! ## Recomputation -/

/-- What a repair of an account works with. -/
structure RepairContext where
  /-- `account` -/
  account : String
  /-- the configuration -/
  config : NavConfig
  /-- the cash-flow rows of the account -/
  ledger : List Ledger.RawCashFlowRecord
  /-- the manual FX confirmations -/
  confirmations : String → Option Ledger.FxConfirmation

/-- The latest row before a date: `max(…, key=date)` takes the first of several. -/
def lastNavBefore (navs : List NAVHistory) (d : CivilDate) : Option NAVHistory :=
  (navs.filter fun nav => nav.date < d).foldl
    (fun best nav => some (best.elim nav fun b => if b.date < nav.date then nav else b)) none

section
variable (lrt : Ledger.Runtime) (rt : Runtime)

/-- A repair has no time of its valuation. -/
theorem readableAsOf_none : readableAsOf rt none = true := rfl

/-- A run id that is given is not blank. -/
theorem strip_of_mem_some {runId : String} (h : strip runId ≠ "") : ∀ id ∈ some runId, strip id ≠ "" := by
  intro id hid
  rw [← Option.mem_some_iff.mp hid]
  exact h

/-- The write context of a repair. -/
def maintenanceContext (navDate : CivilDate) (runId : String) : Except Error (NavWriteContext rt) :=
  if h : strip runId = "" then .error (.value "NAV finality run_id must not be blank")
  else
    .ok
      { status := .maintenance
        writer := .navRepair
        writeReason := "nav_history_derived_repair"
        navDate := navDate
        valuationAsOf := none
        runId := some runId
        allowed := List.mem_cons_of_mem _ List.mem_cons_self
        reason := by decide +kernel
        asOf := readableAsOf_none rt
        run := strip_of_mem_some h }

variable (context : RepairContext)

/-- `record_nav` of a repair, which does not write and is given the history. -/
def recordRepairedNav (valuation : PortfolioValuation) (navDate : CivilDate) (runId : String)
    (navs : List NAVHistory) (ds : Ledger.CashFlowDatasetSnapshot) : Except NavRefusal NAVHistory := do
  let writeContext ← (maintenanceContext rt navDate runId).mapError .failed
  let writeContext ← officialScope lrt context.config context.account runId navDate writeContext ds
  if ¬ ∀ nav ∈ navs, nav.account = context.account then
    throw (.failed (.value "NAV history snapshot account mismatch"))
  if ¬ (navs.map (·.date)).Nodup then
    throw (.failed (.value "NAV history snapshot contains duplicate dates"))
  (checkedRecord rt context.config context.account valuation navDate writeContext navs ds).mapError
    .failed

/-- The states of the maintenance fields of a row that is given the calculated numbers and
details. -/
def targetStates (observed : FreshNavRow) (calculated : NAVHistory) (details : RowDetails)
    (field : NavColumn) : FieldState :=
  if field = .details then stateFromValue (some (.details details)) (observed.states field)
  else stateFromValue ((recordNumber calculated field).map .number) (observed.states field)

/-- The row with its maintenance fields replaced. -/
def candidateRow (observed : FreshNavRow) (calculated : NAVHistory)
    (ds : Ledger.CashFlowDatasetSnapshot) : FreshNavRow :=
  { observed with
    states := fun field =>
      if field ∈ maintenanceFields then
        targetStates observed calculated
          (maintenanceDetails observed.details (calculated.details.getD RowDetails.empty.known) ds) field
      else observed.states field }

theorem candidateRow_states_of_notMem {observed : FreshNavRow} {calculated : NAVHistory}
    {ds : Ledger.CashFlowDatasetSnapshot} {field : NavColumn} (h : field ∉ maintenanceFields) :
    (candidateRow observed calculated ds).states field = observed.states field := if_neg h

/-- The calculation reproduces a base fact that was observed. -/
def reproducesBase (observed : FreshNavRow) (calculated : NAVHistory) (field : NavColumn) : Bool :=
  (observed.states field).value?.isNone ||
    moneyEqual (recordNumber calculated field) (observed.number field)

/-- The inputs of the check of a recomputed row. -/
def repairInputs (navs : List NAVHistory) (d : CivilDate) (ds : Ledger.CashFlowDatasetSnapshot) :
    PeriodInputs :=
  let lastNav := lastNavBefore navs d
  { periodInputs context.config navs d (ds.summary (lastNav.map (·.date))) with lastNav := lastNav }

/-- `recompute_derived_row`; `gate` is the effect gate as this call finds it. -/
def recomputeDerivedRow (gate : Ledger.EffectService) (observed : FreshNavRow)
    (workingNavs : List NAVHistory) (runId : String) :
    Except NavRefusal (FreshNavRow × Ledger.CashFlowDatasetSnapshot) := do
  let ds ← (Ledger.buildDataset lrt context.ledger context.confirmations
    ⟨context.account, observed.date, runId, context.config.startYear⟩ gate).mapError .failed
  let valuation ← (valuationFromObserved observed).mapError .failed
  let calculated ← recordRepairedNav lrt rt context valuation observed.date runId workingNavs ds
  let candidate := candidateRow observed calculated ds
  match baseFields.find? fun field => ¬ reproducesBase observed calculated field with
  | some field =>
    throw (.failed (evidenceRequired ("canonical projection changed base field " ++ fieldName field)))
  | none => pure ()
  (assertNavInvariants rt candidate.nav (repairInputs context workingNavs observed.date ds)
    (some (datasetDetails ds)) (some true)).mapError .failed
  pure (candidate, ds)

variable {lrt rt context} {gate : Ledger.EffectService} {observed candidate : FreshNavRow}
  {workingNavs : List NAVHistory} {runId : String} {ds : Ledger.CashFlowDatasetSnapshot}

/-- A recomputation that returns. -/
structure RecomputedRow (lrt : Ledger.Runtime) (rt : Runtime) (context : RepairContext)
    (gate : Ledger.EffectService) (observed : FreshNavRow) (workingNavs : List NAVHistory)
    (runId : String) (candidate : FreshNavRow) (ds : Ledger.CashFlowDatasetSnapshot)
    (valuation : PortfolioValuation) (calculated : NAVHistory) : Prop where
  /-- the cash flows -/
  dataset : Ledger.buildDataset lrt context.ledger context.confirmations
    ⟨context.account, observed.date, runId, context.config.startYear⟩ gate = .ok ds
  /-- the base facts -/
  projected : valuationFromObserved observed = .ok valuation
  /-- the calculation -/
  recorded : recordRepairedNav lrt rt context valuation observed.date runId workingNavs ds =
    .ok calculated
  /-- the row -/
  row : candidate = candidateRow observed calculated ds
  /-- it reproduces the base facts -/
  base : ∀ field ∈ baseFields, reproducesBase observed calculated field = true
  /-- and it passes its check -/
  invariants : assertNavInvariants rt candidate.nav
    (repairInputs context workingNavs observed.date ds) (some (datasetDetails ds)) (some true) = .ok ()

theorem recomputeDerivedRow_ok
    (h : recomputeDerivedRow lrt rt context gate observed workingNavs runId = .ok (candidate, ds)) :
    ∃ valuation calculated, RecomputedRow lrt rt context gate observed workingNavs runId candidate ds
      valuation calculated := by
  unfold recomputeDerivedRow at h
  obtain ⟨ds', hds, h⟩ := except_bind_ok h
  obtain ⟨valuation, hvaluation, h⟩ := except_bind_ok h
  obtain ⟨calculated, hcalculated, h⟩ := except_bind_ok h
  cases hbase : baseFields.find? fun field => ¬ reproducesBase observed calculated field with
  | some field =>
    rw [hbase] at h
    cases h
  | none =>
    rw [hbase] at h
    obtain ⟨u, hinvariants, h⟩ := except_bind_ok h
    obtain ⟨rfl, rfl⟩ := Prod.mk.inj (Except.ok.inj h)
    have hreproduced : ∀ field ∈ baseFields, reproducesBase observed calculated field = true := by
      intro field hfield
      have hnone := List.find?_eq_none.mp hbase field hfield
      simpa using hnone
    have hcheck := mapError_ok hinvariants
    exact ⟨valuation, calculated,
      { dataset := mapError_ok hds
        projected := mapError_ok hvaluation
        recorded := hcalculated
        row := rfl
        base := hreproduced
        invariants := hcheck }⟩

end

/-- The rows with one of them replaced. -/
def replaceNav (candidate : NAVHistory) (navs : List NAVHistory) : List NAVHistory :=
  navs.map fun nav => if nav.recordId = candidate.recordId then candidate else nav

/-! ## Changes -/

/-- `maintenance_target_states`. -/
def maintenanceTargetStates (candidate : FreshNavRow) : Items NavColumn FieldState :=
  stateSubset candidate maintenanceFields

/-- `changed_states`: the states before and after of the fields that change. -/
def changedStates (observed candidate : FreshNavRow) :
    Items NavColumn FieldState × Items NavColumn FieldState :=
  let changed := maintenanceFields.filter fun field => observed.states field ≠ candidate.states field
  (stateSubset observed changed, stateSubset candidate changed)

end PortfolioManagement.NavRepair
