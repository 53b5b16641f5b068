import PortfolioManagement.Lib.Json
import PortfolioManagement.NavRepair.Patch
import PortfolioManagement.NavRepair.Remote

/-!
# The journal of a patch

The plan is the first line of an append-only file; every later line says what happened to a row or to
the whole. Applying and rolling back read the journal, check every row as it is now against the plan,
patch one row after the other and read it back. Third parties may change the table before any step, and
any step may fail or end the process.
-/

namespace PortfolioManagement.NavRepair

open Nav

/-! ## Events -/

/-- The states of a journal. -/
inductive JournalState
  | planned
  | applying
  | applyPartial
  | completed
  | rollingBack
  | rollbackPartial
  | rolledBack
deriving DecidableEq

/-- The text of a state. -/
def JournalState.name : JournalState → String
  | .planned => "PLANNED"
  | .applying => "APPLYING"
  | .applyPartial => "PARTIAL"
  | .completed => "COMPLETED"
  | .rollingBack => "ROLLING_BACK"
  | .rollbackPartial => "ROLLBACK_PARTIAL"
  | .rolledBack => "ROLLED_BACK"

/-- The states in which a journal is not applied. -/
def JournalState.rollsBack (s : JournalState) : Prop :=
  s ∈ [.rollingBack, .rollbackPartial, .rolledBack]

instance (s : JournalState) : Decidable s.rollsBack := inferInstanceAs (Decidable (s ∈ _))

/-- The status of a row. -/
inductive RowStatus
  | pending
  | applied
  | failed
  | rolledBack
  | rollbackFailed
deriving DecidableEq

/-- A line of the journal. -/
inductive JournalEvent
  /-- the plan -/
  | planned (plan : PatchPlan)
  /-- `STATE` -/
  | state (s : JournalState)
  /-- `ROW` -/
  | row (recordId : Nat) (status : RowStatus) (writeAttempted : Option Bool)
deriving DecidableEq

/-- What follows the last line end of the file. -/
inductive Tail
  | empty
  /-- a part of a line -/
  | torn
  /-- a line without its end -/
  | unended (event : JournalEvent)

/-- The file. -/
structure JournalFile where
  /-- the ended lines -/
  events : List JournalEvent
  /-- what follows them -/
  tail : Tail

/-- How far an append gets. -/
inductive Extent
  | nothing
  /-- the old tail is cut off -/
  | truncated
  | torn
  | unended
  | whole
deriving DecidableEq

namespace JournalFile

/-- The lines that a reader finds. -/
def lines (file : JournalFile) : List JournalEvent :=
  match file.tail with
  | .unended event => file.events ++ [event]
  | .empty | .torn => file.events

/-- `_append_journal`, as far as it gets. -/
def append (file : JournalFile) (event : JournalEvent) : Extent → JournalFile
  | .nothing => file
  | .truncated => ⟨file.events, .empty⟩
  | .torn => ⟨file.events, .torn⟩
  | .unended => ⟨file.events, .unended event⟩
  | .whole => ⟨file.events ++ [event], .empty⟩

end JournalFile

/-! ## Reading -/

/-- A row of a journal that is read. -/
structure JournalRow where
  /-- the row of the plan -/
  target : PatchTarget
  /-- `status` -/
  status : RowStatus
  /-- `write_attempted` -/
  writeAttempted : Bool

/-- What `_read_journal` returns. -/
structure JournalView where
  /-- the plan -/
  plan : PatchPlan
  /-- `state` -/
  state : JournalState
  /-- `rows` -/
  rows : List JournalRow

/-- Two lists of fields name the same fields. -/
def sameFields (a b : List NavColumn) : Bool := decide (a ⊆ b ∧ b ⊆ a)

/-- The checks of a row of the plan. -/
def checkTargetStates (target : PatchTarget) : Except PatchExit Unit := do
  if ¬ sameFields (target.baseFields.map (·.1)) baseFields then
    throw (.text "invalid nav repair journal: base field evidence is incomplete")
  if ¬ (sameFields (target.originalMaintenanceFields.map (·.1)) maintenanceFields ∧
      sameFields (target.desiredMaintenanceFields.map (·.1)) maintenanceFields) then
    throw (.text "invalid nav repair journal: complete maintenance states are required")
  if ¬ (sameFields (target.originalFields.map (·.1)) (target.targetFields.map (·.1)) ∧
      target.originalFields.map (·.1) ⊆ maintenanceFields) then
    throw (.text "invalid nav repair journal: changed maintenance fields are inconsistent")
  if ∃ field ∈ maintenanceFields,
      if field ∈ target.originalFields.map (·.1) then
        target.originalFields.lookup field ≠ target.originalMaintenanceFields.lookup field ∨
          target.targetFields.lookup field ≠ target.desiredMaintenanceFields.lookup field ∨
          target.originalMaintenanceFields.lookup field = target.desiredMaintenanceFields.lookup field
      else target.originalMaintenanceFields.lookup field ≠
        target.desiredMaintenanceFields.lookup field then
    throw (.text "invalid nav repair journal: changed and complete states disagree")

/-- The fields of a dependency row. -/
def dependencyFields : List NavColumn := [.totalValue, .shares, .nav]

/-- The checks of the plan of a journal. -/
def checkJournalPlan (plan : PatchPlan) : Except PatchExit Unit := do
  if plan.rows = [] then throw (.text "invalid nav repair journal")
  if ¬ ((plan.rows.map (·.recordId)).Nodup ∧ (plan.rows.map (·.date)).Nodup) then
    throw (.text "invalid nav repair journal row identity")
  plan.rows.forM checkTargetStates
  if ∃ row ∈ plan.dependencyRows, ¬ sameFields (row.fields.map (·.1)) dependencyFields then
    throw (.text "invalid nav repair journal: dependency row evidence is incomplete")
  if ¬ ((plan.dependencyRows.map (·.recordId)).Nodup ∧ (plan.dependencyRows.map (·.date)).Nodup ∧
      ∀ row ∈ plan.dependencyRows, row.account = plan.account) then
    throw (.text "invalid nav repair journal: dependency identity is inconsistent")
  if plan.planDigest ≠ canonicalPlanDigest plan.account plan.rows plan.dependencyRows then
    throw (.text "invalid nav repair journal: plan digest mismatch")

/-- The plan before anything happened to it. -/
def JournalView.start (plan : PatchPlan) : JournalView :=
  ⟨plan, .planned, plan.rows.map fun target => ⟨target, .pending, false⟩⟩

/-- What a line says. -/
def JournalView.step (view : JournalView) : JournalEvent → Except PatchExit JournalView
  | .planned _ => .ok { view with state := .planned }
  | .state s => .ok { view with state := s }
  | .row recordId status writeAttempted =>
    if recordId ∈ view.rows.map (·.target.recordId) then
      .ok
        { view with
          rows := view.rows.map fun row =>
            if row.target.recordId = recordId then
              { row with status := status, writeAttempted := writeAttempted.getD row.writeAttempted }
            else row }
    else .error (.text ("journal row event references unknown record_id: " ++ toString recordId))

/-- `_read_journal` of the lines of a file. -/
def readLines : List JournalEvent → Except PatchExit JournalView
  | .planned plan :: events => do
    checkJournalPlan plan
    events.foldlM JournalView.step (.start plan)
  | _ => .error (.text "invalid nav repair journal")

/-! ## The world of a command -/

/-- How a step ends: a request that gets to the whole is carried out, and so is an append as far as it
gets. -/
inductive StepEnd
  | done
  /-- with an exception -/
  | raised (extent : Extent)
  /-- with the process -/
  | ended (extent : Extent)

/-- A step of a command: what third parties do to the table before it, and how it ends. -/
structure Turn where
  /-- the edit -/
  edit : Sheet → Sheet
  /-- the end -/
  ending : StepEnd

/-- What is told of the runs of the commands: the patches that were issued, with the table as it was last
read, and the completions, with the tables that were read until then. -/
inductive LogEntry
  | issued (rollback : Bool) (read : Sheet) (request : PatchRequest)
  | completed (reads : List Sheet)

/-- The table, the journal and the steps to come; further steps are done. -/
structure PatchWorld where
  /-- the table -/
  sheet : Sheet
  /-- the journal -/
  file : JournalFile
  /-- the steps -/
  turns : List Turn
  /-- the tables that were read, the last one first -/
  reads : List Sheet
  /-- what happened -/
  log : List LogEntry

/-- Why a command stops. -/
inductive PatchStop
  /-- an exception -/
  | raised (refusal : NavRefusal)
  /-- `SystemExit` -/
  | exits (exit : PatchExit)
  /-- the process ends -/
  | ended

/-- Programs of the commands. -/
abbrev PatchProg := Prog PatchWorld PatchStop

open Prog (ret raise reads alter lift require rescue)

/-- An exception with a text. -/
def failure (text : String) : PatchStop := .raised (.failed (.runtime text))

/-- `except Exception`: neither `SystemExit` nor the end of the process is caught. -/
def attempt {α : Type} (m : PatchProg α) : PatchProg (Except NavRefusal α) :=
  rescue (do pure (.ok (← m))) fun stop =>
    match stop with
    | .raised refusal => ret (.error refusal)
    | stop => raise stop

/-- The next step begins. -/
def nextTurn : PatchProg StepEnd := fun w =>
  match w.turns with
  | [] => (.ok .done, w)
  | turn :: rest => (.ok turn.ending, { w with sheet := turn.edit w.sheet, turns := rest })

/-- `read_fresh_nav_rows`. -/
def readRows (account : String) : PatchProg (List FreshNavRow) := do
  match ← nextTurn with
  | .done =>
    alter fun w => { w with reads := w.sheet :: w.reads }
    reads fun w => w.sheet.accountRows account
  | .raised _ => raise (.raised clientError)
  | .ended _ => raise .ended

/-- The file and the log when an append got somewhere. -/
def PatchWorld.append (w : PatchWorld) (event : JournalEvent) (extent : Extent) : PatchWorld :=
  { w with
    file := w.file.append event extent
    log :=
      if event = .state .completed ∧ extent ∈ [.unended, .whole] then w.log ++ [.completed w.reads]
      else w.log }

/-- `_append_journal`. -/
def appendJournal (event : JournalEvent) : PatchProg Unit := do
  match ← nextTurn with
  | .done => alter fun w => w.append event .whole
  | .raised extent =>
    alter fun w => w.append event extent
    raise (failure "journal write failed")
  | .ended extent =>
    alter fun w => w.append event extent
    raise .ended

/-- `_read_journal`. -/
def readJournal : PatchProg JournalView := do
  lift ((readLines (← reads fun w => w.file.lines)).mapError .exits)

/-! ## Patching a row -/

/-- The text of a version or of a status in the details. -/
def versionText : Json → String
  | .string s => Ledger.casefold (strip (String.ofList (s.map Char.ofNat)))
  | .number literal => String.ofList (literal.map Char.ofNat)
  | _ => ""

/-- The details claim a complete snapshot of the second version. -/
def claimsSnapshot (details : RowDetails) : Bool :=
  let item (key : String) : Option Json := (details.others.lookup key).bind fun text => loads (codes text)
  let evidence := item "snapshot_evidence"
  let member (key : String) : String :=
    match evidence with
    | some (.object members) => ((getItem (codes key) members).map versionText).getD ""
    | _ => ""
  ((item "evidence_version").map versionText).getD "" ∈ ["2", "v2"] ||
    (member "version" ∈ ["2", "v2"] && member "status" = "complete")

/-- The details that are to be written. -/
def writtenDetails (states : Items NavColumn FieldState) : Option RowDetails :=
  ((states.lookup .details).bind FieldState.value?).bind FieldValue.details?

/-- A patch is issued; the table was last read as `read`. -/
def PatchWorld.issue (w : PatchWorld) (rollback : Bool) (recordId : Nat)
    (fields : Items NavColumn FieldValue) : PatchWorld :=
  { w with
    log := w.log ++ [.issued rollback (w.reads.headD w.sheet) ⟨w.sheet, recordId, fields⟩] }

/-- A patch is carried out. -/
def PatchWorld.carryOut (w : PatchWorld) (recordId : Nat) (fields : Items NavColumn FieldValue) :
    PatchWorld :=
  { w with sheet := w.sheet.write recordId fields }

/-- A patch as far as it gets. -/
def carryOutIf (extent : Extent) (recordId : Nat) (fields : Items NavColumn FieldValue) :
    PatchProg Unit :=
  Prog.onlyIf (extent = .whole) (alter fun w => w.carryOut recordId fields)

/-- `restricted_patch`: `patch_nav_maintenance_fields`. -/
def restrictedPatch (rollback : Bool) (recordId : Nat) (states : Items NavColumn FieldState) :
    PatchProg Unit := do
  require (states.map (·.1) ⊆ maintenanceFields)
    (.raised (.failed (.value "nav maintenance patch contains non-derived fields")))
  require (¬ ∃ details ∈ writtenDetails states, claimsSnapshot details)
    (.raised (.failed (.value "derived-only NAV maintenance cannot claim snapshot v2 complete")))
  let payload := patchPayload states
  require (payload ≠ [])
    (.raised (.failed (.value "table=nav_history operation=update: fields must not be empty")))
  let ending ← nextTurn
  alter fun w => w.issue rollback recordId payload
  match ending with
  | .done => alter fun w => w.carryOut recordId payload
  | .raised extent =>
    carryOutIf extent recordId payload
    raise (.raised clientError)
  | .ended extent =>
    carryOutIf extent recordId payload
    raise .ended

/-! ## The rows as they are now -/

/-- `_same_row_states`. -/
def SameRowStates (row : FreshNavRow) (fields : Items NavColumn FieldState) : Prop :=
  ∀ item ∈ fields, row.states item.1 = item.2

instance (row : FreshNavRow) (fields : Items NavColumn FieldState) :
    Decidable (SameRowStates row fields) := inferInstanceAs (Decidable (∀ item ∈ fields, _))

/-- `_current_rows` of the rows that were read. -/
def checkCurrent (plan : PatchPlan) (fresh : List FreshNavRow) :
    Except PatchStop (Items Nat FreshNavRow) := do
  let targets := plan.rows.map (·.date)
  (assertMaintenanceHistoryEvidence fresh plan.account targets).mapError fun exc =>
    failure ("journal dependency preflight failed: " ++ exc.message)
  if maintenanceDependencyEvidence fresh targets ≠ plan.dependencyRows then
    throw (failure "journal dependency preflight failed: NAV dependency evidence changed")
  plan.rows.mapM fun target =>
    match fresh.filter fun row => row.date = target.date with
    | [row] =>
      if row.recordId = target.recordId then .ok (target.recordId, row)
      else .error (failure "journal preflight failed")
    | _ => .error (failure "journal preflight failed")

/-- `_current_rows`. -/
def currentRows (plan : PatchPlan) : PatchProg (Items Nat FreshNavRow) := do
  lift (checkCurrent plan (← readRows plan.account))

/-- The current row of a record id. -/
def liveRow (current : Items Nat FreshNavRow) (recordId : Nat) : PatchProg FreshNavRow :=
  match current.lookup recordId with
  | some row => ret row
  | none => raise (failure "current row")

/-! ## Results -/

/-- The status of a result. -/
inductive PatchStatus
  | applyPartial
  | failed
  | completed
  | rolledBack
  | rollbackPartial
deriving DecidableEq

/-- A result: its status and the rows of the journal. -/
structure PatchResult where
  /-- `status` -/
  status : PatchStatus
  /-- the rows -/
  rows : List JournalRow

/-- `_apply_failure_status`. -/
def applyFailureStatus (rows : List JournalRow) : PatchStatus :=
  if ∃ row ∈ rows, row.status = .applied ∨ row.writeAttempted = true then .applyPartial else .failed

/-- The status of a row goes to the journal. -/
def appendRow (recordId : Nat) (status : RowStatus) : PatchProg Unit :=
  appendJournal (.row recordId status none)

/-- A failed application: the row and the state go to the journal. -/
def failApply (recordId : Nat) (writeAttempted : Option Bool) : PatchProg PatchResult := do
  appendJournal (.row recordId .failed writeAttempted)
  appendJournal (.state .applyPartial)
  let view ← readJournal
  pure ⟨applyFailureStatus view.rows, view.rows⟩

/-! ## Applying -/

/-- The check of every row before the first patch; the record id of a row that conflicts. -/
def preflight (current : Items Nat FreshNavRow) : List JournalRow → PatchProg (Option Nat)
  | [] => ret none
  | row :: rest => do
    let live ← liveRow current row.target.recordId
    if ¬ SameRowStates live row.target.baseFields then
      ret (some row.target.recordId)
    else if row.status = .applied then
      if SameRowStates live row.target.desiredMaintenanceFields then preflight current rest
      else ret (some row.target.recordId)
    else if SameRowStates live row.target.desiredMaintenanceFields then do
      appendRow row.target.recordId .applied
      preflight current rest
    else if SameRowStates live row.target.originalMaintenanceFields then preflight current rest
    else ret (some row.target.recordId)

/-- The check of a row before its patch; whether it has its desired states already. -/
def checkBeforeApply (current : Items Nat FreshNavRow) (target : PatchTarget) : PatchProg Bool := do
  let live ← liveRow current target.recordId
  require (SameRowStates live target.baseFields) (failure "immutable base fields changed before apply")
  if SameRowStates live target.desiredMaintenanceFields then do
    appendRow target.recordId .applied
    ret true
  else do
    require (SameRowStates live target.originalMaintenanceFields)
      (failure "current row matches neither complete original nor desired maintenance state before apply")
    ret false

/-- The patch of a row, in either direction, and its readback. -/
def patchTarget (plan : PatchPlan) (rollback : Bool) (target : PatchTarget) :
    PatchProg (Items Nat FreshNavRow) := do
  restrictedPatch rollback target.recordId
    (if rollback then target.originalFields else target.targetFields)
  let current ← currentRows plan
  let live ← liveRow current target.recordId
  require (SameRowStates live target.baseFields) (failure "immutable base fields changed")
  require (SameRowStates live (if rollback then target.originalMaintenanceFields
    else target.desiredMaintenanceFields)) (failure "fresh readback does not match")
  ret current

/-- The turn of a row: the rows that were read back after a patch, or whether a patch was attempted that
failed. -/
def applyTurn (plan : PatchPlan) (current : Items Nat FreshNavRow) (target : PatchTarget) :
    PatchProg (Except Bool (Option (Items Nat FreshNavRow))) := do
  match ← attempt (checkBeforeApply current target) with
  | .error _ => ret (.error false)
  | .ok true => ret (.ok none)
  | .ok false =>
    match ← attempt (patchTarget plan false target) with
    | .error _ => ret (.error true)
    | .ok current' => ret (.ok (some current'))

/-- The turns of the rows; the row at which they stop. -/
def applyRows (plan : PatchPlan) :
    List JournalRow → Items Nat FreshNavRow → PatchProg (Option (Nat × Bool))
  | [], _ => ret none
  | row :: rest, current =>
    if row.status = .applied then applyRows plan rest current
    else do
      match ← applyTurn plan current row.target with
      | .error attempted => ret (some (row.target.recordId, attempted))
      | .ok none => applyRows plan rest current
      | .ok (some current') => do
        appendRow row.target.recordId .applied
        applyRows plan rest current'

/-- The row that is blamed when the table cannot be read. -/
def blamedRow (view : JournalView) : Option Nat :=
  ((view.rows.find? fun row => row.status ≠ .applied).or view.rows.head?).map (·.target.recordId)

/-- `_apply_journal`. -/
def applyJournal : PatchProg PatchResult := do
  let view ← readJournal
  require (¬ view.state.rollsBack)
    (.exits (.text ("cannot apply journal in state " ++ view.state.name)))
  match ← attempt (currentRows view.plan) with
  | .error _ => failApply ((blamedRow view).getD 0) none
  | .ok current =>
    match ← preflight current view.rows with
    | some recordId => failApply recordId none
    | none =>
      appendJournal (.state .applying)
      let view ← readJournal
      match ← applyRows view.plan view.rows current with
      | some (recordId, attempted) => failApply recordId (some attempted)
      | none =>
        appendJournal (.state .completed)
        let view ← readJournal
        pure ⟨.completed, view.rows⟩

/-! ## Rolling back -/

/-- A failed rollback: the row and the state go to the journal. -/
def failRollback (recordId : Nat) : PatchProg PatchResult := do
  appendRow recordId .rollbackFailed
  appendJournal (.state .rollbackPartial)
  let view ← readJournal
  pure ⟨.rollbackPartial, view.rows⟩

/-- The turns of the rows, from the last to the first; the row at which they stop. -/
def rollbackRows (plan : PatchPlan) :
    List JournalRow → Items Nat FreshNavRow → PatchProg (Option Nat)
  | [], _ => ret none
  | row :: rest, current =>
    if row.status = .rolledBack then rollbackRows plan rest current
    else do
      let live ← liveRow current row.target.recordId
      if ¬ SameRowStates live row.target.baseFields then ret (some row.target.recordId)
      else if SameRowStates live row.target.originalMaintenanceFields then do
        appendRow row.target.recordId .rolledBack
        rollbackRows plan rest current
      else if ¬ SameRowStates live row.target.desiredMaintenanceFields then
        ret (some row.target.recordId)
      else do
        match ← attempt (patchTarget plan true row.target) with
        | .error _ => ret (some row.target.recordId)
        | .ok current' => do
          appendRow row.target.recordId .rolledBack
          rollbackRows plan rest current'

/-- `_rollback_journal`. -/
def rollbackJournal : PatchProg PatchResult := do
  let view ← readJournal
  if view.state = .rolledBack then pure ⟨.rolledBack, view.rows⟩
  else do
    let current ← currentRows view.plan
    appendJournal (.state .rollingBack)
    match ← rollbackRows view.plan view.rows.reverse current with
    | some recordId => failRollback recordId
    | none =>
      appendJournal (.state .rolledBack)
      let view ← readJournal
      pure ⟨.rolledBack, view.rows⟩

/-! ## Runs -/

/-- A command on a journal. -/
inductive PatchCommand
  /-- a first application or a resumed one -/
  | apply
  | rollback
deriving DecidableEq

/-- The program of a command. -/
def PatchCommand.program : PatchCommand → PatchProg PatchResult
  | .apply => applyJournal
  | .rollback => rollbackJournal

/-- A process starts: it has its own steps to come. -/
def PatchWorld.begin (w : PatchWorld) (turns : List Turn) : PatchWorld := { w with turns := turns }

/-- A run of a command. -/
def runCommand (w : PatchWorld) (command : PatchCommand) (turns : List Turn) :
    Except PatchStop PatchResult × PatchWorld := command.program (w.begin turns)

/-- Runs of commands, one after the other. -/
def runCommands (w : PatchWorld) (runs : List (PatchCommand × List Turn)) : PatchWorld :=
  runs.foldl (fun w run => (runCommand w run.1 run.2).2) w

/-- The world in which an approved plan is the first line of a new journal. -/
def PatchWorld.planned (sheet : Sheet) (plan : PatchPlan) : PatchWorld :=
  ⟨sheet, ⟨[.planned plan], .empty⟩, [], [], []⟩

end PortfolioManagement.NavRepair
