import PortfolioManagement.Inbox.Table

/-!
# The schedule of the holdings change monitor

A monitor has one row for each observed table. Accepted events and explicit requests raise `requested`,
a background observation that succeeds sets `completed` to what was requested when it began to read,
and `next_due` says when the next one is due. A manual scan settles its rows and leaves these columns
alone.
-/

namespace PortfolioManagement.Schedule

open OperationState

/-- `timedelta(seconds=n)`. -/
def seconds (n : Int) : Int := n * 1000000

/-- The waits after failed background attempts. -/
def retrySeconds : List Int := [2, 5, 15, 30, 60]

/-- The wait after a number of failed background attempts. -/
def backoff (count : Nat) : Int := seconds (retrySeconds.getD (min (count - 1) 4) 60)

/-- A row of `holding_change_monitor`, without its scope key. -/
structure HoldingMonitor (ρ : Type) where
  /-- `file_token` -/
  fileToken : String
  /-- `table_id` -/
  tableId : String
  /-- `settings_json` -/
  settings : String
  /-- `epoch` -/
  epoch : String
  /-- `enabled` -/
  enabled : Bool
  /-- `ready` -/
  ready : Bool
  /-- `rows_json` -/
  rows : ρ
  /-- `requested` -/
  requested : Nat
  /-- `completed` -/
  completed : Nat
  /-- `observation_seq` -/
  observationSeq : Nat
  /-- `next_due` -/
  nextDue : Option Int
  /-- `failure_count` -/
  failureCount : Nat
  /-- `manual_attempt_at` -/
  manualAttemptAt : Option Int
  /-- `manual_success_at` -/
  manualSuccessAt : Option Int
  /-- `manual_error` -/
  manualError : Option String
  /-- `background_attempt_at` -/
  backgroundAttemptAt : Option Int
  /-- `background_success_at` -/
  backgroundSuccessAt : Option Int
  /-- `background_error` -/
  backgroundError : Option String

/-- The monitors, by `scope_key`. -/
abbrev Monitors (ρ : Type) := Items String (HoldingMonitor ρ)

/-- The monitors and the tables that a settlement writes besides. -/
structure Tables (ρ Δ : Type) where
  /-- `holding_change_monitor` -/
  monitors : Monitors ρ
  /-- cases, receipts and observations -/
  others : Δ

/-- `mode`. -/
inductive Mode
  | manual | background
deriving DecidableEq

variable {ρ Δ : Type}

/-! ## Initialising and configuring -/

/-- A monitor as it is inserted. -/
def HoldingMonitor.fresh (fileToken tableId settings epoch : String) (rows : ρ) : HoldingMonitor ρ where
  fileToken := fileToken
  tableId := tableId
  settings := settings
  epoch := epoch
  enabled := false
  ready := true
  rows := rows
  requested := 0
  completed := 0
  observationSeq := 0
  nextDue := none
  failureCount := 0
  manualAttemptAt := none
  manualSuccessAt := none
  manualError := none
  backgroundAttemptAt := none
  backgroundSuccessAt := none
  backgroundError := none

/-- `initialize_holding_monitor`. -/
def initializeHoldingMonitor (scopeKey fileToken tableId settings : String) (rows : ρ) (rebuild : Bool)
    (epoch : String) (monitors : Monitors ρ) : Except String (Monitors ρ) :=
  if (monitors.lookup scopeKey).isSome ∧ rebuild = false then
    .error "monitor baseline already exists; preview and explicitly --rebuild"
  else
    .ok (monitors.filter (fun row => row.1 ≠ scopeKey) ++
      [(scopeKey, .fresh fileToken tableId settings epoch rows)])

/-- `configure_holding_monitor`: whether the settings are those of the baseline, and the monitors. -/
def configureHoldingMonitor (scopeKey settings : String) (enabled : Bool) (monitors : Monitors ρ) :
    Bool × Monitors ρ :=
  let valid := (monitors.lookup scopeKey).any fun m => m.ready && m.settings = settings
  (valid, monitors.updateWhere (fun key _ => key = scopeKey) fun m => { m with enabled := enabled && valid })

/-! ## Requests -/

/-- `CASE WHEN next_due IS NULL OR next_due > ? THEN ? ELSE next_due END`. -/
def earlier (nextDue : Option Int) (due : Int) : Int :=
  match nextDue with
  | none => due
  | some t => if due < t then due else t

/-- One request more; a monitor whose last background attempt failed keeps its time. -/
def HoldingMonitor.request (due : Int) (m : HoldingMonitor ρ) : HoldingMonitor ρ :=
  { m with
    requested := m.requested + 1
    nextDue := if 0 < m.failureCount then m.nextDue else some (earlier m.nextDue due) }

/-- `request_holding_monitor`; `delay` is the timedelta of `seconds`. -/
def requestHoldingMonitor (scopeKey : String) (delay now : Int) (monitors : Monitors ρ) : Monitors ρ :=
  monitors.updateWhere (fun key m => key = scopeKey && m.ready && m.enabled)
    (HoldingMonitor.request (now + delay))

/-- `holdings.change_monitor` as the acceptance of an event reads it. -/
structure AcceptanceConfig where
  /-- `enabled` is `true` -/
  enabled : Bool
  /-- the timedelta of `coalesce_seconds`, when that is a positive number -/
  coalesce : Option Int

/-- The coalescing window. -/
def AcceptanceConfig.window (config : AcceptanceConfig) : Int := config.coalesce.getD (seconds 2)

/-- `file_token=? AND table_id=? AND ready=1 AND enabled=1`. -/
def HoldingMonitor.watches (fileToken tableId : String) (m : HoldingMonitor ρ) : Bool :=
  m.fileToken = fileToken && m.tableId = tableId && m.ready && m.enabled

/-- The request of an accepted event; `later` is the time the acceptance reads when the event is new. -/
def dirtyMonitors (config : AcceptanceConfig) (later : Int) (fileToken tableId : String)
    (monitors : Monitors ρ) : Monitors ρ :=
  if config.enabled then
    monitors.updateWhere (fun _ m => m.watches fileToken tableId)
      (HoldingMonitor.request (later + config.window))
  else monitors

/-- `accept_holding_event` over the monitors. -/
def acceptHoldingEvent (config : AcceptanceConfig) (later : Int) (eventId : String)
    (content : Inbox.EventContent) (now : Int) (db : Inbox.Database (Tables ρ Δ)) :
    Except String (Bool × Inbox.Database (Tables ρ Δ)) :=
  Inbox.acceptHoldingEvent
    (fun fileToken tableId _ tables =>
      { tables with monitors := dirtyMonitors config later fileToken tableId tables.monitors })
    eventId content now db

/-! ## Scans -/

/-- What a scan uses of `MonitorSettings`. -/
structure MonitorSettings where
  /-- `enabled` -/
  enabled : Bool
  /-- `scope_settings()` -/
  scopeSettings : String
  /-- the timedelta of `reconcile_interval_seconds` -/
  interval : Int

/-- What a scan holds between its start and its settlement, under the lock of the table. -/
structure Scan (ρ : Type) where
  /-- `mode` -/
  mode : Mode
  /-- the settings of the service -/
  settings : MonitorSettings
  /-- `state["epoch"]` -/
  epoch : String
  /-- `state["requested"]` -/
  generation : Nat
  /-- `state["rows"]` -/
  rows : ρ

/-- `due_only and state["next_due"] and state["next_due"] > now`. -/
def HoldingMonitor.idle (dueOnly : Bool) (now : Int) (m : HoldingMonitor ρ) : Bool :=
  dueOnly && m.nextDue.any fun t => decide (now < t)

/-- The start of `scan` up to the remote read; an error is the status it returns. -/
def startScan (mode : Mode) (settings : MonitorSettings) (dueOnly : Bool) (now : Int)
    (state : Option (HoldingMonitor ρ)) : Except String (Scan ρ) :=
  if mode = .background ∧ settings.enabled = false then .error "disabled"
  else match state with
    | none => .error "uninitialized"
    | some m =>
      if m.ready = false then .error "uninitialized"
      else if m.settings ≠ settings.scopeSettings then .error "scope_changed"
      else if m.idle dueOnly now then .error "idle"
      else .ok ⟨mode, settings, m.epoch, m.requested, m.rows⟩

/-- What a settlement uses of the plan of an observation. -/
structure ScanPlan (ρ : Type) where
  /-- `rows` -/
  rows : ρ
  /-- `has_missing_candidates` -/
  hasMissingCandidates : Bool

/-- The columns that every settlement writes. -/
def HoldingMonitor.observed (mode : Mode) (rows : ρ) (now : Int) (m : HoldingMonitor ρ) :
    HoldingMonitor ρ :=
  let m := { m with rows := rows, observationSeq := m.observationSeq + 1 }
  match mode with
  | .manual =>
    { m with manualAttemptAt := some now, manualSuccessAt := some now, manualError := none }
  | .background =>
    { m with backgroundAttemptAt := some now, backgroundSuccessAt := some now, backgroundError := none }

/-- The time a settled background observation sets. -/
def settledDue (generation : Nat) (plan : ScanPlan ρ) (interval now : Int) (m : HoldingMonitor ρ) : Int :=
  let due := now + if plan.hasMissingCandidates then seconds 2 else interval
  if generation < m.requested then min due (now + seconds 2) else due

/-- A settled monitor. -/
def HoldingMonitor.settle (scan : Scan ρ) (plan : ScanPlan ρ) (now : Int) (m : HoldingMonitor ρ) :
    HoldingMonitor ρ :=
  match scan.mode with
  | .manual => m.observed .manual plan.rows now
  | .background =>
    { m.observed .background plan.rows now with
      completed := scan.generation
      nextDue := some (settledDue scan.generation plan scan.settings.interval now m)
      failureCount := 0 }

/-- `settle_holding_monitor`; `body` writes the cases, the receipts and the observation. -/
def settleHoldingMonitor (scopeKey : String) (scan : Scan ρ) (plan : ScanPlan ρ)
    (body : Nat → Δ → Except String Δ) (now : Int) (tables : Tables ρ Δ) : Except String (Tables ρ Δ) :=
  match tables.monitors.lookup scopeKey with
  | none => .error "monitor scope changed; reinitialize explicitly"
  | some m =>
    if m.epoch ≠ scan.epoch ∨ m.settings ≠ scan.settings.scopeSettings then
      .error "monitor scope changed; reinitialize explicitly"
    else match body (m.observationSeq + 1) tables.others with
      | .error error => .error error
      | .ok others =>
        .ok ⟨tables.monitors.updateWhere (fun key _ => key = scopeKey) (HoldingMonitor.settle scan plan now),
          others⟩

/-- A monitor whose scan failed. -/
def HoldingMonitor.fail (mode : Mode) (error : String) (now : Int) (m : HoldingMonitor ρ) :
    HoldingMonitor ρ :=
  match mode with
  | .background =>
    { m with
      failureCount := m.failureCount + 1
      nextDue := some (now + backoff (m.failureCount + 1))
      backgroundAttemptAt := some now
      backgroundError := some error }
  | .manual => { m with manualAttemptAt := some now, manualError := some error }

/-- `fail_holding_monitor`. -/
def failHoldingMonitor (scopeKey : String) (mode : Mode) (error : String) (now : Int)
    (monitors : Monitors ρ) : Monitors ρ :=
  monitors.updateWhere (fun key _ => key = scopeKey) (HoldingMonitor.fail mode error now)

end PortfolioManagement.Schedule
