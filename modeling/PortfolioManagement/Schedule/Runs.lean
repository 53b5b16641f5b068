import PortfolioManagement.Lib.Machine
import PortfolioManagement.Schedule.Table

/-!
# Runs of the holdings change monitor

Events are accepted, observations are requested and scans start, read, settle, fail and stop where they
are, in any order. A scan holds the lock of its table from its start to its end; the remote read lies
between its start and its settlement, outside any transaction.

What happened to a scope since its baseline was initialised is kept beside the database (`Track`), with
the number of the step at which it happened.
-/

namespace PortfolioManagement.Schedule

open OperationState

variable {ρ Δ : Type}

/-- An event that was accepted. -/
structure Acceptance where
  /-- the step -/
  tick : Nat
  /-- the time -/
  acceptedAt : Int
  /-- the coalescing window -/
  window : Int
  /-- what `requested` became -/
  generation : Nat
deriving DecidableEq

/-- A background observation that succeeded. -/
structure Observed where
  /-- the step at which its read began -/
  began : Nat
  /-- the step at which it was settled -/
  settled : Nat
  /-- the time of the settlement -/
  settledAt : Int
  /-- `requested` when the read began -/
  generation : Nat
deriving DecidableEq

/-- What happened to a scope since its baseline was initialised. -/
structure Track where
  /-- the accepted events -/
  acceptances : List Acceptance
  /-- the last background observation that succeeded -/
  lastObserved : Option Observed
  /-- the time of the last background attempt, if it failed -/
  lastFailed : Option Int
deriving DecidableEq

/-- Nothing happened. -/
def Track.empty : Track := ⟨[], none, none⟩

/-- An event is accepted. -/
def Track.accept (acceptance : Acceptance) (track : Track) : Track :=
  { track with acceptances := acceptance :: track.acceptances }

/-- A background observation succeeds. -/
def Track.observe (observed : Observed) (track : Track) : Track :=
  { track with lastObserved := some observed, lastFailed := none }

/-- A scan fails; a manual one leaves no trace. -/
def Track.fail (mode : Mode) (now : Int) (track : Track) : Track :=
  match mode with
  | .manual => track
  | .background => { track with lastFailed := some now }

/-- A scan that holds the lock, with the step at which it started. -/
structure Held (ρ : Type) where
  /-- the scan -/
  scan : Scan ρ
  /-- the step -/
  began : Nat

/-- A settlement leaves a trace when it is of a background observation. -/
def Track.settle (held : Held ρ) (tick : Nat) (now : Int) (track : Track) : Track :=
  match held.scan.mode with
  | .manual => track
  | .background => track.observe ⟨held.began, tick, now, held.scan.generation⟩

/-- The database, the locks of the scopes, what happened to them and the number of steps. -/
structure MonitorState (ρ Δ : Type) where
  /-- the database -/
  db : Inbox.Database (Tables ρ Δ)
  /-- the scans that hold a lock -/
  held : String → Option (Held ρ)
  /-- what happened -/
  track : String → Track
  /-- the number of steps -/
  tick : Nat

/-- No monitor and no event. -/
def MonitorState.start (others : Δ) : MonitorState ρ Δ :=
  ⟨⟨[], ⟨[], others⟩⟩, fun _ => none, fun _ => .empty, 0⟩

/-- A step. -/
inductive Act (ρ Δ : Type)
  /-- an event is delivered -/
  | accept (eventId : String) (content : Inbox.EventContent) (now later : Int) (config : AcceptanceConfig)
  /-- an observation is requested -/
  | request (scopeKey : String) (delay now : Int)
  /-- a worker enables or disables the monitor -/
  | configure (scopeKey settings : String) (enabled : Bool)
  /-- the baseline is initialised -/
  | initialise (scopeKey fileToken tableId settings : String) (rows : ρ) (rebuild : Bool) (epoch : String)
  /-- a scan takes the lock and starts -/
  | scan (scopeKey : String) (mode : Mode) (settings : MonitorSettings) (dueOnly : Bool) (now : Int)
  /-- the scan settles what it read -/
  | settle (scopeKey : String) (plan : ScanPlan ρ) (body : Nat → Δ → Except String Δ) (now : Int)
  /-- the scan fails -/
  | fail (scopeKey error : String) (now : Int)
  /-- the scan stops where it is -/
  | crash (scopeKey : String)
  /-- other transactions change the inbox and the other tables -/
  | other (inbox : Inbox.Events → Inbox.Events) (change : Δ → Δ)

namespace MonitorState

/-- The row of a scope. -/
def monitor (s : MonitorState ρ Δ) (key : String) : Option (HoldingMonitor ρ) :=
  s.db.effects.monitors.lookup key

/-- The state with other monitors. -/
def withMonitors (s : MonitorState ρ Δ) (monitors : Monitors ρ) : MonitorState ρ Δ :=
  { s with db := { s.db with effects := { s.db.effects with monitors := monitors } } }

/-- The state without the scan of a scope. -/
def release (scopeKey : String) (s : MonitorState ρ Δ) : MonitorState ρ Δ :=
  { s with held := Function.update s.held scopeKey none }

/-- The acceptance of an event in the tracks of the scopes that it requests. -/
def accepted (s : MonitorState ρ Δ) (content : Inbox.EventContent) (later : Int)
    (config : AcceptanceConfig) (key : String) : Track :=
  match s.monitor key with
  | some m =>
    if config.enabled && m.watches content.fileToken content.tableId then
      (s.track key).accept ⟨s.tick, later, config.window, m.requested + 1⟩
    else s.track key
  | none => s.track key

/-- What a step does, without the count of the steps. -/
def act (s : MonitorState ρ Δ) : Act ρ Δ → Option (MonitorState ρ Δ)
  | .accept eventId content now later config =>
    match acceptHoldingEvent config later eventId content now s.db with
    | .ok (true, db) => some { s with db := db, track := s.accepted content later config }
    | .ok (false, db) => some { s with db := db }
    | .error _ => some s
  | .request scopeKey delay now =>
    some (s.withMonitors (requestHoldingMonitor scopeKey delay now s.db.effects.monitors))
  | .configure scopeKey settings enabled =>
    some (s.withMonitors (configureHoldingMonitor scopeKey settings enabled s.db.effects.monitors).2)
  | .initialise scopeKey fileToken tableId settings rows rebuild epoch =>
    match s.held scopeKey with
    | some _ => none
    | none =>
      match initializeHoldingMonitor scopeKey fileToken tableId settings rows rebuild epoch
          s.db.effects.monitors with
      | .ok monitors =>
        some { s.withMonitors monitors with track := Function.update s.track scopeKey .empty }
      | .error _ => some s
  | .scan scopeKey mode settings dueOnly now =>
    match s.held scopeKey with
    | some _ => none
    | none =>
      match startScan mode settings dueOnly now (s.monitor scopeKey) with
      | .ok scan => some { s with held := Function.update s.held scopeKey (some ⟨scan, s.tick⟩) }
      | .error _ => some s
  | .settle scopeKey plan body now =>
    match s.held scopeKey with
    | none => none
    | some held =>
      match settleHoldingMonitor scopeKey held.scan plan body now s.db.effects with
      | .ok tables =>
        some (release scopeKey { s with
          db := { s.db with effects := tables }
          track := Function.update s.track scopeKey ((s.track scopeKey).settle held s.tick now) })
      | .error _ => some s
  | .fail scopeKey error now =>
    match s.held scopeKey with
    | none => none
    | some held =>
      some (release scopeKey { s.withMonitors
          (failHoldingMonitor scopeKey held.scan.mode error now s.db.effects.monitors) with
        track := Function.update s.track scopeKey ((s.track scopeKey).fail held.scan.mode now) })
  | .crash scopeKey => some (release scopeKey s)
  | .other inbox change =>
    some { s with db := ⟨inbox s.db.inbox, { s.db.effects with others := change s.db.effects.others }⟩ }

/-- One step. -/
def step (s : MonitorState ρ Δ) (a : Act ρ Δ) : Option (MonitorState ρ Δ) :=
  (s.act a).map fun s' => { s' with tick := s.tick + 1 }

end MonitorState

/-! ## What a step does to a scope -/

/-- The columns of the schedule. -/
structure Scheduling where
  /-- `requested` -/
  requested : Nat
  /-- `completed` -/
  completed : Nat
  /-- `next_due` -/
  nextDue : Option Int
  /-- `failure_count` -/
  failureCount : Nat
deriving DecidableEq

/-- The schedule of a monitor. -/
def HoldingMonitor.schedule (m : HoldingMonitor ρ) : Scheduling :=
  ⟨m.requested, m.completed, m.nextDue, m.failureCount⟩

@[simp] theorem schedule_enabled (m : HoldingMonitor ρ) (enabled : Bool) :
    { m with enabled := enabled }.schedule = m.schedule := rfl

@[simp] theorem schedule_observed (m : HoldingMonitor ρ) (mode : Mode) (rows : ρ) (now : Int) :
    (m.observed mode rows now).schedule = m.schedule := by
  cases mode <;> rfl

@[simp] theorem schedule_failManual (m : HoldingMonitor ρ) (error : String) (now : Int) :
    (m.fail .manual error now).schedule = m.schedule := rfl

/-- What a step does to the row, the scan and the track of a scope. -/
inductive ScopeStep (tick : Nat) :
    HoldingMonitor ρ → Option (Held ρ) → Track → HoldingMonitor ρ → Option (Held ρ) → Track → Prop
  | kept {m m' : HoldingMonitor ρ} {held held' : Option (Held ρ)} {track : Track}
    (hsame : m'.schedule = m.schedule) (hheld : held' = held ∨ held' = none) :
    ScopeStep tick m held track m' held' track
  | requested {m : HoldingMonitor ρ} {held : Option (Held ρ)} {track : Track} {due : Int} :
    ScopeStep tick m held track (m.request due) held track
  | accepted {m : HoldingMonitor ρ} {held : Option (Held ρ)} {track : Track} {acceptedAt window : Int} :
    ScopeStep tick m held track (m.request (acceptedAt + window)) held
      (track.accept ⟨tick, acceptedAt, window, m.requested + 1⟩)
  | started {m : HoldingMonitor ρ} {track : Track} {scan : Scan ρ}
    (hgeneration : scan.generation = m.requested) :
    ScopeStep tick m none track m (some ⟨scan, tick⟩) track
  | settled {m : HoldingMonitor ρ} {held : Held ρ} {track : Track} {plan : ScanPlan ρ} {now : Int} :
    ScopeStep tick m (some held) track (m.settle held.scan plan now) none (track.settle held tick now)
  | failed {m : HoldingMonitor ρ} {held : Held ρ} {track : Track} {error : String} {now : Int} :
    ScopeStep tick m (some held) track (m.fail held.scan.mode error now) none
      (track.fail held.scan.mode now)

variable {s s' : MonitorState ρ Δ} {a : Act ρ Δ}

theorem scopeStep_rfl {tick : Nat} {m : HoldingMonitor ρ} {held : Option (Held ρ)} {track : Track} :
    ScopeStep tick m held track m held track :=
  .kept rfl (.inl rfl)

/-- The monitors after an acceptance. -/
theorem acceptHoldingEvent_ok {config : AcceptanceConfig} {later now : Int} {eventId : String}
    {content : Inbox.EventContent} {db db' : Inbox.Database (Tables ρ Δ)} {isNew : Bool}
    (h : acceptHoldingEvent config later eventId content now db = .ok (isNew, db')) :
    db'.effects.monitors = if isNew then
      dirtyMonitors config later content.fileToken content.tableId db.effects.monitors
    else db.effects.monitors := by
  unfold acceptHoldingEvent Inbox.acceptHoldingEvent Inbox.acceptEvent at h
  split at h
  · cases h
    rfl
  · split at h
    · cases h
      rfl
    · cases h

/-- A settlement that succeeds writes the row of its scope. -/
theorem settleHoldingMonitor_ok {scopeKey : String} {scan : Scan ρ} {plan : ScanPlan ρ}
    {body : Nat → Δ → Except String Δ} {now : Int} {tables tables' : Tables ρ Δ}
    (h : settleHoldingMonitor scopeKey scan plan body now tables = .ok tables') :
    tables'.monitors =
      tables.monitors.updateWhere (fun key _ => key = scopeKey) (HoldingMonitor.settle scan plan now) := by
  unfold settleHoldingMonitor at h
  split at h
  · cases h
  · split at h
    · cases h
    · split at h
      · cases h
      · cases h
        rfl

/-- A scan that starts reads the generation. -/
theorem startScan_ok {mode : Mode} {settings : MonitorSettings} {dueOnly : Bool} {now : Int}
    {m : HoldingMonitor ρ} {scan : Scan ρ}
    (h : startScan mode settings dueOnly now (some m) = .ok scan) :
    scan.mode = mode ∧ scan.generation = m.requested := by
  unfold startScan at h
  split at h
  · cases h
  · simp only at h
    split at h
    · cases h
    · split at h
      · cases h
      · split at h
        · cases h
        · cases h
          exact ⟨rfl, rfl⟩

theorem lookup_update_key {monitors : Monitors ρ} {f : HoldingMonitor ρ → HoldingMonitor ρ}
    (key scopeKey : String) :
    (monitors.updateWhere (fun key _ => key = scopeKey) f).lookup key =
      (monitors.lookup key).map fun m => if key = scopeKey then f m else m := by
  rw [Items.lookup_updateWhere]
  simp only [decide_eq_true_eq]

/-- A configuration changes `enabled`. -/
theorem configureHoldingMonitor_snd (scopeKey settings : String) (enabled : Bool)
    (monitors : Monitors ρ) :
    (configureHoldingMonitor scopeKey settings enabled monitors).2 =
      monitors.updateWhere (fun key _ => key = scopeKey) fun m =>
        { m with enabled := enabled && (configureHoldingMonitor scopeKey settings enabled monitors).1 } :=
  rfl

/-- A step does one of these to the row, the scan and the track of a scope, unless it initialises the
baseline of the scope or there is none. -/
def ScopeOutcome (s s' : MonitorState ρ Δ) (key : String) : Prop :=
  (∃ m m', s.monitor key = some m ∧ s'.monitor key = some m' ∧
      ScopeStep s.tick m (s.held key) (s.track key) m' (s'.held key) (s'.track key)) ∨
    (∃ m', s'.monitor key = some m' ∧ m'.schedule = ⟨0, 0, none, 0⟩ ∧ s'.held key = none ∧
      s'.track key = .empty) ∨
    (s.monitor key = none ∧ s'.monitor key = none)

theorem scopeOutcome_map {key : String} (f : HoldingMonitor ρ → HoldingMonitor ρ)
    (hrow : s'.monitor key = (s.monitor key).map f)
    (hstep : ∀ m, s.monitor key = some m →
      ScopeStep s.tick m (s.held key) (s.track key) (f m) (s'.held key) (s'.track key)) :
    ScopeOutcome s s' key := by
  cases hm : s.monitor key with
  | none => exact .inr (.inr ⟨hm, by rw [hrow, hm]; rfl⟩)
  | some m => exact .inl ⟨m, f m, hm, by rw [hrow, hm]; rfl, hstep m hm⟩

theorem scopeOutcome_kept {key : String} (hrow : s'.monitor key = s.monitor key)
    (hstep : ∀ m, s.monitor key = some m →
      ScopeStep s.tick m (s.held key) (s.track key) m (s'.held key) (s'.track key)) :
    ScopeOutcome s s' key :=
  scopeOutcome_map id (hrow.trans (congrFun Option.map_id _).symm) hstep

theorem scopeOutcome_rfl (key : String) : ScopeOutcome s s key :=
  scopeOutcome_kept rfl fun _ _ => scopeStep_rfl

/-- The monitors of an initialised baseline. -/
theorem lookup_initialised (monitors : Monitors ρ) (key scopeKey : String) (fresh : HoldingMonitor ρ) :
    List.lookup key ((monitors.filter fun row => row.1 ≠ scopeKey) ++ [(scopeKey, fresh)]) =
      if scopeKey = key then some fresh else monitors.lookup key := by
  have hgone := Items.lookup_filter_key (fun k => decide (k ≠ scopeKey)) scopeKey monitors
  rw [if_neg (by simp)] at hgone
  rw [Items.lookup_append_singleton key scopeKey fresh hgone]
  by_cases hkey : scopeKey = key
  · rw [if_pos hkey, if_pos hkey]
  · have hother := Items.lookup_filter_key (fun k => decide (k ≠ scopeKey)) key monitors
    rw [if_pos (by simpa using Ne.symm hkey)] at hother
    rw [if_neg hkey, if_neg hkey, hother]

theorem scopeOutcome_of_act (h : s.act a = some s') (key : String) : ScopeOutcome s s' key := by
  cases a with
  | accept eventId content now later config =>
    unfold MonitorState.act at h
    simp only at h
    split at h
    · next db haccept =>
      cases h
      have hmonitors := acceptHoldingEvent_ok haccept
      rw [if_pos rfl] at hmonitors
      refine scopeOutcome_map (fun m => if config.enabled && m.watches content.fileToken content.tableId then
        m.request (later + config.window) else m) ?_ ?_
      · show db.effects.monitors.lookup key = _
        rw [hmonitors]
        unfold dirtyMonitors
        cases config.enabled with
        | true =>
          rw [if_pos rfl, Items.lookup_updateWhere]
          rfl
        | false => exact (congrFun Option.map_id _).symm
      · intro m hm
        simp only [MonitorState.accepted, hm]
        split
        · exact .accepted
        · exact scopeStep_rfl
    · next db haccept =>
      cases h
      have hmonitors := acceptHoldingEvent_ok haccept
      rw [if_neg Bool.false_ne_true] at hmonitors
      exact scopeOutcome_kept (congrArg (List.lookup key) hmonitors) fun m _ => scopeStep_rfl
    · cases h
      exact scopeOutcome_rfl key
  | request scopeKey delay now =>
    cases h
    refine scopeOutcome_map (fun m => if decide (key = scopeKey) && m.ready && m.enabled then
      m.request (now + delay) else m) ?_ fun m _ => ?_
    · show (requestHoldingMonitor scopeKey delay now s.db.effects.monitors).lookup key = _
      unfold requestHoldingMonitor
      rw [Items.lookup_updateWhere]
      rfl
    show ScopeStep _ _ _ _ (if _ then _ else _) _ _
    split
    · exact .requested
    · exact scopeStep_rfl
  | configure scopeKey settings enabled =>
    cases h
    refine scopeOutcome_map (fun m => if key = scopeKey then
      { m with enabled := enabled && (configureHoldingMonitor scopeKey settings enabled
        s.db.effects.monitors).1 } else m) ?_ fun m _ => ?_
    · show (configureHoldingMonitor scopeKey settings enabled s.db.effects.monitors).2.lookup key = _
      rw [configureHoldingMonitor_snd, lookup_update_key]
      rfl
    show ScopeStep _ _ _ _ (if _ then _ else _) _ _
    split
    · exact .kept rfl (.inl rfl)
    · exact scopeStep_rfl
  | initialise scopeKey fileToken tableId settings rows rebuild epoch =>
    unfold MonitorState.act at h
    simp only at h
    split at h
    · cases h
    · next hfree =>
      split at h
      · next monitors hinit =>
        cases h
        unfold initializeHoldingMonitor at hinit
        split at hinit
        · cases hinit
        · cases hinit
          by_cases hkey : scopeKey = key
          · subst hkey
            refine .inr (.inl ⟨.fresh fileToken tableId settings epoch rows, ?_, rfl, hfree, ?_⟩)
            · exact (lookup_initialised ..).trans (if_pos rfl)
            · exact Function.update_self ..
          · refine scopeOutcome_kept ?_ fun m _ => ?_
            · exact (lookup_initialised ..).trans (if_neg hkey)
            · show ScopeStep _ _ _ _ _ _ (Function.update s.track scopeKey _ key)
              rw [Function.update_of_ne (Ne.symm hkey)]
              exact scopeStep_rfl
      · cases h
        exact scopeOutcome_rfl key
  | scan scopeKey mode settings dueOnly now =>
    unfold MonitorState.act at h
    simp only at h
    split at h
    · cases h
    · next hfree =>
      split at h
      · next scan hstart =>
        cases h
        refine scopeOutcome_kept rfl fun m hm => ?_
        show ScopeStep _ _ _ _ _ (Function.update s.held scopeKey _ key) _
        by_cases hkey : key = scopeKey
        · subst hkey
          rw [Function.update_self, hfree]
          rw [hm] at hstart
          exact .started (startScan_ok hstart).2
        · rw [Function.update_of_ne hkey]
          exact scopeStep_rfl
      · cases h
        exact scopeOutcome_rfl key
  | settle scopeKey plan body now =>
    unfold MonitorState.act at h
    simp only at h
    split at h
    · cases h
    · next held hheld =>
      split at h
      · next tables hsettle =>
        cases h
        refine scopeOutcome_map (fun m => if key = scopeKey then m.settle held.scan plan now else m) ?_ fun m _ => ?_
        · show tables.monitors.lookup key = _
          rw [settleHoldingMonitor_ok hsettle]
          exact lookup_update_key key scopeKey
        · show ScopeStep _ _ _ _ _ (Function.update s.held scopeKey _ key)
            (Function.update s.track scopeKey _ key)
          by_cases hkey : key = scopeKey
          · subst hkey
            rw [Function.update_self, Function.update_self, hheld, if_pos rfl]
            exact .settled
          · rw [Function.update_of_ne hkey, Function.update_of_ne hkey, if_neg hkey]
            exact scopeStep_rfl
      · cases h
        exact scopeOutcome_rfl key
  | fail scopeKey error now =>
    unfold MonitorState.act at h
    simp only at h
    split at h
    · cases h
    · next held hheld =>
      cases h
      refine scopeOutcome_map (fun m => if key = scopeKey then m.fail held.scan.mode error now else m) ?_
        fun m _ => ?_
      · exact lookup_update_key key scopeKey
      show ScopeStep _ _ _ _ (if _ then _ else _) (Function.update s.held scopeKey _ key)
        (Function.update s.track scopeKey _ key)
      by_cases hkey : key = scopeKey
      · subst hkey
        rw [Function.update_self, Function.update_self, hheld, if_pos rfl]
        exact .failed
      · rw [Function.update_of_ne hkey, Function.update_of_ne hkey, if_neg hkey]
        exact scopeStep_rfl
  | crash scopeKey =>
    cases h
    refine scopeOutcome_kept rfl fun m _ => .kept rfl ?_
    show Function.update s.held scopeKey none key = _ ∨ _
    by_cases hkey : key = scopeKey
    · subst hkey
      exact .inr (Function.update_self ..)
    · exact .inl (Function.update_of_ne hkey ..)
  | other inbox change =>
    cases h
    exact scopeOutcome_kept rfl fun m _ => scopeStep_rfl

end PortfolioManagement.Schedule
