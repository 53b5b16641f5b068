import PortfolioManagement.Schedule.Runs

/-!
# No accepted event is lost

An event that was accepted after the read of the last successful background observation began is still
requested, and its observation is due: with the coalescing window of its acceptance, two seconds after
the settlement of the observation during which it was accepted, or with the back-off of a failed attempt
(`Tracked`). Only the settlement of a background observation completes anything, and it completes what
was requested when its read began.
-/

namespace PortfolioManagement.Schedule

open OperationState

variable {ρ Δ : Type} {s s' : MonitorState ρ Δ} {a : Act ρ Δ}

/-- The maximum back-off. -/
def maximumBackoff : Int := seconds 60

theorem backoff_le (count : Nat) : backoff count ≤ maximumBackoff := by
  have hindex : min (count - 1) 4 < 5 := by omega
  unfold backoff maximumBackoff
  generalize min (count - 1) 4 = index at hindex
  revert index
  decide

/-- The event was accepted after the read of the last successful background observation began. -/
def Track.Unread (track : Track) (acceptance : Acceptance) : Prop :=
  ∀ observed, track.lastObserved = some observed → observed.began < acceptance.tick

/-- A time that is in time for an accepted event: after a failed attempt the back-off has not passed;
else the coalescing window has not, or the observation during which the event was accepted was settled
two seconds ago at most. -/
def Track.InTime (track : Track) (acceptance : Acceptance) (due : Int) : Prop :=
  (∃ failedAt, track.lastFailed = some failedAt ∧ due ≤ failedAt + maximumBackoff) ∨
    (track.lastFailed = none ∧ (due ≤ acceptance.acceptedAt + acceptance.window ∨
      ∃ observed, track.lastObserved = some observed ∧ acceptance.tick < observed.settled ∧
        due ≤ observed.settledAt + seconds 2))

/-- The schedule of a scope accounts for what happened to it. -/
structure Tracked (tick : Nat) (m : Scheduling) (held : Option (Held ρ)) (track : Track) : Prop where
  /-- no more is completed than requested -/
  completed_le : m.completed ≤ m.requested
  /-- a scan covers no event that was accepted after its start -/
  scanned : ∀ h, held = some h → h.scan.generation ≤ m.requested ∧
    ∀ acceptance ∈ track.acceptances, h.began < acceptance.tick →
      h.scan.generation < acceptance.generation
  /-- accepted events are requested -/
  accepted : ∀ acceptance ∈ track.acceptances, acceptance.tick < tick ∧
    acceptance.generation ≤ m.requested
  /-- failures are counted from the last success on -/
  failed : m.failureCount = 0 ↔ track.lastFailed = none
  /-- after a failure the next attempt is due with its back-off -/
  backedOff : ∀ failedAt, track.lastFailed = some failedAt →
    ∃ due, m.nextDue = some due ∧ due ≤ failedAt + maximumBackoff
  /-- what is completed was requested when the read of the last success began -/
  completed_eq : ∀ observed, track.lastObserved = some observed → m.completed = observed.generation
  /-- events that no successful read covers stay requested and due -/
  unread : ∀ acceptance ∈ track.acceptances, track.Unread acceptance →
    m.completed < acceptance.generation ∧ ∃ due, m.nextDue = some due ∧ track.InTime acceptance due

theorem tracked_fresh (tick : Nat) : Tracked (ρ := ρ) tick ⟨0, 0, none, 0⟩ none .empty where
  completed_le := le_rfl
  scanned _ h := by cases h
  accepted _ h := by cases h
  failed := iff_of_true rfl rfl
  backedOff _ h := by cases h
  completed_eq _ h := by cases h
  unread _ h := by cases h

theorem earlier_le_due (nextDue : Option Int) (due : Int) : earlier nextDue due ≤ due := by
  unfold earlier
  split
  · exact le_rfl
  · split <;> omega

theorem earlier_le (t due : Int) : earlier (some t) due ≤ t := by
  unfold earlier
  simp only
  split <;> omega

theorem Track.InTime.mono {track : Track} {acceptance : Acceptance} {due due' : Int}
    (h : track.InTime acceptance due) (hle : due' ≤ due) : track.InTime acceptance due' := by
  rcases h with ⟨failedAt, hfailed, hdue⟩ | ⟨hnone, hdue | ⟨observed, hobserved, htick, hdue⟩⟩
  · exact .inl ⟨failedAt, hfailed, hle.trans hdue⟩
  · exact .inr ⟨hnone, .inl (hle.trans hdue)⟩
  · exact .inr ⟨hnone, .inr ⟨observed, hobserved, htick, hle.trans hdue⟩⟩

/-- A request keeps the time or moves it forward. -/
theorem request_due (m : HoldingMonitor ρ) {t : Int} (due : Int) (h : m.nextDue = some t) :
    ∃ t', (m.request due).nextDue = some t' ∧ t' ≤ t := by
  unfold HoldingMonitor.request
  simp only
  split
  · exact ⟨t, h, le_rfl⟩
  · rw [h]
    exact ⟨_, rfl, earlier_le t due⟩

section
variable {tick : Nat} {m m' : HoldingMonitor ρ} {held held' : Option (Held ρ)} {track track' : Track}

theorem Tracked.request (h : Tracked tick m.schedule held track) (due : Int) :
    Tracked tick (m.request due).schedule held track where
  completed_le := Nat.le_succ_of_le h.completed_le
  scanned x hx := ⟨Nat.le_succ_of_le (h.scanned x hx).1, (h.scanned x hx).2⟩
  accepted x hx := ⟨(h.accepted x hx).1, Nat.le_succ_of_le (h.accepted x hx).2⟩
  failed := h.failed
  backedOff failedAt hfailed := by
    obtain ⟨t, ht, hle⟩ := h.backedOff failedAt hfailed
    obtain ⟨t', ht', hle'⟩ := request_due m due ht
    exact ⟨t', ht', hle'.trans hle⟩
  completed_eq := h.completed_eq
  unread x hx hunread := by
    obtain ⟨hlt, t, ht, htime⟩ := h.unread x hx hunread
    obtain ⟨t', ht', hle'⟩ := request_due m due ht
    exact ⟨hlt, t', ht', htime.mono hle'⟩

theorem Tracked.accept (h : Tracked tick m.schedule held track) (acceptedAt window : Int) :
    Tracked (tick + 1) (m.request (acceptedAt + window)).schedule held
      (track.accept ⟨tick, acceptedAt, window, m.requested + 1⟩) := by
  have hrequest := h.request (acceptedAt + window)
  refine ⟨hrequest.completed_le, fun x hx => ⟨(hrequest.scanned x hx).1, ?_⟩, ?_, hrequest.failed,
    hrequest.backedOff, hrequest.completed_eq, ?_⟩
  · intro acceptance hmem hbegan
    rcases List.mem_cons.mp hmem with rfl | hmem
    · exact Nat.lt_succ_of_le (h.scanned x hx).1
    · exact (h.scanned x hx).2 acceptance hmem hbegan
  · intro acceptance hmem
    rcases List.mem_cons.mp hmem with rfl | hmem
    · exact ⟨Nat.lt_succ_self tick, le_rfl⟩
    · exact ⟨Nat.lt_succ_of_lt (h.accepted acceptance hmem).1, (hrequest.accepted acceptance hmem).2⟩
  · intro acceptance hmem hunread
    rcases List.mem_cons.mp hmem with rfl | hmem
    · refine ⟨Nat.lt_succ_of_le h.completed_le, ?_⟩
      cases hfailed : track.lastFailed with
      | some failedAt =>
        obtain ⟨due, hdue, hle⟩ := hrequest.backedOff failedAt hfailed
        exact ⟨due, hdue, .inl ⟨failedAt, hfailed, hle⟩⟩
      | none =>
        have hcount : m.failureCount = 0 := h.failed.mpr hfailed
        refine ⟨earlier m.nextDue (acceptedAt + window), ?_,
          .inr ⟨hfailed, .inl (earlier_le_due ..)⟩⟩
        show (if 0 < m.failureCount then _ else _) = _
        rw [hcount]
        rfl
    · exact hrequest.unread acceptance hmem hunread

/-- With a new event while it is read, an observation is settled with two seconds to the next one. -/
theorem settledDue_le {generation : Nat} {plan : ScanPlan ρ} {interval now : Int}
    (h : generation < m.requested) : settledDue generation plan interval now m ≤ now + seconds 2 := by
  unfold settledDue
  simp only
  rw [if_pos h]
  exact min_le_right ..

theorem Tracked.settle {x : Held ρ} (h : Tracked tick m.schedule (some x) track) (plan : ScanPlan ρ)
    (now : Int) :
    Tracked (tick + 1) (m.settle x.scan plan now).schedule (none : Option (Held ρ))
      (track.settle x tick now) := by
  obtain ⟨hle, hafter⟩ := h.scanned x rfl
  have haccepted : ∀ acceptance ∈ track.acceptances, acceptance.tick < tick + 1 ∧
      acceptance.generation ≤ m.schedule.requested :=
    fun acceptance hmem => ⟨Nat.lt_succ_of_lt (h.accepted acceptance hmem).1,
      (h.accepted acceptance hmem).2⟩
  unfold HoldingMonitor.settle Track.settle
  cases x.scan.mode with
  | manual =>
    simp only [schedule_observed]
    exact ⟨h.completed_le, (fun _ h => by cases h), haccepted, h.failed, h.backedOff, h.completed_eq,
      h.unread⟩
  | background =>
    refine ⟨hle, (fun _ h => by cases h), haccepted, iff_of_true rfl rfl, (fun _ h => by cases h), ?_, ?_⟩
    · intro observed hobserved
      cases hobserved
      rfl
    · intro acceptance hmem hunread
      have hlt := hafter acceptance hmem (hunread _ rfl)
      refine ⟨hlt, _, rfl, .inr ⟨rfl, .inr ⟨_, rfl, (h.accepted acceptance hmem).1, ?_⟩⟩⟩
      exact settledDue_le (Nat.lt_of_lt_of_le hlt (h.accepted acceptance hmem).2)

theorem Tracked.fail {x : Held ρ} (h : Tracked tick m.schedule (some x) track) (error : String)
    (now : Int) :
    Tracked (tick + 1) (m.fail x.scan.mode error now).schedule (none : Option (Held ρ))
      (track.fail x.scan.mode now) := by
  have haccepted : ∀ acceptance ∈ track.acceptances, acceptance.tick < tick + 1 ∧
      acceptance.generation ≤ m.schedule.requested :=
    fun acceptance hmem => ⟨Nat.lt_succ_of_lt (h.accepted acceptance hmem).1,
      (h.accepted acceptance hmem).2⟩
  unfold Track.fail
  cases x.scan.mode with
  | manual =>
    exact ⟨h.completed_le, (fun _ h => by cases h), haccepted, h.failed, h.backedOff, h.completed_eq,
      h.unread⟩
  | background =>
    have hdue : now + backoff (m.failureCount + 1) ≤ now + maximumBackoff :=
      Int.add_le_add_left (backoff_le _) now
    refine ⟨h.completed_le, (fun _ h => by cases h), haccepted,
      iff_of_false (Nat.succ_ne_zero _) (fun h => by cases h), ?_, h.completed_eq, ?_⟩
    · intro failedAt hfailed
      cases hfailed
      exact ⟨_, rfl, hdue⟩
    · intro acceptance hmem hunread
      exact ⟨(h.unread acceptance hmem hunread).1, _, rfl, .inl ⟨now, rfl, hdue⟩⟩

/-- Every step keeps the account. -/
theorem Tracked.step (h : Tracked tick m.schedule held track)
    (hstep : ScopeStep tick m held track m' held' track') :
    Tracked (tick + 1) m'.schedule held' track' := by
  have haccepted : ∀ acceptance ∈ track.acceptances, acceptance.tick < tick + 1 ∧
      acceptance.generation ≤ m.schedule.requested :=
    fun acceptance hmem => ⟨Nat.lt_succ_of_lt (h.accepted acceptance hmem).1,
      (h.accepted acceptance hmem).2⟩
  cases hstep with
  | kept hsame hcases =>
    rw [hsame]
    refine ⟨h.completed_le, ?_, haccepted, h.failed, h.backedOff, h.completed_eq, h.unread⟩
    rcases hcases with rfl | rfl
    · exact h.scanned
    · exact fun _ h => by cases h
  | @requested _ _ due =>
    have hrequest := h.request due
    exact ⟨hrequest.completed_le, hrequest.scanned, fun acceptance hmem =>
      ⟨Nat.lt_succ_of_lt (h.accepted acceptance hmem).1, (hrequest.accepted acceptance hmem).2⟩,
      hrequest.failed, hrequest.backedOff, hrequest.completed_eq, hrequest.unread⟩
  | accepted => exact h.accept _ _
  | started hgeneration =>
    refine ⟨h.completed_le, ?_, haccepted, h.failed, h.backedOff, h.completed_eq, h.unread⟩
    intro x hx
    cases hx
    refine ⟨le_of_eq hgeneration, fun acceptance hmem hbegan => ?_⟩
    exact absurd (h.accepted acceptance hmem).1 (Nat.lt_asymm hbegan)
  | settled => exact h.settle _ _
  | failed => exact h.fail _ _

end

/-! ## Runs -/

/-- Every scope is accounted for. -/
def Accounted (s : MonitorState ρ Δ) : Prop :=
  ∀ key m, s.monitor key = some m → Tracked s.tick m.schedule (s.held key) (s.track key)

theorem accounted_step (hs : Accounted s) (h : s.step a = some s') : Accounted s' := by
  intro key m' hm'
  obtain ⟨s₁, hact, rfl⟩ := Option.map_eq_some_iff.mp h
  rcases scopeOutcome_of_act hact key with ⟨m, m₁, hm, hm₁, hstep⟩ | ⟨m₁, hm₁, hfresh, hheld, htrack⟩ |
    ⟨-, hnone⟩
  · have hsame : m₁ = m' := Option.some.inj (hm₁.symm.trans hm')
    exact hsame ▸ (hs key m hm).step hstep
  · have hsame : m₁ = m' := Option.some.inj (hm₁.symm.trans hm')
    subst hsame
    show Tracked _ m₁.schedule (s₁.held key) (s₁.track key)
    rw [hfresh, hheld, htrack]
    exact tracked_fresh _
  · have hsome : s₁.monitor key = some m' := hm'
    rw [hnone] at hsome
    cases hsome

theorem accounted_of_run {others : Δ} {acts : List (Act ρ Δ)}
    (hrun : Machine.run MonitorState.step acts (.start others) = some s) : Accounted s :=
  Machine.run_invariant (fun _ _ _ => accounted_step) hrun fun _ _ h => by cases h

/-! ## Manual scans -/

/-- A step of a manual scan. -/
def Act.Manual (s : MonitorState ρ Δ) : Act ρ Δ → Prop
  | .scan _ mode .. => mode = .manual
  | .settle scopeKey .. => ∃ held, s.held scopeKey = some held ∧ held.scan.mode = .manual
  | .fail scopeKey .. => ∃ held, s.held scopeKey = some held ∧ held.scan.mode = .manual
  | .crash scopeKey => ∃ held, s.held scopeKey = some held ∧ held.scan.mode = .manual
  | _ => False

/-- Manual scans leave the schedules as they are. -/
theorem manual_keeps (hmanual : a.Manual s) (h : s.step a = some s') (key : String) :
    (s'.monitor key).map HoldingMonitor.schedule = (s.monitor key).map HoldingMonitor.schedule := by
  obtain ⟨s₁, hact, rfl⟩ := Option.map_eq_some_iff.mp h
  show (s₁.monitor key).map HoldingMonitor.schedule = _
  cases a with
  | accept | request | configure | initialise | other => cases hmanual
  | scan scopeKey mode settings dueOnly now =>
    unfold MonitorState.act at hact
    simp only at hact
    split at hact
    · cases hact
    · split at hact <;> cases hact <;> rfl
  | settle scopeKey plan body now =>
    obtain ⟨held, hheld, hmode⟩ := hmanual
    unfold MonitorState.act at hact
    simp only [hheld] at hact
    split at hact
    · next tables hsettle =>
      cases hact
      show (tables.monitors.lookup key).map _ = _
      rw [settleHoldingMonitor_ok hsettle, lookup_update_key, Option.map_map]
      refine congrArg (Option.map · _) (funext fun m => ?_)
      show HoldingMonitor.schedule (if _ then _ else _) = _
      split
      · unfold HoldingMonitor.settle
        rw [hmode]
        exact schedule_observed ..
      · rfl
    · cases hact
      rfl
  | fail scopeKey error now =>
    obtain ⟨held, hheld, hmode⟩ := hmanual
    unfold MonitorState.act at hact
    simp only [hheld] at hact
    cases hact
    show ((failHoldingMonitor scopeKey held.scan.mode error now s.db.effects.monitors).lookup key).map _ = _
    unfold failHoldingMonitor
    rw [lookup_update_key, Option.map_map]
    refine congrArg (Option.map · _) (funext fun m => ?_)
    show HoldingMonitor.schedule (if _ then _ else _) = _
    split
    · rw [hmode]
      exact schedule_failManual ..
    · rfl
  | crash scopeKey =>
    cases hact
    rfl

/-! ## No request is lost -/

/-- The events that no successful read covers stay requested and due, after every run. -/
theorem no_request_is_lost (others : Δ) {acts : List (Act ρ Δ)}
    (hrun : Machine.run MonitorState.step acts (.start others) = some s) :
    (∀ key m, s.monitor key = some m →
      m.completed ≤ m.requested ∧
        (∀ observed, (s.track key).lastObserved = some observed → m.completed = observed.generation) ∧
        ∀ acceptance ∈ (s.track key).acceptances, (s.track key).Unread acceptance →
          m.completed < acceptance.generation ∧ acceptance.generation ≤ m.requested ∧
            ∃ due, m.nextDue = some due ∧ (s.track key).InTime acceptance due) ∧
      ∀ a s', a.Manual s → s.step a = some s' → ∀ key,
        (s'.monitor key).map HoldingMonitor.schedule = (s.monitor key).map HoldingMonitor.schedule := by
  refine ⟨fun key m hm => ?_, fun a s' hmanual h key => manual_keeps hmanual h key⟩
  have htracked := accounted_of_run hrun key m hm
  refine ⟨htracked.completed_le, htracked.completed_eq, fun acceptance hmem hunread => ?_⟩
  obtain ⟨hlt, hdue⟩ := htracked.unread acceptance hmem hunread
  exact ⟨hlt, (htracked.accepted acceptance hmem).2, hdue⟩

/-- The settings of a service that observes every minute. -/
def minutely : MonitorSettings := ⟨true, "settings", seconds 60⟩

/-- An event of the holdings table. -/
def changedEvent : Inbox.EventContent :=
  ⟨"drive.file.bitable_record_changed_v1", "base", "table", none, "[]", "digest"⟩

/-- An observation reads for seven seconds, and an event is accepted one second after it began. -/
def acceptedWhileRead : List (Act Unit Unit) :=
  [.initialise "scope" "base" "table" "settings" () false "epoch", .configure "scope" "settings" true,
    .scan "scope" .background minutely true (seconds 2),
    .accept "event" changedEvent (seconds 3) (seconds 3) ⟨true, some (seconds 2)⟩,
    .settle "scope" ⟨(), false⟩ (fun _ others => .ok others) (seconds 9)]

/-- The schedule and the track of the scope after a run. -/
def outcomeOf (acts : List (Act Unit Unit)) : Option (Option Scheduling × Track) :=
  (Machine.run MonitorState.step acts (.start ())).map fun s =>
    ((s.monitor "scope").map HoldingMonitor.schedule, s.track "scope")

/-- The next observation is due two seconds after the settlement, eight after the acceptance. -/
theorem settlement_moves_next_due :
    outcomeOf acceptedWhileRead =
      some (some ⟨1, 0, some (seconds 11), 0⟩,
        ⟨[⟨3, seconds 3, seconds 2, 1⟩], some ⟨2, 4, seconds 9, 0⟩, none⟩) ∧
      (2 : Nat) < 3 ∧ ¬ seconds 11 ≤ seconds 3 + seconds 2 := by
  refine ⟨?_, by decide, by decide⟩
  decide +kernel

/-- The theorem at this run. -/
theorem no_request_is_lost_acceptedWhileRead :
    ∃ s : MonitorState Unit Unit, Machine.run MonitorState.step acceptedWhileRead (.start ()) = some s ∧
      ∃ m, s.monitor "scope" = some m ∧ m.completed ≤ m.requested := by
  have hrun : ((Machine.run MonitorState.step acceptedWhileRead (.start ())).map fun s =>
      (s.monitor "scope").isSome) = some true := by
    decide +kernel
  obtain ⟨s, hs, hsome⟩ := Option.map_eq_some_iff.mp hrun
  obtain ⟨m, hm⟩ := Option.isSome_iff_exists.mp hsome
  exact ⟨s, hs, m, hm, ((no_request_is_lost () hs).1 "scope" m hm).1⟩

end PortfolioManagement.Schedule
