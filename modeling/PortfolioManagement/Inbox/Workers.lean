import PortfolioManagement.Lib.Machine
import PortfolioManagement.Inbox.Table

/-!
# Workers over an inbox

Events are delivered any number of times, and any number of workers claim, complete and fail them and
stop where they are. Each step is one transaction; a transaction that raises is rolled back. Other
transactions may change the other tables between any two steps.

An event is committed when a transaction of its claim holder processes it and writes what it causes.
An event is committed once at most, because it is processed from then on (`CommittedOnce`), and only
under the claim that holds it: a claim that was taken back never comes back (`Gone`).
-/

namespace PortfolioManagement.Inbox

open OperationState

variable {Δ : Type}

/-- The database, the claim ids that were used, and the commits: event ids with claim ids, the last one
first. -/
structure InboxState (Δ : Type) where
  /-- the database -/
  db : Database Δ
  /-- the claim ids -/
  used : List String
  /-- the commits -/
  commits : List (String × String)

/-- An empty inbox. -/
def InboxState.start (effects : Δ) : InboxState Δ := ⟨⟨[], effects⟩, [], []⟩

/-- A step. -/
inductive Act (Δ : Type)
  /-- an event is delivered -/
  | accept (eventId : String) (content : EventContent) (now : Int)
  /-- a worker with a new claim id claims -/
  | claim (claimId : String) (limit now : Int)
  /-- a worker completes an event -/
  | complete (claimId eventId : String) (body : Body Δ) (now : Int)
  /-- a worker fails an event -/
  | fail (claimId eventId error : String) (maxAttempts : Int) (terminal : Nat → Body Δ) (now : Int)
  /-- another transaction changes the other tables -/
  | other (change : Δ → Δ)

namespace InboxState

/-- The event is processed. -/
def processed (db : Database Δ) (eventId : String) : Bool :=
  (db.inbox.lookup eventId).any fun e => e.state = .processed

/-- One step; claim ids are used once. -/
def step (kind : InboxKind Δ) (s : InboxState Δ) : Act Δ → Option (InboxState Δ)
  | .accept eventId content now =>
    match acceptEvent kind eventId content now s.db with
    | .ok (_, db) => some { s with db := db }
    | .error _ => some s
  | .claim claimId limit now =>
    if claimId ∈ s.used then none
    else some { s with
      db := { s.db with inbox := (claimEvents limit claimId now s.db.inbox).1 }
      used := claimId :: s.used }
  | .complete claimId eventId body now =>
    match completeEvent kind eventId claimId body now s.db with
    | .ok db => some { s with db := db, commits := (eventId, claimId) :: s.commits }
    | .error _ => some s
  | .fail claimId eventId error maxAttempts terminal now =>
    match failEvent kind eventId claimId error maxAttempts terminal now s.db with
    | .ok db =>
      some { s with
        db := db
        commits := if processed db eventId then (eventId, claimId) :: s.commits else s.commits }
    | .error _ => some s
  | .other change => some { s with db := { s.db with effects := change s.db.effects } }

end InboxState

/-! ## What the transactions do -/

section
variable {kind : InboxKind Δ} {db db' : Database Δ} {eventId claimId : String} {now : Int}

/-- What a worker's transaction writes besides the inbox: the body of a completion, or of the failure
that is the last one; `none` for a failure that is tried again. -/
def Act.body (e : InboxEvent) : Act Δ → Option (Body Δ)
  | .complete _ _ body _ => some body
  | .fail _ _ _ maxAttempts terminal _ =>
    if maxAttempts ≠ 0 ∧ maxAttempts ≤ e.attemptCount + 1 then some (terminal (e.attemptCount + 1))
    else none
  | _ => none

/-- The claim and the event of a worker's transaction. -/
def Act.work : Act Δ → Option (String × String)
  | .complete claimId eventId _ _ => some (claimId, eventId)
  | .fail claimId eventId _ _ _ _ => some (claimId, eventId)
  | _ => none

theorem lookup_held {f : InboxEvent → InboxEvent} {inbox : Events} (key : String) :
    (inbox.updateWhere (heldRow eventId claimId) f).lookup key =
      (inbox.lookup key).map fun e => if key = eventId ∧ e.heldBy claimId = true then f e else e := by
  rw [Items.lookup_updateWhere]
  congr 1
  funext e
  unfold heldRow
  simp only [Bool.and_eq_true, decide_eq_true_eq]

/-- A completion holds the event, runs its body and processes the event. -/
theorem completeEvent_ok {body : Body Δ} (h : completeEvent kind eventId claimId body now db = .ok db') :
    ∃ e effects outcome, db.inbox.lookup eventId = some e ∧ e.heldBy claimId = true ∧
      body db.effects = .ok (effects, outcome) ∧ db'.effects = effects ∧
      db'.inbox = db.inbox.updateWhere (heldRow eventId claimId) (InboxEvent.done outcome none now) := by
  unfold completeEvent at h
  split at h
  · next e he =>
    split at h
    · next hheld =>
      split at h
      · next effects outcome hbody =>
        cases h
        exact ⟨e, effects, outcome, he, hheld, hbody, rfl, rfl⟩
      · cases h
    · cases h
  · cases h

/-- A failure holds the event, and is tried again or is the last one and processes the event. -/
theorem failEvent_ok {error : String} {maxAttempts : Int} {terminal : Nat → Body Δ}
    (h : failEvent kind eventId claimId error maxAttempts terminal now db = .ok db') :
    ∃ e, db.inbox.lookup eventId = some e ∧ e.heldBy claimId = true ∧
      ((maxAttempts ≠ 0 ∧ maxAttempts ≤ e.attemptCount + 1 ∧ ∃ effects outcome,
          terminal (e.attemptCount + 1) db.effects = .ok (effects, outcome) ∧ db'.effects = effects ∧
          db'.inbox = db.inbox.updateWhere (heldRow eventId claimId) fun held =>
            { held.done outcome (some error) now with attemptCount := e.attemptCount + 1 }) ∨
        (¬ (maxAttempts ≠ 0 ∧ maxAttempts ≤ e.attemptCount + 1) ∧ db'.effects = db.effects ∧
          db'.inbox = db.inbox.updateWhere (heldRow eventId claimId) (InboxEvent.retry error now))) := by
  unfold failEvent at h
  split at h
  · next e he =>
    split at h
    · next hheld =>
      split at h
      · next hlast =>
        split at h
        · next effects outcome hbody =>
          cases h
          exact ⟨e, he, hheld, .inl ⟨hlast.1, hlast.2, effects, outcome, hbody, rfl, rfl⟩⟩
        · cases h
      · next hmore =>
        cases h
        exact ⟨e, he, hheld, .inr ⟨hmore, rfl, rfl⟩⟩
    · cases h
  · cases h

/-- Without the event held by the claim a completion raises. -/
theorem completeEvent_not_held (h : ∀ e, db.inbox.lookup eventId = some e → e.heldBy claimId = false)
    (body : Body Δ) : completeEvent kind eventId claimId body now db =
      .error (kind.name ++ " event claim not found: " ++ eventId) := by
  unfold completeEvent
  cases he : db.inbox.lookup eventId with
  | none => rfl
  | some e => simp [h e he]

/-- Without the event held by the claim a failure raises. -/
theorem failEvent_not_held (h : ∀ e, db.inbox.lookup eventId = some e → e.heldBy claimId = false)
    (error : String) (maxAttempts : Int) (terminal : Nat → Body Δ) :
    failEvent kind eventId claimId error maxAttempts terminal now db =
      .error (kind.name ++ " event claim not found: " ++ eventId) := by
  unfold failEvent
  cases he : db.inbox.lookup eventId with
  | none => rfl
  | some e => simp [h e he]

theorem lookup_claimEvents (inbox : Events) (claimId : String) (now limit : Int) (key : String) :
    ∃ selected : Bool, ((claimEvents limit claimId now inbox).1).lookup key =
      (inbox.lookup key).map fun e =>
        if selected && (e.expire now).due now then (e.expire now).claim claimId now
        else e.expire now := by
  unfold claimEvents
  simp only [Items.lookup_updateWhere, if_true, Option.map_map]
  exact ⟨_, rfl⟩

/-- An expiry takes a claimed event back and changes no other. -/
theorem expire_cases (e : InboxEvent) (now : Int) :
    e.expire now = e ∨
      (e.state = .claimed ∧ (e.expire now).state = .failedRetryable ∧ (e.expire now).claimId = none ∧
        (e.expire now).content = e.content) := by
  unfold InboxEvent.expire
  split
  · next h => exact .inr ⟨h.1, rfl, rfl, rfl⟩
  · exact .inl rfl

theorem not_processed_of_due {e : InboxEvent} (h : e.due now = true) : e.state ≠ .processed := by
  intro hprocessed
  unfold InboxEvent.due at h
  rw [hprocessed] at h
  cases h

theorem heldBy_iff {e : InboxEvent} :
    e.heldBy claimId = true ↔ e.state = .claimed ∧ e.claimId = some claimId := by
  unfold InboxEvent.heldBy
  simp only [Bool.and_eq_true, decide_eq_true_eq]

end

/-! ## What a step does to an event -/

/-- What a step does to the row of an event, and the claims it commits it under. -/
inductive EventStep (s : InboxState Δ) (key : String) :
    Act Δ → Option InboxEvent → List String → Option InboxEvent → Prop
  | kept {a : Act Δ} {e : Option InboxEvent}
    (hclaim : ∀ claimId limit now, a = .claim claimId limit now → e = none) : EventStep s key a e [] e
  | accepted {content : EventContent} {now : Int} :
    EventStep s key (.accept key content now) none [] (some (.fresh content now))
  | claimed {claimId : String} {limit now : Int} {e : InboxEvent} {selected : Bool}
    (hnew : claimId ∉ s.used) :
    EventStep s key (.claim claimId limit now) (some e) []
      (some (if selected && (e.expire now).due now then (e.expire now).claim claimId now
        else e.expire now))
  | committed {a : Act Δ} {claimId outcome : String} {error : Option String} {attemptCount : Nat}
    {now : Int} {e : InboxEvent} (hwork : a.work = some (claimId, key))
    (hheld : e.heldBy claimId = true) :
    EventStep s key a (some e) [claimId]
      (some { e.done outcome error now with attemptCount := attemptCount })
  | retried {claimId error : String} {maxAttempts : Int} {terminal : Nat → Body Δ} {now : Int}
    {e : InboxEvent} (hheld : e.heldBy claimId = true) :
    EventStep s key (.fail claimId key error maxAttempts terminal now) (some e) []
      (some (e.retry error now))

/-- The claims an event was committed under. -/
def commitsOf (key : String) (commits : List (String × String)) : List String :=
  (commits.filter fun commit => commit.1 = key).map Prod.snd

theorem commitsOf_cons_self (key claimId : String) (commits : List (String × String)) :
    commitsOf key ((key, claimId) :: commits) = claimId :: commitsOf key commits := by
  unfold commitsOf
  rw [List.filter_cons_of_pos (by simp), List.map_cons]

theorem commitsOf_cons_ne {key eventId claimId : String} (h : eventId ≠ key)
    (commits : List (String × String)) :
    commitsOf key ((eventId, claimId) :: commits) = commitsOf key commits := by
  unfold commitsOf
  rw [List.filter_cons_of_neg (by simpa using h)]

variable {kind : InboxKind Δ} {s s' : InboxState Δ} {a : Act Δ}

/-- Every step does one of these to every event. -/
theorem eventStep_of_step (h : s.step kind a = some s') (key : String) :
    ∃ commits, commitsOf key s'.commits = commits ++ commitsOf key s.commits ∧
      EventStep s key a (s.db.inbox.lookup key) commits (s'.db.inbox.lookup key) := by
  cases a with
  | accept eventId content now =>
    unfold InboxState.step at h
    simp only at h
    cases haccept : acceptEvent kind eventId content now s.db with
    | error error =>
      rw [haccept] at h
      cases h
      exact ⟨[], rfl, .kept fun _ _ _ h => by cases h⟩
    | ok result =>
      rw [haccept] at h
      cases h
      unfold acceptEvent at haccept
      split at haccept
      · next hnone =>
        cases haccept
        refine ⟨[], rfl, ?_⟩
        show EventStep s key _ _ _ ((s.db.inbox ++ [(eventId, InboxEvent.fresh content now)]).lookup key)
        rw [Items.lookup_append_singleton key eventId _ hnone]
        by_cases hkey : eventId = key
        · subst hkey
          rw [hnone, if_pos rfl]
          exact .accepted
        · rw [if_neg hkey]
          exact .kept fun _ _ _ h => by cases h
      · split at haccept
        · cases haccept
          exact ⟨[], rfl, .kept fun _ _ _ h => by cases h⟩
        · cases haccept
  | claim claimId limit now =>
    unfold InboxState.step at h
    simp only at h
    split at h
    · cases h
    · next hnew =>
      cases h
      refine ⟨[], rfl, ?_⟩
      obtain ⟨selected, hlookup⟩ := lookup_claimEvents s.db.inbox claimId now limit key
      show EventStep s key _ _ _ ((claimEvents limit claimId now s.db.inbox).1.lookup key)
      rw [hlookup]
      cases s.db.inbox.lookup key with
      | none => exact .kept fun _ _ _ _ => rfl
      | some e => exact .claimed hnew
  | complete claimId eventId body now =>
    unfold InboxState.step at h
    simp only at h
    cases hcomplete : completeEvent kind eventId claimId body now s.db with
    | error error =>
      rw [hcomplete] at h
      cases h
      exact ⟨[], rfl, .kept fun _ _ _ h => by cases h⟩
    | ok db =>
      rw [hcomplete] at h
      cases h
      obtain ⟨e, effects, outcome, he, hheld, -, -, hinbox⟩ := completeEvent_ok hcomplete
      by_cases hkey : eventId = key
      · subst hkey
        refine ⟨[claimId], commitsOf_cons_self _ _ _, ?_⟩
        show EventStep s eventId _ _ _ (db.inbox.lookup eventId)
        rw [hinbox, lookup_held, he, Option.map_some, if_pos ⟨rfl, hheld⟩]
        exact .committed rfl hheld
      · refine ⟨[], commitsOf_cons_ne hkey _, ?_⟩
        show EventStep s key _ _ _ (db.inbox.lookup key)
        have hsame : db.inbox.lookup key = s.db.inbox.lookup key := by
          rw [hinbox, lookup_held]
          simp [Ne.symm hkey]
        rw [hsame]
        exact .kept fun _ _ _ h => by cases h
  | fail claimId eventId error maxAttempts terminal now =>
    unfold InboxState.step at h
    simp only at h
    cases hfail : failEvent kind eventId claimId error maxAttempts terminal now s.db with
    | error text =>
      rw [hfail] at h
      cases h
      exact ⟨[], rfl, .kept fun _ _ _ h => by cases h⟩
    | ok db =>
      rw [hfail] at h
      cases h
      obtain ⟨e, he, hheld, hcases⟩ := failEvent_ok hfail
      have hother : ∀ f, db.inbox = s.db.inbox.updateWhere (heldRow eventId claimId) f →
          eventId ≠ key → db.inbox.lookup key = s.db.inbox.lookup key := by
        intro f hinbox hkey
        rw [hinbox, lookup_held]
        simp [Ne.symm hkey]
      rcases hcases with ⟨-, -, effects, outcome, -, -, hinbox⟩ | ⟨-, -, hinbox⟩
      · have hrow : db.inbox.lookup eventId =
            some { e.done outcome (some error) now with attemptCount := e.attemptCount + 1 } := by
          rw [hinbox, lookup_held, he, Option.map_some, if_pos ⟨rfl, hheld⟩]
        have hprocessed : InboxState.processed db eventId = true := by
          unfold InboxState.processed
          rw [hrow]
          rfl
        by_cases hkey : eventId = key
        · subst hkey
          refine ⟨[claimId], ?_, ?_⟩
          · show commitsOf eventId (if _ then _ else _) = _
            rw [if_pos hprocessed]
            exact commitsOf_cons_self _ _ _
          · show EventStep s eventId _ _ _ (db.inbox.lookup eventId)
            rw [hrow, he]
            exact .committed rfl hheld
        · refine ⟨[], ?_, ?_⟩
          · show commitsOf key (if _ then _ else _) = _
            rw [if_pos hprocessed]
            exact commitsOf_cons_ne hkey _
          · show EventStep s key _ _ _ (db.inbox.lookup key)
            rw [hother _ hinbox hkey]
            exact .kept fun _ _ _ h => by cases h
      · have hrow : db.inbox.lookup eventId = some (e.retry error now) := by
          rw [hinbox, lookup_held, he, Option.map_some, if_pos ⟨rfl, hheld⟩]
        have hprocessed : ¬ InboxState.processed db eventId = true := by
          unfold InboxState.processed
          rw [hrow]
          exact Bool.false_ne_true
        refine ⟨[], ?_, ?_⟩
        · show commitsOf key (if _ then _ else _) = _
          rw [if_neg hprocessed]
          rfl
        · show EventStep s key _ _ _ (db.inbox.lookup key)
          by_cases hkey : eventId = key
          · subst hkey
            rw [hrow, he]
            exact .retried hheld
          · rw [hother _ hinbox hkey]
            exact .kept fun _ _ _ h => by cases h
  | other change =>
    cases h
    exact ⟨[], rfl, .kept fun _ _ _ h => by cases h⟩

/-- A used claim id stays used. -/
theorem used_stays (h : s.step kind a = some s') {claimId : String} (hused : claimId ∈ s.used) :
    claimId ∈ s'.used := by
  cases a with
  | accept | complete | fail =>
    unfold InboxState.step at h
    simp only at h
    split at h <;> cases h <;> exact hused
  | claim c limit now =>
    unfold InboxState.step at h
    simp only at h
    split at h
    · cases h
    · cases h
      exact List.mem_cons_of_mem _ hused
  | other change =>
    cases h
    exact hused

end PortfolioManagement.Inbox
