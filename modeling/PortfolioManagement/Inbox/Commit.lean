import PortfolioManagement.Inbox.Once

/-!
# Commits and the next attempt

What an event causes is written by its commit alone (`Together`): the body of the transaction, the
processed mark and its outcome are of one transaction of the claim that holds the event. An event that
is not processed can be claimed from a time its row tells (`ClaimableFrom`).
-/

namespace PortfolioManagement.Inbox

open OperationState

variable {Δ : Type} {kind : InboxKind Δ} {s s' : InboxState Δ} {a : Act Δ}

/-! ## Commits -/

/-- A delivery, or a transaction of another part. -/
def Act.Outside : Act Δ → Prop
  | .accept .. | .other _ => True
  | _ => False

/-- A step commits nothing, and a worker's step then writes nothing but the inbox; or it commits one
event under the claim that holds it, and the processed mark, the outcome and what the body of the
transaction writes are committed together. -/
def Together (s : InboxState Δ) (a : Act Δ) (s' : InboxState Δ) : Prop :=
  (s'.commits = s.commits ∧ (¬ a.Outside → s'.db.effects = s.db.effects)) ∨
    ∃ claimId key e e' body outcome, a.work = some (claimId, key) ∧
      s.db.inbox.lookup key = some e ∧ e.heldBy claimId = true ∧ a.body e = some body ∧
      body s.db.effects = .ok (s'.db.effects, outcome) ∧ s'.db.inbox.lookup key = some e' ∧
      e'.state = .processed ∧ e'.outcomeJson = some outcome ∧ s'.commits = (key, claimId) :: s.commits

theorem together_step (h : s.step kind a = some s') : Together s a s' := by
  cases a with
  | accept eventId content now =>
    unfold InboxState.step at h
    simp only at h
    split at h <;> cases h <;> exact .inl ⟨rfl, fun hout => absurd trivial hout⟩
  | claim claimId limit now =>
    unfold InboxState.step at h
    simp only at h
    split at h
    · cases h
    · cases h
      exact .inl ⟨rfl, fun _ => rfl⟩
  | complete claimId eventId body now =>
    unfold InboxState.step at h
    simp only at h
    split at h
    · next db hcomplete =>
      cases h
      obtain ⟨e, effects, outcome, he, hheld, hbody, heffects, hinbox⟩ := completeEvent_ok hcomplete
      refine .inr ⟨claimId, eventId, e, e.done outcome none now, body, outcome, rfl, he, hheld, rfl, ?_,
        ?_, rfl, rfl, rfl⟩
      · exact heffects ▸ hbody
      · show db.inbox.lookup eventId = _
        rw [hinbox, lookup_held, he, Option.map_some, if_pos ⟨rfl, hheld⟩]
    · cases h
      exact .inl ⟨rfl, fun _ => rfl⟩
  | fail claimId eventId error maxAttempts terminal now =>
    unfold InboxState.step at h
    simp only at h
    split at h
    · next db hfail =>
      cases h
      obtain ⟨e, he, hheld, ⟨hmax, hle, effects, outcome, hbody, heffects, hinbox⟩ |
        ⟨-, heffects, hinbox⟩⟩ := failEvent_ok hfail
      · have hrow : db.inbox.lookup eventId =
            some { e.done outcome (some error) now with attemptCount := e.attemptCount + 1 } := by
          rw [hinbox, lookup_held, he, Option.map_some, if_pos ⟨rfl, hheld⟩]
        refine .inr ⟨claimId, eventId, e, _, terminal (e.attemptCount + 1), outcome, rfl, he, hheld,
          if_pos ⟨hmax, hle⟩, heffects ▸ hbody, hrow, rfl, rfl, ?_⟩
        exact if_pos (processed_eq hrow)
      · have hrow : db.inbox.lookup eventId = some (e.retry error now) := by
          rw [hinbox, lookup_held, he, Option.map_some, if_pos ⟨rfl, hheld⟩]
        refine .inl ⟨if_neg ?_, fun _ => heffects⟩
        rw [processed_eq hrow]
        exact Bool.false_ne_true
    · cases h
      exact .inl ⟨rfl, fun _ => rfl⟩
  | other change =>
    cases h
    exact .inl ⟨rfl, fun hout => absurd trivial hout⟩

/-! ## Deliveries -/

/-- A redelivery changes nothing; with another content it raises. -/
theorem acceptEvent_again {db : Database Δ} {key : String} {e : InboxEvent}
    (he : db.inbox.lookup key = some e) (content : EventContent) (now : Int) :
    acceptEvent kind key content now db =
      if content = e.content then .ok (false, db)
      else .error (kind.name ++ " event id collision with different payload: " ++ key) := by
  unfold acceptEvent
  rw [he]
  simp only [eq_comm]

/-! ## The next attempt -/

/-- The time from which an event can be claimed: its next attempt, or the end of the lease it is
under. -/
def InboxEvent.ClaimableFrom (e : InboxEvent) (t : Int) : Prop :=
  ((e.state = .pending ∨ e.state = .failedRetryable) ∧ t = e.nextAttemptAt) ∨
    (e.state = .claimed ∧ ∃ claimedAt, e.claimedAt = some claimedAt ∧
      t = claimedAt + minutes claimLeaseMinutes)

theorem claimable_of_claimSet {used : List String} {e : InboxEvent} (h : e.ClaimSet used)
    (hopen : e.state ≠ .processed) : ∃ t, e.ClaimableFrom t := by
  cases hstate : e.state with
  | pending => exact ⟨e.nextAttemptAt, .inl ⟨.inl hstate, rfl⟩⟩
  | failedRetryable => exact ⟨e.nextAttemptAt, .inl ⟨.inr hstate, rfl⟩⟩
  | claimed =>
    obtain ⟨claimId, claimedAt, -, -, hat⟩ := h hstate
    exact ⟨_, .inr ⟨hstate, claimedAt, hat, rfl⟩⟩
  | processed => exact absurd hstate hopen

/-- From then on the event is due to every claim transaction. -/
theorem due_of_claimable {e : InboxEvent} {t now : Int} (h : e.ClaimableFrom t) (hnow : t ≤ now) :
    (e.expire now).due now = true := by
  rcases h with ⟨hstate, rfl⟩ | ⟨hstate, claimedAt, hat, rfl⟩
  · have hsame : e.expire now = e := by
      rcases expire_cases e now with hsame | ⟨hclaimed, -⟩
      · exact hsame
      · rw [hclaimed] at hstate
        rcases hstate with hstate | hstate <;> cases hstate
    rw [hsame]
    unfold InboxEvent.due
    simp only [Bool.and_eq_true, Bool.or_eq_true, decide_eq_true_eq]
    exact ⟨hstate, hnow⟩
  · have hexpired : atOrBefore e.claimedAt (now - minutes claimLeaseMinutes) = true := by
      rw [hat]
      unfold atOrBefore
      simp only [decide_eq_true_eq]
      omega
    unfold InboxEvent.due InboxEvent.expire
    rw [if_pos ⟨hstate, hexpired⟩]
    simp

/-- The events that are due to a claim transaction. -/
def dueCount (now : Int) (inbox : Events) : Nat :=
  ((inbox.updateWhere (fun _ _ => true) (InboxEvent.expire now)).filter fun row => row.2.due now).length

/-- A claim transaction with room for the due events takes each of them. -/
theorem claimEvents_takes {inbox : Events} {key : String} {e : InboxEvent} {limit now : Int}
    (he : inbox.lookup key = some e) (hdue : (e.expire now).due now = true)
    (hlimit : limit < 0 ∨ (dueCount now inbox : Int) ≤ limit) (claimId : String) :
    (claimEvents limit claimId now inbox).1.lookup key = some ((e.expire now).claim claimId now) ∧
      (key, (e.expire now).claim claimId now) ∈ (claimEvents limit claimId now inbox).2 := by
  have hrow : (key, e.expire now) ∈ inbox.updateWhere (fun _ _ => true) (InboxEvent.expire now) := by
    refine Items.mem_of_lookup ?_
    rw [Items.lookup_updateWhere, he]
    rfl
  have hselected : (key, e.expire now) ∈
      dueEvents now limit (inbox.updateWhere (fun _ _ => true) (InboxEvent.expire now)) := by
    have hsorted := (List.mem_insertionSort (fun row row' : String × InboxEvent =>
      row.2.receivedAt ≤ row'.2.receivedAt)).mpr
        (List.mem_filter (p := fun row => row.2.due now).mpr ⟨hrow, hdue⟩)
    unfold dueEvents limited
    rcases hlimit with hnone | hroom
    · rw [if_pos hnone]
      exact hsorted
    · rw [if_neg (by omega), List.take_of_length_le]
      · exact hsorted
      · rw [List.length_insertionSort]
        unfold dueCount at hroom
        omega
  unfold claimEvents
  refine ⟨?_, List.mem_map_of_mem hselected⟩
  rw [Items.lookup_updateWhere, Items.lookup_updateWhere, he]
  have hmem := List.mem_map_of_mem (f := Prod.fst) hselected
  simp only [Option.map_some, if_true]
  rw [if_pos ((Bool.and_eq_true _ _).mpr ⟨decide_eq_true hmem, hdue⟩)]

/-! ## Exactly once -/

/-- An event of the cash flow table. -/
def editedEvent : EventContent :=
  ⟨"drive.file.bitable_record_changed_v1", "file", "table", some "7", "[]", "digest"⟩

/-- Two workers claim an event one after the other, because the lease of the first is over. -/
def twoClaims : List (Act Outbox.Receipts) :=
  [.accept "event" editedEvent 0, .claim "one" 100 0, .claim "two" 100 (minutes 6)]

/-- Both complete it. -/
def bothComplete : List (Act Outbox.Receipts) :=
  [.complete "one" "event" (fun rows => .ok (rows, "first")) (minutes 6),
    .complete "two" "event" (fun rows => .ok (rows, "second")) (minutes 6)]

end PortfolioManagement.Inbox
