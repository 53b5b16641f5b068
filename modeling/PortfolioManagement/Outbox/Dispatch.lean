import Mathlib.Logic.Function.Basic
import PortfolioManagement.Lib.Machine
import PortfolioManagement.Outbox.Table

/-!
# Dispatchers over the outbox

`dispatch_pending` claims due receipts and takes them one by one: it starts the send, calls the
renderer, which sends the receipt, and marks the outcome. Any number of dispatchers run beside each
other and beside insertions and operators; each stops where it is when its process does. A step is one
transaction or one call of a renderer, so any delay lies between two steps.

The log records what happens to a receipt, the last event first.
-/

namespace PortfolioManagement.Outbox

open OperationState

/-- What a renderer returns. -/
structure Delivery where
  /-- `success` -/
  success : Bool
  /-- `delivery_state` -/
  deliveryState : Option String
  /-- `message_id` -/
  messageId : Option String
  /-- `error` -/
  error : Option String
deriving DecidableEq

/-- The outcome that is marked; `lower` is `str.lower`. -/
def Delivery.outcome (lower : String → String) (d : Delivery) : ReceiptOutcome :=
  let deliveryState := lower (d.deliveryState.getD "")
  if d.success && deliveryState = "accepted" then .sent
  else if deliveryState = "failed" then .failed
  else .unknown

/-- The delivery of a receipt whose type has no renderer. -/
def Delivery.noRenderer (receiptType : String) : Delivery :=
  ⟨false, some "failed", none, some ("no renderer for " ++ receiptType)⟩

/-- The delivery of a renderer that returned, or raised with a text. -/
def Delivery.of : Except String Delivery → Delivery
  | .ok d => d
  | .error text => ⟨false, some "unknown", none, some text⟩

/-- How far a dispatcher is with the first of its rows. -/
inductive Phase
  /-- its send is to be started -/
  | next
  /-- its send is started and the renderer not called -/
  | started
  /-- the renderer was called -/
  | delivered (d : Delivery)
deriving DecidableEq

/-- A dispatcher: the claimed rows that are not done, and how far it is. -/
structure Dispatcher where
  /-- the rest of `rows` -/
  rows : Receipts
  /-- where in the loop -/
  phase : Phase
deriving DecidableEq

/-- What happens to a receipt. -/
inductive Event
  /-- it is inserted -/
  | enqueued (receiptKey : String)
  /-- the outcome of its send is `failed` -/
  | failed (receiptKey : String)
  /-- an operator decides to retry it -/
  | retried (receiptKey : String)
  /-- its send is started under a claim -/
  | started (receiptKey claimId : String)
  /-- its renderer is called under a claim -/
  | called (receiptKey claimId : String)
deriving DecidableEq

/-- The receipt of an event. -/
def Event.receiptKey : Event → String
  | enqueued key => key
  | failed key => key
  | retried key => key
  | started key _ => key
  | called key _ => key

/-- The event allows the receipt to be sent. -/
def Event.authorises : Event → Bool
  | enqueued _ => true
  | failed _ => true
  | retried _ => true
  | started .. => false
  | called .. => false

/-- The send of the receipt is started. -/
def Event.starts : Event → Bool
  | started .. => true
  | _ => false

/-- The outbox, the dispatchers by their claim ids, and what happened. -/
structure OutboxState where
  /-- the table -/
  outbox : Receipts
  /-- the dispatchers -/
  dispatchers : String → Option Dispatcher
  /-- the events -/
  log : List Event

/-- Before anything is inserted. -/
def OutboxState.empty : OutboxState := ⟨[], fun _ => none, []⟩

/-- A step. -/
inductive Act
  /-- a receipt is inserted -/
  | enqueue (receiptKey receiptType payloadJson : String) (now : Int)
  /-- a dispatcher with a new claim id claims -/
  | claim (claimId : String) (limit : Int) (receiptKey : Option String) (now : Int)
  /-- it starts the send of its first row -/
  | start (claimId : String) (now : Int)
  /-- it calls the renderer, which returns or raises -/
  | send (claimId : String) (result : Except String Delivery)
  /-- it marks the outcome; `raced` when the row was there for the first of the two statements of
  `mark_operation_receipt` -/
  | mark (claimId : String) (raced : Bool) (now : Int)
  /-- an operator decides -/
  | resolve (receiptKey : String) (decision : Decision) (text : String) (now : Int)

/-- The types with a renderer, and `str.lower`. -/
structure OutboxRuntime where
  /-- `receipt_type in renderers` -/
  hasRenderer : String → Bool
  /-- `str.lower` -/
  lower : String → String

namespace OutboxState

variable (rt : OutboxRuntime)

/-- The dispatcher of a claim id. -/
def withDispatcher (s : OutboxState) (claimId : String) (d : Dispatcher) : OutboxState :=
  { s with dispatchers := Function.update s.dispatchers claimId (some d) }

/-- An insertion; one that raises is rolled back. -/
def enqueue (s : OutboxState) (receiptKey receiptType payloadJson : String) (now : Int) : OutboxState :=
  match insertOperationReceipt receiptKey receiptType payloadJson now s.outbox with
  | .ok (true, rows) => { s with outbox := rows, log := .enqueued receiptKey :: s.log }
  | .ok (false, _) => s
  | .error _ => s

/-- The claim at the beginning of `dispatch_pending`. -/
def claim (s : OutboxState) (claimId : String) (limit : Int) (receiptKey : Option String) (now : Int) :
    OutboxState :=
  let claimed := claimDueOperationReceipts limit receiptKey claimId now s.outbox
  { s with
    outbox := claimed.1
    dispatchers := Function.update s.dispatchers claimId (some ⟨claimed.2, .next⟩) }

/-- The start of a send; a dispatcher whose claim is gone stops. -/
def start (s : OutboxState) (claimId : String) (now : Int) : Option OutboxState :=
  match s.dispatchers claimId with
  | some ⟨(key, row) :: rest, .next⟩ =>
    match startOperationReceiptSend key claimId now s.outbox with
    | .ok rows =>
      some { (s.withDispatcher claimId ⟨(key, row) :: rest, .started⟩) with
        outbox := rows
        log := .started key claimId :: s.log }
    | .error _ => some (s.withDispatcher claimId ⟨[], .next⟩)
  | _ => none

/-- The call of the renderer. -/
def send (s : OutboxState) (claimId : String) (result : Except String Delivery) : Option OutboxState :=
  match s.dispatchers claimId with
  | some ⟨(key, row) :: rest, .started⟩ =>
    if rt.hasRenderer row.receiptType then
      some { (s.withDispatcher claimId ⟨(key, row) :: rest, .delivered (.of result)⟩) with
        log := .called key claimId :: s.log }
    else
      some (s.withDispatcher claimId ⟨(key, row) :: rest, .delivered (.noRenderer row.receiptType)⟩)
  | _ => none

/-- The mark of an outcome. When the row is no longer there for the first statement, the dispatcher
stops with `OperationReceiptDispatchStateUnknown`; when it is gone for the second one, it goes on. -/
def mark (s : OutboxState) (claimId : String) (raced : Bool) (now : Int) : Option OutboxState :=
  match s.dispatchers claimId with
  | some ⟨(key, _) :: rest, .delivered d⟩ =>
    match markOperationReceipt key claimId (d.outcome rt.lower) d.messageId d.error now s.outbox with
    | .ok rows =>
      some { (s.withDispatcher claimId ⟨rest, .next⟩) with
        outbox := rows
        log := if d.outcome rt.lower = .failed then .failed key :: s.log else s.log }
    | .error _ => some (s.withDispatcher claimId ⟨if raced then rest else [], .next⟩)
  | _ => none

/-- An operator's decision; one that raises changes nothing. -/
def resolve (s : OutboxState) (receiptKey : String) (decision : Decision) (text : String) (now : Int) :
    OutboxState :=
  match resolveOperationReceipt receiptKey decision text now s.outbox with
  | .ok rows =>
    { s with
      outbox := rows
      log := if decision = .retry then .retried receiptKey :: s.log else s.log }
  | .error _ => s

/-- One step; claim ids are used once. -/
def step (s : OutboxState) : Act → Option OutboxState
  | .enqueue receiptKey receiptType payloadJson now =>
    some (s.enqueue receiptKey receiptType payloadJson now)
  | .claim claimId limit receiptKey now =>
    if (s.dispatchers claimId).isSome then none else some (s.claim claimId limit receiptKey now)
  | .start claimId now => s.start claimId now
  | .send claimId result => s.send rt claimId result
  | .mark claimId raced now => s.mark rt claimId raced now
  | .resolve receiptKey decision text now => some (s.resolve receiptKey decision text now)

end OutboxState

/-! ## What a step does to a receipt -/

/-- What a step does to the row of a receipt, and what it logs about it. -/
inductive RowStep (s : OutboxState) (key : String) :
    Act → Option OperationReceipt → List Event → Option OperationReceipt → Prop
  | kept {a : Act} {r : Option OperationReceipt}
    (hclaim : ∀ claimId limit receiptKey now, a = .claim claimId limit receiptKey now → r = none) :
    RowStep s key a r [] r
  | inserted {receiptType payloadJson : String} {now : Int} :
    RowStep s key (.enqueue key receiptType payloadJson now) none [.enqueued key]
      (some (.fresh receiptType payloadJson now))
  | claimed {claimId : String} {limit : Int} {receiptKey : Option String} {now : Int}
    {r : OperationReceipt} {selected : Bool} (hnew : s.dispatchers claimId = none) :
    RowStep s key (.claim claimId limit receiptKey now) (some r) []
      (some (if selected && (r.expire now).due now then (r.expire now).claim claimId now
        else r.expire now))
  | started {claimId : String} {now : Int} {r : OperationReceipt} (hstatus : r.status = .claimed)
    (hclaim : r.claimId = some claimId) :
    RowStep s key (.start claimId now) (some r) [.started key claimId]
      (some { r with status := .sending, sendStartedAt := some now, updatedAt := now })
  | called {claimId : String} {result : Except String Delivery} {r : Option OperationReceipt} :
    RowStep s key (.send claimId result) r [.called key claimId] r
  | marked {claimId : String} {raced : Bool} {now : Int} {r : OperationReceipt}
    {outcome : ReceiptOutcome} {messageId error : Option String} (hstatus : r.status = .sending)
    (hclaim : r.claimId = some claimId) :
    RowStep s key (.mark claimId raced now) (some r) (if outcome = .failed then [.failed key] else [])
      (some { r with
        status := outcome.status
        attemptCount := r.attemptCount + 1
        nextAttemptAt := now + retryDelay (r.attemptCount + 1)
        claimId := none
        claimedAt := none
        messageId := messageId
        lastError := error
        updatedAt := now })
  | resolved {decision : Decision} {text : String} {now : Int} {r : OperationReceipt}
    (hstatus : r.status = .unknown) :
    RowStep s key (.resolve key decision text now) (some r)
      (if decision = .retry then [.retried key] else [])
      (some { r with
        status := if decision = .retry then .failed else .sent
        nextAttemptAt := now
        lastError := some text
        updatedAt := now })

/-- The events about a receipt. -/
def history (key : String) (log : List Event) : List Event := log.filter fun e => e.receiptKey = key

theorem history_append (key : String) (log log' : List Event) :
    history key (log ++ log') = history key log ++ history key log' := List.filter_append ..

theorem history_cons_self {key : String} {e : Event} (h : e.receiptKey = key) (log : List Event) :
    history key (e :: log) = e :: history key log := List.filter_cons_of_pos (decide_eq_true h)

theorem history_cons_ne {key : String} {e : Event} (h : e.receiptKey ≠ key) (log : List Event) :
    history key (e :: log) = history key log := List.filter_cons_of_neg (by simpa using h)

variable {rt : OutboxRuntime} {s s' : OutboxState} {a : Act}

/-- Every step does one of these to every receipt. -/
theorem rowStep_of_step (h : s.step rt a = some s') (key : String) :
    ∃ events, history key s'.log = events ++ history key s.log ∧
      RowStep s key a (s.outbox.lookup key) events (s'.outbox.lookup key) := by
  cases a with
  | enqueue receiptKey receiptType payloadJson now =>
    cases h
    show ∃ events, history key (s.enqueue receiptKey receiptType payloadJson now).log = _ ∧
      RowStep s key _ _ events ((s.enqueue receiptKey receiptType payloadJson now).outbox.lookup key)
    unfold OutboxState.enqueue
    cases hinsert : insertOperationReceipt receiptKey receiptType payloadJson now s.outbox with
    | error e => exact ⟨[], rfl, .kept fun _ _ _ _ h => Act.noConfusion h⟩
    | ok result =>
      obtain ⟨inserted, rows⟩ := result
      rcases lookup_insert hinsert with ⟨rfl, rfl⟩ | ⟨rfl, hnone, -, hlookup⟩
      · exact ⟨[], rfl, .kept fun _ _ _ _ h => Act.noConfusion h⟩
      · by_cases hkey : receiptKey = key
        · subst hkey
          refine ⟨[.enqueued receiptKey], history_cons_self rfl _, ?_⟩
          show RowStep s receiptKey _ _ _ (rows.lookup receiptKey)
          rw [hnone, hlookup, if_pos rfl]
          exact .inserted
        · refine ⟨[], history_cons_ne (e := .enqueued receiptKey) hkey _, ?_⟩
          show RowStep s key _ _ _ (rows.lookup key)
          rw [hlookup, if_neg hkey]
          exact .kept fun _ _ _ _ h => Act.noConfusion h
  | claim claimId limit receiptKey now =>
    unfold OutboxState.step at h
    simp only at h
    split at h
    · cases h
    · next hnew =>
      cases h
      refine ⟨[], rfl, ?_⟩
      obtain ⟨selected, hlookup⟩ := lookup_claimDue s.outbox claimId now limit receiptKey key
      show RowStep s key _ _ _ ((claimDueOperationReceipts limit receiptKey claimId now s.outbox).1.lookup
        key)
      rw [hlookup]
      cases hrow : s.outbox.lookup key with
      | none => exact .kept fun _ _ _ _ _ => rfl
      | some r =>
        have hnew : s.dispatchers claimId = none := by simpa using hnew
        exact .claimed hnew
  | start claimId now =>
    unfold OutboxState.step OutboxState.start at h
    simp only at h
    split at h
    · next receiptKey row rest hdispatcher =>
      cases hstart : startOperationReceiptSend receiptKey claimId now s.outbox with
      | error e =>
        rw [hstart] at h
        cases h
        exact ⟨[], rfl, .kept fun _ _ _ _ h => Act.noConfusion h⟩
      | ok rows =>
        rw [hstart] at h
        cases h
        obtain ⟨⟨r, hr, hstatus, hclaim, hrow⟩, hother⟩ := lookup_updateHeld hstart
        by_cases hkey : receiptKey = key
        · subst hkey
          refine ⟨[.started receiptKey claimId], history_cons_self rfl _, ?_⟩
          show RowStep s receiptKey _ _ _ (rows.lookup receiptKey)
          rw [hr, hrow]
          exact .started hstatus hclaim
        · refine ⟨[], history_cons_ne (e := .started receiptKey claimId) hkey _, ?_⟩
          show RowStep s key _ _ _ (rows.lookup key)
          rw [hother key (Ne.symm hkey)]
          exact .kept fun _ _ _ _ h => Act.noConfusion h
    · cases h
  | send claimId result =>
    unfold OutboxState.step OutboxState.send at h
    simp only at h
    split at h
    · next receiptKey row rest hdispatcher =>
      split at h
      · cases h
        by_cases hkey : receiptKey = key
        · subst hkey
          exact ⟨[.called receiptKey claimId], history_cons_self rfl _, .called⟩
        · exact ⟨[], history_cons_ne (e := .called receiptKey claimId) hkey _, .kept fun _ _ _ _ h => Act.noConfusion h⟩
      · cases h
        exact ⟨[], rfl, .kept fun _ _ _ _ h => Act.noConfusion h⟩
    · cases h
  | mark claimId raced now =>
    unfold OutboxState.step OutboxState.mark at h
    simp only at h
    split at h
    · next receiptKey row rest d hdispatcher =>
      cases hmark : markOperationReceipt receiptKey claimId (d.outcome rt.lower) d.messageId d.error now
          s.outbox with
      | error e =>
        rw [hmark] at h
        cases h
        exact ⟨[], rfl, .kept fun _ _ _ _ h => Act.noConfusion h⟩
      | ok rows =>
        rw [hmark] at h
        cases h
        obtain ⟨⟨r, hr, hstatus, hclaim, hrow⟩, hother⟩ := lookup_updateHeld hmark
        by_cases hkey : receiptKey = key
        · subst hkey
          refine ⟨if d.outcome rt.lower = .failed then [.failed receiptKey] else [], ?_, ?_⟩
          · show history receiptKey (if _ then _ else _) = _
            split
            · exact history_cons_self rfl _
            · rfl
          · show RowStep s receiptKey _ _ _ (rows.lookup receiptKey)
            rw [hr, hrow]
            exact .marked hstatus hclaim
        · refine ⟨[], ?_, ?_⟩
          · show history key (if _ then _ else _) = _
            split
            · exact history_cons_ne (e := .failed receiptKey) hkey _
            · rfl
          · show RowStep s key _ _ _ (rows.lookup key)
            rw [hother key (Ne.symm hkey)]
            exact .kept fun _ _ _ _ h => Act.noConfusion h
    · cases h
  | resolve receiptKey decision text now =>
    cases h
    show ∃ events, history key (s.resolve receiptKey decision text now).log = _ ∧
      RowStep s key _ _ events ((s.resolve receiptKey decision text now).outbox.lookup key)
    unfold OutboxState.resolve
    cases hresolve : resolveOperationReceipt receiptKey decision text now s.outbox with
    | error e => exact ⟨[], rfl, .kept fun _ _ _ _ h => Act.noConfusion h⟩
    | ok rows =>
      obtain ⟨⟨r, hr, hstatus, hrow⟩, hother⟩ := lookup_resolve hresolve
      by_cases hkey : receiptKey = key
      · subst hkey
        refine ⟨if decision = .retry then [.retried receiptKey] else [], ?_, ?_⟩
        · show history receiptKey (if _ then _ else _) = _
          split
          · exact history_cons_self rfl _
          · rfl
        · show RowStep s receiptKey _ _ _ (rows.lookup receiptKey)
          rw [hr, hrow]
          exact .resolved hstatus
      · refine ⟨[], ?_, ?_⟩
        · show history key (if _ then _ else _) = _
          split
          · exact history_cons_ne (e := .retried receiptKey) hkey _
          · rfl
        · show RowStep s key _ _ _ (rows.lookup key)
          rw [hother key (Ne.symm hkey)]
          exact .kept fun _ _ _ _ h => Act.noConfusion h

/-- A claim id keeps its dispatcher. -/
theorem dispatcher_stays (h : s.step rt a = some s') {claimId : String}
    (hsome : (s.dispatchers claimId).isSome = true) : (s'.dispatchers claimId).isSome = true := by
  have hupdate : ∀ (c : String) (d : Dispatcher),
      (Function.update s.dispatchers c (some d) claimId).isSome = true := by
    intro c d
    by_cases hc : claimId = c
    · subst hc
      rw [Function.update_self]
      rfl
    · rw [Function.update_of_ne hc]
      exact hsome
  cases a with
  | enqueue receiptKey receiptType payloadJson now =>
    cases h
    show ((s.enqueue receiptKey receiptType payloadJson now).dispatchers claimId).isSome = true
    unfold OutboxState.enqueue
    split <;> exact hsome
  | claim c limit receiptKey now =>
    unfold OutboxState.step at h
    simp only at h
    split at h
    · cases h
    · cases h
      exact hupdate ..
  | start c now =>
    unfold OutboxState.step OutboxState.start at h
    simp only at h
    split at h
    · split at h <;> cases h <;> exact hupdate ..
    · cases h
  | send c result =>
    unfold OutboxState.step OutboxState.send at h
    simp only at h
    split at h
    · split at h <;> cases h <;> exact hupdate ..
    · cases h
  | mark c raced now =>
    unfold OutboxState.step OutboxState.mark at h
    simp only at h
    split at h
    · split at h <;> cases h <;> exact hupdate ..
    · cases h
  | resolve receiptKey decision text now =>
    cases h
    show ((s.resolve receiptKey decision text now).dispatchers claimId).isSome = true
    unfold OutboxState.resolve
    split <;> exact hsome

end PortfolioManagement.Outbox
