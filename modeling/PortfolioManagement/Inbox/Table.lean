import PortfolioManagement.Outbox.Table

/-!
# The two event inboxes

Events of the holdings table and of the cash flow table are accepted into an inbox each, claimed by
workers and completed together with what they cause. The two inboxes do the same; they differ in their
texts, in what accepting an event does besides, and in that the last failure of a cash flow event
processes it.

What an event causes (cases, closures, receipts) is written by a body that runs in the transaction of
the completion; `effects` is the rest of the database it works on. Nothing is assumed about it.
-/

namespace PortfolioManagement.Inbox

open OperationState

/-- `state`. -/
inductive EventState
  | pending | claimed | failedRetryable | processed
deriving DecidableEq

/-- The columns that say what an event is. -/
structure EventContent where
  /-- `event_type` -/
  eventType : String
  /-- `file_token` -/
  fileToken : String
  /-- `table_id` -/
  tableId : String
  /-- `revision` -/
  revision : Option String
  /-- `action_list_json` -/
  actionListJson : String
  /-- `payload_digest` -/
  payloadDigest : String
deriving DecidableEq

/-- A row of an inbox, without its event id. -/
structure InboxEvent where
  /-- what the event is -/
  content : EventContent
  /-- `state` -/
  state : EventState
  /-- `attempt_count` -/
  attemptCount : Nat
  /-- `next_attempt_at` -/
  nextAttemptAt : Int
  /-- `claim_id` -/
  claimId : Option String
  /-- `claimed_at` -/
  claimedAt : Option Int
  /-- `outcome_json` -/
  outcomeJson : Option String
  /-- `last_error` -/
  lastError : Option String
  /-- `received_at` -/
  receivedAt : Int
  /-- `updated_at` -/
  updatedAt : Int
deriving DecidableEq

/-- The events, by `event_id`. -/
abbrev Events := Items String InboxEvent

/-- The database: an inbox and the rest. -/
structure Database (Δ : Type) where
  /-- the inbox -/
  inbox : Events
  /-- the other tables -/
  effects : Δ

/-- What a transaction does to the other tables, with the text of the outcome. -/
abbrev Body (Δ : Type) := Δ → Except String (Δ × String)

/-- What differs between the inboxes. -/
structure InboxKind (Δ : Type) where
  /-- the name in the error texts -/
  name : String
  /-- what accepting a new event does to the other tables -/
  onAccept : EventContent → Int → Δ → Δ

variable {Δ : Type} (kind : InboxKind Δ)

/-! ## Accepting -/

/-- An event as it is inserted. -/
def InboxEvent.fresh (content : EventContent) (now : Int) : InboxEvent where
  content := content
  state := .pending
  attemptCount := 0
  nextAttemptAt := now
  claimId := none
  claimedAt := none
  outcomeJson := none
  lastError := none
  receivedAt := now
  updatedAt := now

/-- The acceptance of an event: whether it is new, and the database. -/
def acceptEvent (eventId : String) (content : EventContent) (now : Int) (db : Database Δ) :
    Except String (Bool × Database Δ) :=
  match db.inbox.lookup eventId with
  | none => .ok (true, ⟨db.inbox ++ [(eventId, .fresh content now)], kind.onAccept content now db.effects⟩)
  | some existing =>
    if existing.content = content then .ok (false, db)
    else .error (kind.name ++ " event id collision with different payload: " ++ eventId)

/-! ## Claiming -/

/-- A claim older than the lease is taken back. -/
def InboxEvent.expire (now : Int) (e : InboxEvent) : InboxEvent :=
  if e.state = .claimed ∧ atOrBefore e.claimedAt (now - minutes claimLeaseMinutes) then
    { e with
      state := .failedRetryable
      claimId := none
      claimedAt := none
      lastError := coalesce e.lastError "worker claim expired"
      nextAttemptAt := now
      updatedAt := now }
  else e

/-- `state IN ('pending', 'failed_retryable') AND next_attempt_at <= ?`. -/
def InboxEvent.due (now : Int) (e : InboxEvent) : Bool :=
  (e.state = .pending || e.state = .failedRetryable) && e.nextAttemptAt ≤ now

/-- The due events, the oldest first. -/
def dueEvents (now limit : Int) (inbox : Events) : Events :=
  limited limit ((inbox.filter fun row => row.2.due now).insertionSort fun row row' =>
    row.2.receivedAt ≤ row'.2.receivedAt)

/-- A claimed event. -/
def InboxEvent.claim (claimId : String) (now : Int) (e : InboxEvent) : InboxEvent :=
  { e with state := .claimed, claimId := some claimId, claimedAt := some now, updatedAt := now }

/-- The claim of due events: the inbox afterwards and the claimed ones. The update of each selected
event is made of all of them at once. -/
def claimEvents (limit : Int) (claimId : String) (now : Int) (inbox : Events) : Events × Events :=
  let expired := inbox.updateWhere (fun _ _ => true) (InboxEvent.expire now)
  let selected := dueEvents now limit expired
  (expired.updateWhere (fun eventId e => decide (eventId ∈ selected.map Prod.fst) && e.due now)
      (InboxEvent.claim claimId now),
    selected.map fun row => (row.1, row.2.claim claimId now))

/-! ## Completing and failing -/

/-- `state = 'claimed' AND claim_id = ?`. -/
def InboxEvent.heldBy (claimId : String) (e : InboxEvent) : Bool :=
  e.state = .claimed && e.claimId = some claimId

/-- An event that is processed. -/
def InboxEvent.done (outcome : String) (error : Option String) (now : Int) (e : InboxEvent) :
    InboxEvent :=
  { e with
    state := .processed
    outcomeJson := some outcome
    claimId := none
    claimedAt := none
    lastError := error
    updatedAt := now }

/-- `WHERE event_id = ? AND state = 'claimed' AND claim_id = ?`. -/
def heldRow (eventId claimId : String) (key : String) (e : InboxEvent) : Bool :=
  key = eventId && e.heldBy claimId

/-- The completion of a claimed event together with what it causes. -/
def completeEvent (eventId claimId : String) (body : Body Δ) (now : Int) (db : Database Δ) :
    Except String (Database Δ) :=
  match db.inbox.lookup eventId with
  | some e =>
    if e.heldBy claimId then
      match body db.effects with
      | .ok (effects, outcome) =>
        .ok ⟨db.inbox.updateWhere (heldRow eventId claimId) (InboxEvent.done outcome none now), effects⟩
      | .error error => .error error
    else .error (kind.name ++ " event claim not found: " ++ eventId)
  | none => .error (kind.name ++ " event claim not found: " ++ eventId)

/-- An event that is tried again. -/
def InboxEvent.retry (error : String) (now : Int) (e : InboxEvent) : InboxEvent :=
  { e with
    state := .failedRetryable
    attemptCount := e.attemptCount + 1
    nextAttemptAt := now + retryDelay (e.attemptCount + 1)
    claimId := none
    claimedAt := none
    lastError := some error
    updatedAt := now }

/-- The failure of a claimed event: the attempt that reaches a positive maximum is the last one and
processes the event with what its body causes. -/
def failEvent (eventId claimId error : String) (maxAttempts : Int) (terminal : Nat → Body Δ) (now : Int)
    (db : Database Δ) : Except String (Database Δ) :=
  match db.inbox.lookup eventId with
  | some e =>
    if e.heldBy claimId then
      if maxAttempts ≠ 0 ∧ maxAttempts ≤ e.attemptCount + 1 then
        match terminal (e.attemptCount + 1) db.effects with
        | .ok (effects, outcome) =>
          .ok ⟨db.inbox.updateWhere (heldRow eventId claimId) fun held =>
            { held.done outcome (some error) now with attemptCount := e.attemptCount + 1 }, effects⟩
        | .error error => .error error
      else
        .ok ⟨db.inbox.updateWhere (heldRow eventId claimId) (InboxEvent.retry error now), db.effects⟩
    else .error (kind.name ++ " event claim not found: " ++ eventId)
  | none => .error (kind.name ++ " event claim not found: " ++ eventId)

/-! ## The holdings inbox -/

section
variable {Δ : Type}

/-- The holdings inbox; accepting a new event requests the monitor of its table. -/
def holdingInbox (requestMonitor : String → String → Int → Δ → Δ) : InboxKind Δ where
  name := "holding"
  onAccept content now := requestMonitor content.fileToken content.tableId now

variable (requestMonitor : String → String → Int → Δ → Δ)

/-- `accept_holding_event`. -/
def acceptHoldingEvent : String → EventContent → Int → Database Δ → Except String (Bool × Database Δ) :=
  acceptEvent (holdingInbox requestMonitor)

/-- `complete_holding_event`; the body materialises the cases and closes those that are absent. -/
def completeHoldingEvent : String → String → Body Δ → Int → Database Δ → Except String (Database Δ) :=
  completeEvent (holdingInbox requestMonitor)

/-- `mark_holding_event_processed`. -/
def markHoldingEventProcessed (eventId claimId outcome : String) (now : Int) (db : Database Δ) :
    Except String (Database Δ) :=
  completeEvent (holdingInbox requestMonitor) eventId claimId (fun effects => .ok (effects, outcome)) now
    db

/-- `mark_holding_event_failed`. -/
def markHoldingEventFailed (eventId claimId error : String) (now : Int) (db : Database Δ) :
    Except String (Database Δ) :=
  failEvent (holdingInbox requestMonitor) eventId claimId error 0 (fun _ effects => .ok (effects, "")) now
    db

end

/-! ## The cash flow inbox -/

/-- The cash flow inbox. -/
def cashFlowInbox : InboxKind Outbox.Receipts where
  name := "cash flow"
  onAccept _ _ := id

/-- A receipt to be inserted: its key, type and payload. -/
abbrev NewReceipt := String × String × String

/-- The receipts of an event, with the keys of those that are new. -/
def insertReceipts (now : Int) :
    List NewReceipt → Outbox.Receipts → Except String (Outbox.Receipts × List String)
  | [], rows => .ok (rows, [])
  | (key, receiptType, payload) :: rest, rows => do
    let (inserted, rows) ← Outbox.insertOperationReceipt key receiptType payload now rows
    let (rows, keys) ← insertReceipts now rest rows
    return (rows, if inserted then key :: keys else keys)

/-- `accept_cash_flow_event`. -/
def acceptCashFlowEvent : String → EventContent → Int → Database Outbox.Receipts →
    Except String (Bool × Database Outbox.Receipts) :=
  acceptEvent cashFlowInbox

/-- `complete_cash_flow_event`; `text` writes out the outcome with the receipt keys. -/
def completeCashFlowEvent (eventId claimId : String) (receipts : List NewReceipt)
    (text : List String → List String → String) (now : Int) (db : Database Outbox.Receipts) :
    Except String (Database Outbox.Receipts) :=
  completeEvent cashFlowInbox eventId claimId (fun rows => do
    let (rows, enqueued) ← insertReceipts now receipts rows
    return (rows, text (receipts.map Prod.fst) enqueued)) now db

/-- `mark_cash_flow_event_failed`. -/
def markCashFlowEventFailed (eventId claimId error : String) (maxAttempts : Int)
    (terminalReceipts : List NewReceipt) (text : Nat → List String → List String → String) (now : Int)
    (db : Database Outbox.Receipts) : Except String (Database Outbox.Receipts) :=
  failEvent cashFlowInbox eventId claimId error maxAttempts (fun attempt rows =>
    if terminalReceipts = [] then
      .error "terminal cash flow event failure requires an attention receipt"
    else do
      let (rows, enqueued) ← insertReceipts now terminalReceipts rows
      return (rows, text attempt (terminalReceipts.map Prod.fst) enqueued)) now db

end PortfolioManagement.Inbox
