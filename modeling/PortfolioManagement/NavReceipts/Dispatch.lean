import PortfolioManagement.Lib.Machine
import PortfolioManagement.NavReceipts.Table

/-!
# Dispatchers of NAV receipts

`dispatch_pending` claims a batch of due receipts, then sends them one after the other and marks each
outcome; `enqueue_and_dispatch` inserts a receipt and dispatches it alone. Any number of dispatchers
run beside each other. A step is one transaction, or the beginning or the end of a send, so any delay
lies between two steps; a crash stops a dispatcher wherever it is. The deliveries are the sends that
returned success.
-/

namespace PortfolioManagement.NavReceipts

open OperationState

/-- What `sender.send` returns. -/
structure Delivery where
  /-- `success` -/
  success : Bool
  /-- `message_id` -/
  messageId : Option String
  /-- `error` -/
  error : Option String
deriving DecidableEq

/-- The delivery of a send that returned, or raised with a text. -/
def Delivery.of : Except String Delivery → Delivery
  | .ok d => d
  | .error text => ⟨false, none, some text⟩

/-- How far a dispatcher is with the first of its rows. -/
inductive Phase
  /-- its send is to begin -/
  | next
  /-- its send began at a time -/
  | sending (startedAt : Int)
  /-- its send returned, and is to be marked -/
  | delivered (startedAt : Int) (d : Delivery)
deriving DecidableEq

/-- A dispatcher: the claimed rows that are not done, and how far it is. -/
structure Dispatcher where
  /-- the rest of `rows` -/
  rows : Receipts
  /-- where in the loop -/
  phase : Phase
deriving DecidableEq

/-- A dispatcher that does nothing any more. -/
def Dispatcher.stopped : Dispatcher := ⟨[], .next⟩

/-- The receipt it is at. -/
def Dispatcher.current (d : Dispatcher) : Option String := d.rows.head?.map Prod.fst

/-- The receipt it delivered and has not marked. -/
def Dispatcher.unmarked (d : Dispatcher) : Option String :=
  match d.phase with
  | .delivered _ delivery => if delivery.success then d.current else none
  | _ => none

/-- The table, the dispatchers by their claim ids, and the deliveries with the claims they were made
under, the last one first. -/
structure DispatchState where
  /-- the table -/
  receipts : Receipts
  /-- the dispatchers -/
  dispatchers : Items String Dispatcher
  /-- the deliveries -/
  deliveries : List (String × String)
deriving DecidableEq

/-- Before anything is inserted. -/
def DispatchState.empty : DispatchState := ⟨[], [], []⟩

/-- A step. -/
inductive Act
  /-- a receipt is inserted -/
  | enqueue (receiptKey payloadJson : String) (now : Int)
  /-- a dispatcher with a new claim id claims -/
  | claim (claimId : String) (limit : Int) (receiptKey : Option String) (now : Int)
  /-- it calls `send` with its first row -/
  | send (claimId : String) (now : Int)
  /-- the send returns or raises -/
  | deliver (claimId : String) (result : Except String Delivery)
  /-- it marks the outcome; `raced` when the row was there for the first of the two statements of
  `mark_nav_receipt` -/
  | mark (claimId : String) (raced : Bool) (now : Int)
  /-- its process dies, or a mark fails in the database -/
  | crash (claimId : String)

/-- The clock that a step reads. -/
def Act.time : Act → Option Int
  | enqueue _ _ now => some now
  | claim _ _ _ now => some now
  | send _ now => some now
  | deliver .. => none
  | mark _ _ now => some now
  | crash _ => none

namespace DispatchState

/-- The state with a dispatcher. -/
def withDispatcher (s : DispatchState) (claimId : String) (d : Dispatcher) : DispatchState :=
  { s with dispatchers := s.dispatchers.set claimId d }

/-- An insertion; one that raises is rolled back. -/
def enqueue (s : DispatchState) (receiptKey payloadJson : String) (now : Int) : DispatchState :=
  match enqueueNavReceipt receiptKey payloadJson now s.receipts with
  | .ok (_, rows) => { s with receipts := rows }
  | .error _ => s

/-- The claim at the beginning of `dispatch_pending`. -/
def claim (s : DispatchState) (claimId : String) (limit : Int) (receiptKey : Option String) (now : Int) :
    DispatchState :=
  let claimed := claimDueNavReceipts limit receiptKey claimId now s.receipts
  { (s.withDispatcher claimId ⟨claimed.2, .next⟩) with receipts := claimed.1 }

/-- The beginning of a send; nothing is read from the table. -/
def send (s : DispatchState) (claimId : String) (now : Int) : Option DispatchState :=
  match s.dispatchers.lookup claimId with
  | some ⟨row :: rest, .next⟩ => some (s.withDispatcher claimId ⟨row :: rest, .sending now⟩)
  | _ => none

/-- The end of a send. -/
def deliver (s : DispatchState) (claimId : String) (result : Except String Delivery) :
    Option DispatchState :=
  match s.dispatchers.lookup claimId with
  | some ⟨(key, row) :: rest, .sending startedAt⟩ =>
    some { (s.withDispatcher claimId ⟨(key, row) :: rest, .delivered startedAt (.of result)⟩) with
      deliveries := if (Delivery.of result).success then (key, claimId) :: s.deliveries
        else s.deliveries }
  | _ => none

/-- The mark of an outcome. When the row is no longer there for the first statement, the dispatcher
stops with `ReceiptDispatchStateUnknown`; when it is gone for the second one, it goes on. -/
def mark (s : DispatchState) (claimId : String) (raced : Bool) (now : Int) : Option DispatchState :=
  match s.dispatchers.lookup claimId with
  | some ⟨(key, _) :: rest, .delivered _ d⟩ =>
    match markNavReceipt key claimId d.success d.messageId d.error now s.receipts with
    | .ok rows => some { (s.withDispatcher claimId ⟨rest, .next⟩) with receipts := rows }
    | .error _ => some (s.withDispatcher claimId (if raced then ⟨rest, .next⟩ else .stopped))
  | _ => none

/-- One step; claim ids are used once. -/
def step (s : DispatchState) : Act → Option DispatchState
  | .enqueue receiptKey payloadJson now => some (s.enqueue receiptKey payloadJson now)
  | .claim claimId limit receiptKey now =>
    if (s.dispatchers.lookup claimId).isSome then none
    else some (s.claim claimId limit receiptKey now)
  | .send claimId now => s.send claimId now
  | .deliver claimId result => s.deliver claimId result
  | .mark claimId raced now => s.mark claimId raced now
  | .crash claimId =>
    if (s.dispatchers.lookup claimId).isSome then some (s.withDispatcher claimId .stopped) else none

end DispatchState

/-! ## What a step does to a receipt -/

/-- What a step does to the row of a receipt. -/
inductive RowStep (s : DispatchState) (key : String) : Act → Option NavReceipt → Option NavReceipt → Prop
  | kept {a : Act} {r : Option NavReceipt}
    (hclaim : ∀ claimId limit receiptKey now, a = .claim claimId limit receiptKey now → r = none) :
    RowStep s key a r r
  | inserted {payloadJson : String} {now : Int} :
    RowStep s key (.enqueue key payloadJson now) none (some (.fresh payloadJson now))
  | claimed {claimId : String} {limit : Int} {receiptKey : Option String} {now : Int} {r : NavReceipt}
    {selected : Bool} (hnew : s.dispatchers.lookup claimId = none) :
    RowStep s key (.claim claimId limit receiptKey now) (some r)
      (some (if selected && (r.expire now).due now then (r.expire now).claim claimId now
        else r.expire now))
  | marked {claimId : String} {raced : Bool} {now startedAt : Int} {r row : NavReceipt}
    {rest : Receipts} {d : Delivery}
    (hdispatcher : s.dispatchers.lookup claimId = some ⟨(key, row) :: rest, .delivered startedAt d⟩)
    (hheld : r.heldBy claimId = true) :
    RowStep s key (.mark claimId raced now) (some r)
      (some (r.marked d.success d.messageId d.error now))

variable {s s' : DispatchState} {a : Act}

/-- Every step does one of these to every receipt. -/
theorem rowStep_of_step (h : s.step a = some s') (key : String) :
    RowStep s key a (s.receipts.lookup key) (s'.receipts.lookup key) := by
  cases a with
  | enqueue receiptKey payloadJson now =>
    cases h
    show RowStep s key _ _ ((s.enqueue receiptKey payloadJson now).receipts.lookup key)
    unfold DispatchState.enqueue
    cases hinsert : enqueueNavReceipt receiptKey payloadJson now s.receipts with
    | error e => exact .kept fun _ _ _ _ h => Act.noConfusion h
    | ok result =>
      obtain ⟨inserted, rows⟩ := result
      rcases enqueue_ok hinsert with ⟨rfl, -⟩ | ⟨hnone, -, hlookup⟩
      · exact .kept fun _ _ _ _ h => Act.noConfusion h
      · show RowStep s key _ _ (rows.lookup key)
        rw [hlookup]
        by_cases hkey : receiptKey = key
        · subst hkey
          rw [hnone, if_pos rfl]
          exact .inserted
        · rw [if_neg hkey]
          exact .kept fun _ _ _ _ h => Act.noConfusion h
  | claim claimId limit receiptKey now =>
    unfold DispatchState.step at h
    simp only at h
    split at h
    · cases h
    · next hnew =>
      cases h
      obtain ⟨selected, hlookup⟩ := lookup_claimDue s.receipts claimId now limit receiptKey key
      show RowStep s key _ _ ((claimDueNavReceipts limit receiptKey claimId now s.receipts).1.lookup key)
      rw [hlookup]
      cases hrow : s.receipts.lookup key with
      | none => exact .kept fun _ _ _ _ _ => rfl
      | some r =>
        have hnew : s.dispatchers.lookup claimId = none := Option.not_isSome_iff_eq_none.mp hnew
        exact .claimed hnew
  | send claimId now =>
    unfold DispatchState.step DispatchState.send at h
    simp only at h
    split at h
    · cases h
      exact .kept fun _ _ _ _ h => Act.noConfusion h
    · cases h
  | deliver claimId result =>
    unfold DispatchState.step DispatchState.deliver at h
    simp only at h
    split at h
    · cases h
      exact .kept fun _ _ _ _ h => Act.noConfusion h
    · cases h
  | mark claimId raced now =>
    unfold DispatchState.step DispatchState.mark at h
    simp only at h
    split at h
    · next receiptKey row rest startedAt d hdispatcher =>
      cases hmark : markNavReceipt receiptKey claimId d.success d.messageId d.error now s.receipts with
      | error e =>
        rw [hmark] at h
        cases h
        exact .kept fun _ _ _ _ h => Act.noConfusion h
      | ok rows =>
        rw [hmark] at h
        cases h
        obtain ⟨⟨r, hr, hheld, hrow⟩, hother⟩ := mark_ok hmark
        show RowStep s key _ _ (rows.lookup key)
        by_cases hkey : key = receiptKey
        · subst hkey
          rw [hr, hrow]
          exact .marked hdispatcher hheld
        · rw [hother key hkey]
          exact .kept fun _ _ _ _ h => Act.noConfusion h
    · cases h
  | crash claimId =>
    unfold DispatchState.step at h
    simp only at h
    split at h
    · cases h
      exact .kept fun _ _ _ _ h => Act.noConfusion h
    · cases h

/-! ## What a step does to a dispatcher -/

theorem lookup_set (claimId c : String) (d : Dispatcher) (dispatchers : Items String Dispatcher) :
    List.lookup c (dispatchers.set claimId d) =
      if c = claimId then some d else List.lookup c dispatchers := by
  unfold Items.set
  rw [Items.lookup_update]

/-- What a step does to the dispatcher of a claim. -/
inductive ClaimStep (s : DispatchState) (claimId : String) :
    Act → Option Dispatcher → Option Dispatcher → Prop
  | kept {a : Act} {d : Option Dispatcher} : ClaimStep s claimId a d d
  | claimed {limit : Int} {receiptKey : Option String} {now : Int} :
    ClaimStep s claimId (.claim claimId limit receiptKey now) none
      (some ⟨(claimDueNavReceipts limit receiptKey claimId now s.receipts).2, .next⟩)
  | began {row : String × NavReceipt} {rest : Receipts} {now : Int} :
    ClaimStep s claimId (.send claimId now) (some ⟨row :: rest, .next⟩)
      (some ⟨row :: rest, .sending now⟩)
  | returned {row : String × NavReceipt} {rest : Receipts} {startedAt : Int}
    {result : Except String Delivery} :
    ClaimStep s claimId (.deliver claimId result) (some ⟨row :: rest, .sending startedAt⟩)
      (some ⟨row :: rest, .delivered startedAt (.of result)⟩)
  | marked {row : String × NavReceipt} {rest : Receipts} {startedAt : Int} {d : Delivery}
    {raced : Bool} {now : Int} {d' : Dispatcher} (hnext : d'.phase = .next) :
    ClaimStep s claimId (.mark claimId raced now) (some ⟨row :: rest, .delivered startedAt d⟩)
      (some d')
  | crashed {d : Dispatcher} : ClaimStep s claimId (.crash claimId) (some d) (some .stopped)

/-- A step of the dispatcher of a claim, or of another one. -/
theorem claimStep_set {claimId c : String} {d : Dispatcher} (h : s'.dispatchers = s.dispatchers.set c d)
    (hown : ClaimStep s c a (s.dispatchers.lookup c) (some d)) :
    ClaimStep s claimId a (s.dispatchers.lookup claimId) (s'.dispatchers.lookup claimId) := by
  rw [h, lookup_set]
  by_cases hc : claimId = c
  · subst hc
    rwa [if_pos rfl]
  · rw [if_neg hc]
    exact .kept

/-- Every step does one of these to every dispatcher. -/
theorem claimStep_of_step (h : s.step a = some s') (claimId : String) :
    ClaimStep s claimId a (s.dispatchers.lookup claimId) (s'.dispatchers.lookup claimId) := by
  cases a with
  | enqueue receiptKey payloadJson now =>
    cases h
    show ClaimStep s claimId _ _ ((s.enqueue receiptKey payloadJson now).dispatchers.lookup claimId)
    unfold DispatchState.enqueue
    split <;> exact .kept
  | claim c limit receiptKey now =>
    unfold DispatchState.step at h
    simp only at h
    split at h
    · cases h
    · next hnew =>
      cases h
      refine claimStep_set (c := c) rfl ?_
      rw [Option.not_isSome_iff_eq_none.mp hnew]
      exact .claimed
  | send c now =>
    unfold DispatchState.step DispatchState.send at h
    simp only at h
    split at h
    · next row rest hdispatcher =>
      cases h
      refine claimStep_set (c := c) rfl ?_
      rw [hdispatcher]
      exact .began
    · cases h
  | deliver c result =>
    unfold DispatchState.step DispatchState.deliver at h
    simp only at h
    split at h
    · next key row rest startedAt hdispatcher =>
      cases h
      refine claimStep_set (c := c) rfl ?_
      rw [hdispatcher]
      exact .returned
    · cases h
  | mark c raced now =>
    unfold DispatchState.step DispatchState.mark at h
    simp only at h
    split at h
    · next receiptKey row rest startedAt d hdispatcher =>
      split at h
      · cases h
        refine claimStep_set (c := c) rfl ?_
        rw [hdispatcher]
        exact .marked rfl
      · cases h
        refine claimStep_set (c := c) rfl ?_
        rw [hdispatcher]
        refine .marked ?_
        split <;> rfl
    · cases h
  | crash c =>
    unfold DispatchState.step at h
    simp only at h
    split at h
    · next hsome =>
      cases h
      obtain ⟨d, hd⟩ := Option.isSome_iff_exists.mp hsome
      refine claimStep_set (c := c) rfl ?_
      rw [hd]
      exact .crashed
    · cases h

/-- A claim id keeps its dispatcher. -/
theorem dispatcher_stays (h : s.step a = some s') {claimId : String}
    (hused : s.dispatchers.lookup claimId ≠ none) : s'.dispatchers.lookup claimId ≠ none := by
  have hstep := claimStep_of_step h claimId
  generalize s.dispatchers.lookup claimId = d at hstep hused
  generalize s'.dispatchers.lookup claimId = d' at hstep
  cases hstep with
  | kept => exact hused
  | claimed | began | returned | marked | crashed => exact Option.some_ne_none _

/-- A step delivers nothing, or it is the return of a send that succeeded. -/
theorem deliveries_of_step (h : s.step a = some s') :
    s'.deliveries = s.deliveries ∨
      ∃ claimId result key row rest startedAt, a = .deliver claimId result ∧
        (Delivery.of result).success = true ∧
        s.dispatchers.lookup claimId = some ⟨(key, row) :: rest, .sending startedAt⟩ ∧
        s'.deliveries = (key, claimId) :: s.deliveries := by
  cases a with
  | enqueue receiptKey payloadJson now =>
    cases h
    refine .inl ?_
    show (s.enqueue receiptKey payloadJson now).deliveries = _
    unfold DispatchState.enqueue
    split <;> rfl
  | claim c limit receiptKey now =>
    unfold DispatchState.step at h
    simp only at h
    split at h <;> cases h
    exact .inl rfl
  | send c now =>
    unfold DispatchState.step DispatchState.send at h
    simp only at h
    split at h <;> cases h
    exact .inl rfl
  | deliver c result =>
    unfold DispatchState.step DispatchState.deliver at h
    simp only at h
    split at h
    · next key row rest startedAt hdispatcher =>
      cases h
      by_cases hsuccess : (Delivery.of result).success = true
      · exact .inr ⟨c, result, key, row, rest, startedAt, rfl, hsuccess, hdispatcher, if_pos hsuccess⟩
      · exact .inl (if_neg hsuccess)
    · cases h
  | mark c raced now =>
    unfold DispatchState.step DispatchState.mark at h
    simp only at h
    split at h
    · split at h <;> cases h <;> exact .inl rfl
    · cases h
  | crash c =>
    unfold DispatchState.step at h
    simp only at h
    split at h <;> cases h
    exact .inl rfl

end PortfolioManagement.NavReceipts
