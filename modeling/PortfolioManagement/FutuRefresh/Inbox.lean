import PortfolioManagement.Futu.Sync
import PortfolioManagement.Lib.Joined
import PortfolioManagement.OperationState.Base

/-!
# The inbox of refresh requests

`futu_refresh_inbox` holds the accepted requests by account and request id. A worker takes the pending
request whose next attempt is due first, and settles its result; a successful one completes the request
and inserts its quantity receipt in the same transaction. Receipts are kept by their key with their
payload; how they are dispatched is left out here.
-/

namespace PortfolioManagement.FutuRefresh

open Futu OperationState

/-- `state`. -/
inductive RefreshState
  | pending | running | completed
deriving DecidableEq

/-- The key of a request. -/
structure RefreshKey where
  /-- `account` -/
  account : String
  /-- `request_id` -/
  requestId : String
deriving DecidableEq

/-- A row of `futu_refresh_inbox`, without its key. -/
structure RefreshRow where
  /-- `state` -/
  state : RefreshState
  /-- `attempt_count` -/
  attemptCount : Nat
  /-- `next_attempt_at` -/
  nextAttemptAt : Int
  /-- `result_json` -/
  result : Option SyncResult
  /-- `last_error` -/
  lastError : Option String
  /-- `created_at` -/
  createdAt : Int
  /-- `updated_at` -/
  updatedAt : Int
deriving DecidableEq

/-- The rows, by their key. -/
abbrev Requests := Items RefreshKey RefreshRow

/-- The quantity receipts, by `receipt_key`. -/
abbrev QuantityReceipts := Items String QuantityPayload

/-! ## Accepting -/

/-- `[a-z0-9]`. -/
def lowerOrDigit (c : Char) : Bool := ('a' ≤ c && c ≤ 'z') || ('0' ≤ c && c ≤ '9')

/-- The pattern of `FutuHoldingsRefreshRequest.account`. -/
def validAccount (account : String) : Bool :=
  match account.toList with
  | [] => false
  | first :: rest =>
    lowerOrDigit first && rest.all (fun c => lowerOrDigit c || c = '_' || c = '-') && rest.length ≤ 63

/-- The pattern of `FutuHoldingsRefreshRequest.request_id`. -/
def validRequestId (requestId : String) : Bool :=
  requestId.toList.all (fun c => lowerOrDigit c || ('A' ≤ c && c ≤ 'Z') || c = '.' || c = '_' ||
      c = ':' || c = '-') &&
    1 ≤ requestId.toList.length && requestId.toList.length ≤ 96

/-- A request as it is accepted. -/
def RefreshRow.fresh (now : Int) : RefreshRow where
  state := .pending
  attemptCount := 0
  nextAttemptAt := now
  result := none
  lastError := none
  createdAt := now
  updatedAt := now

/-- `accept_futu_refresh`. -/
def acceptFutuRefresh (key : RefreshKey) (now : Int) (inbox : Requests) : Requests :=
  match inbox.lookup key with
  | none => inbox ++ [(key, .fresh now)]
  | some _ => inbox

/-! ## Taking a request -/

/-- `recover_futu_refreshes`. -/
def recoverFutuRefreshes (now : Int) (inbox : Requests) : Requests :=
  inbox.updateWhere (fun _ row => row.state = .running) fun row =>
    { row with state := .pending, nextAttemptAt := now, updatedAt := now }

/-- `ORDER BY next_attempt_at, account, request_id`. -/
def claimOrder : RefreshKey × RefreshRow → RefreshKey × RefreshRow → Ordering :=
  compareLex (compareOn fun row => row.2.nextAttemptAt)
    (compareLex (compareOn fun row => row.1.account) (compareOn fun row => row.1.requestId))

instance : Std.TransCmp claimOrder := inferInstanceAs (Std.TransCmp (compareLex _ _))

/-- `state = 'pending' AND next_attempt_at <= ?`. -/
def RefreshRow.due (now : Int) (row : RefreshRow) : Bool :=
  row.state = .pending && row.nextAttemptAt ≤ now

/-- The update of the taken request. -/
def takeRequest (key : RefreshKey) (now : Int) (inbox : Requests) : Requests :=
  inbox.updateWhere (fun k row => k = key && row.state = .pending) fun row =>
    { row with state := .running, attemptCount := row.attemptCount + 1, updatedAt := now }

/-- `claim_futu_refresh`: the rows afterwards and the key of the taken request. -/
def claimFutuRefresh (now : Int) (inbox : Requests) : Requests × Option RefreshKey :=
  match (inbox.filter fun row => row.2.due now).mergeSort fun row other => (claimOrder row other).isLE with
  | [] => (inbox, none)
  | (key, _) :: _ => (takeRequest key now inbox, some key)

/-! ## Settling -/

/-- The key of the quantity receipt of a request. -/
def receiptKey (key : RefreshKey) : String := "futu-refresh-quantity:" ++ key.account ++ ":" ++ key.requestId

/-- `insert_operation_receipt_tx` of a quantity receipt. -/
def insertQuantityReceipt (key : RefreshKey) (payload : QuantityPayload) (receipts : QuantityReceipts) :
    Except String QuantityReceipts :=
  if payload.account ≠ key.account then .error "Futu receipt account does not match refresh"
  else match receipts.lookup (receiptKey key) with
    | none => .ok (receipts ++ [(receiptKey key, payload)])
    | some existing =>
      if existing = payload then .ok receipts
      else .error ("operation receipt key collision with different payload: " ++ receiptKey key)

/-- `str(result.get("error") or "sync unsuccessful")`. -/
def settledError (result : SyncResult) : String :=
  if result.error.getD "" = "" then "sync unsuccessful" else result.error.getD ""

/-- What a settlement sets. -/
def RefreshRow.settle (result : SyncResult) (now : Int) (row : RefreshRow) : RefreshRow :=
  { row with
    state := if result.success then .completed else .pending
    result := some result
    lastError := if result.success then none else some (settledError result)
    nextAttemptAt := now + retryDelay row.attemptCount
    updatedAt := now }

/-- The update of a running request. -/
def settleRequest (key : RefreshKey) (result : SyncResult) (now : Int) (inbox : Requests) : Requests :=
  inbox.updateWhere (fun k row => k = key && row.state = .running) (RefreshRow.settle result now)

/-- `settle_futu_refresh` with the payload of `quantity_change_payload`. -/
def settleFutuRefresh (key : RefreshKey) (result : SyncResult) (now : Int) (inbox : Requests)
    (receipts : QuantityReceipts) : Except String (Requests × QuantityReceipts) :=
  match inbox.lookup key with
  | none => .error ("running Futu refresh not found: " ++ key.account ++ "/" ++ key.requestId)
  | some row =>
    match row.state with
    -- a committed settlement may have lost its acknowledgement
    | .completed =>
      if row.result = some result then .ok (inbox, receipts)
      else .error "completed Futu refresh has a different result"
    | .pending => .error ("running Futu refresh not found: " ++ key.account ++ "/" ++ key.requestId)
    | .running =>
      let settled := settleRequest key result now inbox
      match (if result.success then quantityChangePayload result else none) with
      | none => .ok (settled, receipts)
      | some payload =>
        match insertQuantityReceipt key payload receipts with
        | .ok receipts => .ok (settled, receipts)
        | .error error => .error error

/-! ## What the statements do -/

section
variable {inbox inbox' : Requests} {receipts receipts' : QuantityReceipts} {key : RefreshKey}
  {result : SyncResult} {now : Int}

theorem colon_not_mem {account : String} (h : validAccount account = true) :
    ':' ∉ account.toList := by
  unfold validAccount at h
  split at h
  · cases h
  · next first rest hlist =>
    simp only [Bool.and_eq_true, List.all_eq_true, decide_eq_true_eq] at h
    rw [hlist]
    intro hmem
    rcases List.mem_cons.mp hmem with heq | hmem
    · have hfirst := h.1.1
      rw [← heq] at hfirst
      exact absurd hfirst (by decide)
    · exact absurd (h.1.2 ':' hmem) (by decide)

/-- Requests of valid accounts have different receipt keys. -/
theorem receiptKey_injective {key key' : RefreshKey} (h : validAccount key.account = true)
    (h' : validAccount key'.account = true) (hkey : receiptKey key = receiptKey key') : key = key' := by
  unfold receiptKey at hkey
  have hlist := congrArg String.toList hkey
  simp only [String.toList_append, List.append_assoc] at hlist
  have hrest := List.append_cancel_left hlist
  obtain ⟨haccount, hrequest⟩ := Joined.cut_front (colon_not_mem h) (colon_not_mem h') hrest
  obtain ⟨account, requestId⟩ := key
  obtain ⟨account', requestId'⟩ := key'
  rw [RefreshKey.mk.injEq]
  exact ⟨String.toList_inj.mp haccount, String.toList_inj.mp hrequest⟩

theorem lookup_accept (key k : RefreshKey) (now : Int) (inbox : Requests) :
    (acceptFutuRefresh key now inbox).lookup k =
      if k = key then some ((inbox.lookup key).getD (.fresh now)) else inbox.lookup k := by
  unfold acceptFutuRefresh
  cases hrow : inbox.lookup key with
  | none =>
    simp only
    rw [Items.lookup_append_singleton k key _ hrow]
    by_cases hk : k = key
    · rw [if_pos hk.symm, if_pos hk]
      rfl
    · rw [if_neg (Ne.symm hk), if_neg hk]
  | some row =>
    by_cases hk : k = key
    · rw [if_pos hk, hk, hrow]
      rfl
    · rw [if_neg hk]

theorem sorted_claimOrder (rows : Requests) :
    (rows.mergeSort fun row other => (claimOrder row other).isLE).Pairwise
      fun row other => (claimOrder row other).isLE = true := by
  refine List.pairwise_mergeSort (fun _ _ _ => Std.TransCmp.isLE_trans) (fun row other => ?_) rows
  rw [← Std.OrientedCmp.isGE_eq_isLE (a := row) (b := other)]
  cases claimOrder row other <;> rfl

theorem mem_sorted (inbox : Requests) (now : Int) (row : RefreshKey × RefreshRow) :
    (row ∈ (inbox.filter fun row => row.2.due now).mergeSort fun row other =>
      (claimOrder row other).isLE) ↔ row ∈ inbox ∧ row.2.due now = true :=
  List.mem_mergeSort.trans List.mem_filter

/-- The taken request was due, and no due request came before it. -/
theorem claim_some {taken : RefreshKey} (h : claimFutuRefresh now inbox = (inbox', some taken)) :
    ∃ row, (taken, row) ∈ inbox ∧ row.due now = true ∧
      (∀ other ∈ inbox, other.2.due now = true → (claimOrder (taken, row) other).isLE = true) ∧
      inbox' = takeRequest taken now inbox := by
  have hsorted := sorted_claimOrder (inbox.filter fun row => row.2.due now)
  have hmem := mem_sorted inbox now
  unfold claimFutuRefresh at h
  cases hrows : (inbox.filter fun row => row.2.due now).mergeSort
      fun row other => (claimOrder row other).isLE with
  | nil =>
    rw [hrows] at h
    cases h
  | cons first rest =>
    obtain ⟨key, row⟩ := first
    rw [hrows] at h hsorted hmem
    cases h
    obtain ⟨hrow, hdue⟩ := (hmem (taken, row)).mp List.mem_cons_self
    refine ⟨row, hrow, hdue, fun other hother hdue' => ?_, rfl⟩
    rcases List.mem_cons.mp ((hmem other).mpr ⟨hother, hdue'⟩) with rfl | hlater
    · exact Std.ReflCmp.isLE_rfl
    · exact List.rel_of_pairwise_cons hsorted hlater

theorem claim_none (h : claimFutuRefresh now inbox = (inbox', none)) :
    inbox' = inbox ∧ ∀ row ∈ inbox, row.2.due now = false := by
  have hmem := mem_sorted inbox now
  unfold claimFutuRefresh at h
  cases hrows : (inbox.filter fun row => row.2.due now).mergeSort
      fun row other => (claimOrder row other).isLE with
  | nil =>
    rw [hrows] at h hmem
    cases h
    refine ⟨rfl, fun row hrow => ?_⟩
    cases hdue : row.2.due now with
    | false => rfl
    | true => cases (hmem row).mpr ⟨hrow, hdue⟩
  | cons first rest =>
    rw [hrows] at h
    cases h

end

end PortfolioManagement.FutuRefresh
