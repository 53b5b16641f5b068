import PortfolioManagement.OperationState.Base

/-!
# The table of NAV receipts

`nav_receipt_outbox` holds the receipts of real NAV runs by their key. A claim transaction first fails
the rows that have been sending for longer than the lease, whoever claimed them, and then takes the due
rows; the outcome of a send is marked under the claim that still holds the row.
-/

namespace PortfolioManagement.NavReceipts

open OperationState

/-- `status`. -/
inductive ReceiptStatus
  | pending | sending | sent | failed
deriving DecidableEq

/-- A row of `nav_receipt_outbox`, without its key. -/
structure NavReceipt where
  /-- `payload_json` -/
  payloadJson : String
  /-- `status` -/
  status : ReceiptStatus
  /-- `attempt_count` -/
  attemptCount : Nat
  /-- `next_attempt_at` -/
  nextAttemptAt : Int
  /-- `claim_id` -/
  claimId : Option String
  /-- `claimed_at` -/
  claimedAt : Option Int
  /-- `message_id` -/
  messageId : Option String
  /-- `last_error` -/
  lastError : Option String
  /-- `created_at` -/
  createdAt : Int
  /-- `updated_at` -/
  updatedAt : Int
deriving DecidableEq

/-- The rows, by `receipt_key`. -/
abbrev Receipts := Items String NavReceipt

/-! ## Inserting -/

/-- A receipt as it is inserted. -/
def NavReceipt.fresh (payloadJson : String) (now : Int) : NavReceipt where
  payloadJson := payloadJson
  status := .pending
  attemptCount := 0
  nextAttemptAt := now
  claimId := none
  claimedAt := none
  messageId := none
  lastError := none
  createdAt := now
  updatedAt := now

/-- `enqueue_nav_receipt`: whether the row is new, and the rows. -/
def enqueueNavReceipt (receiptKey payloadJson : String) (now : Int) (rows : Receipts) :
    Except String (Bool × Receipts) :=
  match rows.lookup receiptKey with
  | none => .ok (true, rows ++ [(receiptKey, .fresh payloadJson now)])
  | some existing =>
    if existing.payloadJson ≠ payloadJson then
      .error ("NAV receipt key collision with different payload: " ++ receiptKey)
    else .ok (false, rows)

/-! ## Claiming -/

/-- A row that has been sending for longer than the lease is failed. -/
def NavReceipt.expire (now : Int) (r : NavReceipt) : NavReceipt :=
  if r.status = .sending ∧ atOrBefore r.claimedAt (now - minutes claimLeaseMinutes) then
    { r with
      status := .failed
      claimId := none
      claimedAt := none
      lastError := coalesce r.lastError "dispatcher claim expired"
      updatedAt := now }
  else r

/-- `status IN ('pending', 'failed') AND next_attempt_at <= ?`. -/
def NavReceipt.due (now : Int) (r : NavReceipt) : Bool :=
  (r.status = .pending || r.status = .failed) && r.nextAttemptAt ≤ now

/-- A claimed row. -/
def NavReceipt.claim (claimId : String) (now : Int) (r : NavReceipt) : NavReceipt :=
  { r with status := .sending, claimId := some claimId, claimedAt := some now, updatedAt := now }

/-- A claimed row as it is returned: read before the update. -/
def NavReceipt.returned (claimId : String) (now : Int) (r : NavReceipt) : NavReceipt :=
  { r with status := .sending, claimId := some claimId, claimedAt := some now }

/-- `claim_due_nav_receipts`: the rows afterwards and the returned ones. The update of each selected
row is made of all of them at once. -/
def claimDueNavReceipts (limit : Int) (receiptKey : Option String) (claimId : String) (now : Int)
    (rows : Receipts) : Receipts × Receipts :=
  let expired := rows.updateWhere (fun _ _ => true) (NavReceipt.expire now)
  let selected := dueRows (NavReceipt.due now) NavReceipt.createdAt limit
    (receiptKey.filter (· ≠ "")) expired
  (expired.updateWhere (fun key r => decide (key ∈ selected.map Prod.fst) && r.due now)
      (NavReceipt.claim claimId now),
    selected.map fun row => (row.1, row.2.returned claimId now))

/-! ## Marking -/

/-- `status = 'sending' AND claim_id = ?`. -/
def NavReceipt.heldBy (claimId : String) (r : NavReceipt) : Bool :=
  r.status = .sending && r.claimId = some claimId

/-- What a mark sets. -/
def NavReceipt.marked (success : Bool) (messageId error : Option String) (now : Int) (r : NavReceipt) :
    NavReceipt :=
  { r with
    status := if success then .sent else .failed
    attemptCount := r.attemptCount + 1
    nextAttemptAt := now + retryDelay (r.attemptCount + 1)
    claimId := none
    claimedAt := none
    messageId := messageId
    lastError := error
    updatedAt := now }

/-- `mark_nav_receipt`. -/
def markNavReceipt (receiptKey claimId : String) (success : Bool) (messageId error : Option String)
    (now : Int) (rows : Receipts) : Except String Receipts :=
  match rows.lookup receiptKey with
  | some r =>
    if r.heldBy claimId then
      .ok (rows.updateWhere (fun key r => key = receiptKey && r.heldBy claimId)
        (NavReceipt.marked success messageId error now))
    else .error ("nav receipt claim not found: " ++ receiptKey ++ " claim_id=" ++ claimId)
  | none => .error ("nav receipt claim not found: " ++ receiptKey ++ " claim_id=" ++ claimId)

/-! ## What the statements do to a row -/

section
variable {rows rows' : Receipts} {receiptKey claimId payloadJson : String} {now : Int}
  {r : NavReceipt}

theorem heldBy_iff : r.heldBy claimId = true ↔ r.status = .sending ∧ r.claimId = some claimId := by
  unfold NavReceipt.heldBy
  rw [Bool.and_eq_true, decide_eq_true_iff, decide_eq_true_iff]

/-- An expiry fails a row that is sending, or changes nothing. -/
theorem expire_cases (r : NavReceipt) (now : Int) :
    (r.expire now = r ∧
      ¬ (r.status = .sending ∧ atOrBefore r.claimedAt (now - minutes claimLeaseMinutes) = true)) ∨
      (r.status = .sending ∧ (r.expire now).status = .failed ∧
        (r.expire now).payloadJson = r.payloadJson ∧
          (r.expire now).nextAttemptAt = r.nextAttemptAt) := by
  unfold NavReceipt.expire
  split
  · next h => exact .inr ⟨h.1, rfl, rfl, rfl⟩
  · next h => exact .inl ⟨rfl, h⟩

theorem due_iff : r.due now = true ↔
    (r.status = .pending ∨ r.status = .failed) ∧ r.nextAttemptAt ≤ now := by
  unfold NavReceipt.due
  simp only [Bool.and_eq_true, Bool.or_eq_true, decide_eq_true_eq]

/-- An insertion that does not raise leaves a row with the payload, the one that was there if any. -/
theorem enqueue_ok {inserted : Bool}
    (h : enqueueNavReceipt receiptKey payloadJson now rows = .ok (inserted, rows')) :
    (rows' = rows ∧ ∃ r, rows.lookup receiptKey = some r ∧ r.payloadJson = payloadJson) ∨
      (rows.lookup receiptKey = none ∧ rows' = rows ++ [(receiptKey, .fresh payloadJson now)] ∧
        ∀ key, rows'.lookup key =
          if receiptKey = key then some (.fresh payloadJson now) else rows.lookup key) := by
  unfold enqueueNavReceipt at h
  split at h
  · next hnone =>
    cases h
    exact .inr ⟨hnone, rfl, fun key => Items.lookup_append_singleton key receiptKey _ hnone⟩
  · next existing hexisting =>
    split at h
    · cases h
    · next hsame =>
      cases h
      exact .inl ⟨rfl, existing, hexisting, not_not.mp hsame⟩

/-- A mark sets the row it holds, and no other. -/
theorem mark_ok {success : Bool} {messageId error : Option String}
    (h : markNavReceipt receiptKey claimId success messageId error now rows = .ok rows') :
    (∃ r, rows.lookup receiptKey = some r ∧ r.heldBy claimId = true ∧
      rows'.lookup receiptKey = some (r.marked success messageId error now)) ∧
      ∀ key, key ≠ receiptKey → rows'.lookup key = rows.lookup key := by
  unfold markNavReceipt at h
  split at h
  · next r hr =>
    split at h
    · next hheld =>
      cases h
      refine ⟨⟨r, hr, hheld, ?_⟩, fun key hkey => ?_⟩
      · rw [Items.lookup_updateWhere, hr, Option.map_some, if_pos]
        simpa using hheld
      · rw [Items.lookup_updateWhere]
        cases rows.lookup key with
        | none => rfl
        | some other =>
          rw [Option.map_some, if_neg]
          simp [hkey]
    · cases h
  · cases h

theorem keys_mark {success : Bool} {messageId error : Option String}
    (h : markNavReceipt receiptKey claimId success messageId error now rows = .ok rows') :
    rows'.map Prod.fst = rows.map Prod.fst := by
  unfold markNavReceipt at h
  split at h
  · split at h
    · cases h
      exact Items.keys_updateWhere ..
    · cases h
  · cases h

/-- Without the row held there is nothing to mark. -/
theorem mark_error {success : Bool} {messageId error : Option String}
    (h : ∀ r, rows.lookup receiptKey = some r → r.heldBy claimId = false) :
    markNavReceipt receiptKey claimId success messageId error now rows =
      .error ("nav receipt claim not found: " ++ receiptKey ++ " claim_id=" ++ claimId) := by
  unfold markNavReceipt
  split
  · next r hr =>
    rw [h r hr]
    rfl
  · rfl

/-- A claim transaction expires a row, and then claims it when it is due and selected. -/
theorem lookup_claimDue (rows : Receipts) (claimId : String) (now limit : Int)
    (receiptKey : Option String) (key : String) :
    ∃ selected : Bool, ((claimDueNavReceipts limit receiptKey claimId now rows).1).lookup key =
      (rows.lookup key).map fun r =>
        if selected && (r.expire now).due now then (r.expire now).claim claimId now
        else r.expire now := by
  unfold claimDueNavReceipts
  simp only [Items.lookup_updateWhere, if_true, Option.map_map]
  exact ⟨_, rfl⟩

/-- A receipt that is due after the expiries is given out to a claim for its key, and to a claim for
all keys whose limit leaves none out. -/
theorem mem_claimed (hnodup : (rows.map Prod.fst).Nodup) {key : String}
    (hr : rows.lookup key = some r) (hdue : (r.expire now).due now = true) {limit : Int}
    {asked : Option String} (hasked : (asked = some key ∧ key ≠ "" ∧ limit ≠ 0) ∨
      (asked = none ∧ (limit < 0 ∨ (rows.length : Int) ≤ limit))) (claimId : String) :
    (key, (r.expire now).returned claimId now) ∈
      (claimDueNavReceipts limit asked claimId now rows).2 := by
  have hexpired : (Items.updateWhere (fun _ _ => true) (NavReceipt.expire now) rows).lookup key =
      some (r.expire now) := by
    rw [Items.lookup_updateWhere, hr]
    rfl
  have hkeys : ((Items.updateWhere (fun _ _ => true) (NavReceipt.expire now) rows).map
      Prod.fst).Nodup := by
    rw [Items.keys_updateWhere]
    exact hnodup
  have hselected : (key, r.expire now) ∈ dueRows (NavReceipt.due now) NavReceipt.createdAt limit
      (asked.filter (· ≠ "")) (Items.updateWhere (fun _ _ => true) (NavReceipt.expire now) rows) := by
    rcases hasked with ⟨rfl, hkey, hlimit⟩ | ⟨rfl, hlimit⟩
    · rw [Option.filter_some, if_pos (decide_eq_true hkey), dueRows_own hkeys hexpired hlimit hdue]
      exact List.mem_singleton_self _
    · refine mem_dueRows_of_limit ?_ ((Items.mem_iff_lookup hkeys).mpr hexpired) hdue
      unfold Items.updateWhere
      rw [List.length_map]
      exact hlimit
  exact List.mem_map.mpr ⟨_, hselected, rfl⟩

end

end PortfolioManagement.NavReceipts
