import PortfolioManagement.OperationState.Base

/-!
# The table of operation receipts

`operation_receipt_outbox` holds the receipts to be sent, by their key. A receipt is claimed by a
dispatcher, its send is started, and the outcome is marked. A claim transaction first takes back the
claims older than the lease, and gives up sends started before it.
-/

namespace PortfolioManagement.Outbox

open OperationState

/-- `status`. -/
inductive ReceiptStatus
  | pending | claimed | sending | sent | failed | unknown
deriving DecidableEq

/-- A row of `operation_receipt_outbox`, without its key. -/
structure OperationReceipt where
  /-- `receipt_type` -/
  receiptType : String
  /-- `payload_json` -/
  payloadJson : String
  /-- `status` -/
  status : ReceiptStatus
  /-- `attempt_count` -/
  attemptCount : Nat
  /-- `next_attempt_at` -/
  nextAttemptAt : Int
  /-- `claim_id` -/
  claimId : Option String
  /-- `claimed_at` -/
  claimedAt : Option Int
  /-- `send_started_at` -/
  sendStartedAt : Option Int
  /-- `message_id` -/
  messageId : Option String
  /-- `last_error` -/
  lastError : Option String
  /-- `created_at` -/
  createdAt : Int
  /-- `updated_at` -/
  updatedAt : Int
deriving DecidableEq

/-- The rows, by `receipt_key`. -/
abbrev Receipts := Items String OperationReceipt

/-! ## Inserting -/

/-- The types `insert_operation_receipt_tx` takes. -/
def receiptTypes : List String :=
  ["futu_refresh_quantity_changed", "non_futu_holdings_changed",
    "cash_flow_reconcile_attention_required", "holding_case_discovered", "holding_case_closed",
    "holding_case_attention_required"]

/-- A receipt as it is inserted. -/
def OperationReceipt.fresh (receiptType payloadJson : String) (now : Int) : OperationReceipt where
  receiptType := receiptType
  payloadJson := payloadJson
  status := .pending
  attemptCount := 0
  nextAttemptAt := now
  claimId := none
  claimedAt := none
  sendStartedAt := none
  messageId := none
  lastError := none
  createdAt := now
  updatedAt := now

/-- `insert_operation_receipt_tx`. -/
def insertOperationReceipt (receiptKey receiptType payloadJson : String) (now : Int)
    (rows : Receipts) : Except String (Bool × Receipts) :=
  if receiptType ∉ receiptTypes then
    .error ("unsupported operation receipt type: " ++ receiptType)
  else match rows.lookup receiptKey with
    | none => .ok (true, rows ++ [(receiptKey, .fresh receiptType payloadJson now)])
    | some existing =>
      if existing.receiptType ≠ receiptType ∨ existing.payloadJson ≠ payloadJson then
        .error ("operation receipt key collision with different payload: " ++ receiptKey)
      else .ok (false, rows)

/-! ## Claiming -/

/-- A claim older than the lease is taken back. -/
def OperationReceipt.takeBack (now : Int) (r : OperationReceipt) : OperationReceipt :=
  if r.status = .claimed ∧ atOrBefore r.claimedAt (now - minutes claimLeaseMinutes) then
    { r with
      status := .failed
      claimId := none
      claimedAt := none
      lastError := coalesce r.lastError "dispatcher claim expired"
      nextAttemptAt := now
      updatedAt := now }
  else r

/-- A send started before the lease is given up. -/
def OperationReceipt.giveUp (now : Int) (r : OperationReceipt) : OperationReceipt :=
  if r.status = .sending ∧ atOrBefore r.sendStartedAt (now - minutes claimLeaseMinutes) then
    { r with
      status := .unknown
      claimId := none
      lastError := coalesce r.lastError "sending lease expired"
      updatedAt := now }
  else r

/-- Both updates that a claim transaction begins with. -/
def OperationReceipt.expire (now : Int) (r : OperationReceipt) : OperationReceipt :=
  (r.takeBack now).giveUp now

/-- `status IN ('pending', 'failed') AND next_attempt_at <= ?`. -/
def OperationReceipt.due (now : Int) (r : OperationReceipt) : Bool :=
  (r.status = .pending || r.status = .failed) && r.nextAttemptAt ≤ now

/-- The due rows, the oldest first. -/
def dueReceipts (now : Int) (limit : Int) (receiptKey : Option String) (rows : Receipts) : Receipts :=
  limited limit ((rows.filter fun row =>
    row.2.due now && (receiptKey.isNone || receiptKey = some row.1)).insertionSort fun row row' =>
      row.2.createdAt ≤ row'.2.createdAt)

/-- A claimed row. -/
def OperationReceipt.claim (claimId : String) (now : Int) (r : OperationReceipt) : OperationReceipt :=
  { r with status := .claimed, claimId := some claimId, claimedAt := some now, updatedAt := now }

/-- `claim_due_operation_receipts`: the rows afterwards and the claimed ones. The update of each
selected row is made of all of them at once. -/
def claimDueOperationReceipts (limit : Int) (receiptKey : Option String) (claimId : String) (now : Int)
    (rows : Receipts) : Receipts × Receipts :=
  let expired := rows.updateWhere (fun _ _ => true) (OperationReceipt.expire now)
  let selected := dueReceipts now limit (receiptKey.filter (· ≠ "")) expired
  (expired.updateWhere (fun key r => decide (key ∈ selected.map Prod.fst) && r.due now)
      (OperationReceipt.claim claimId now),
    selected.map fun row => (row.1, row.2.claim claimId now))

/-! ## Sending -/

/-- `WHERE receipt_key = ? AND status = ? AND claim_id = ?`. -/
def heldBy (receiptKey claimId : String) (status : ReceiptStatus) (key : String)
    (r : OperationReceipt) : Bool :=
  key = receiptKey && r.status = status && r.claimId = some claimId

/-- The update of one row, when a condition on the row holds. -/
def updateHeld (receiptKey claimId : String) (status : ReceiptStatus) (error : String)
    (f : OperationReceipt → OperationReceipt) (rows : Receipts) : Except String Receipts :=
  match rows.lookup receiptKey with
  | some r =>
    if heldBy receiptKey claimId status receiptKey r then
      .ok (rows.updateWhere (heldBy receiptKey claimId status) f)
    else .error error
  | none => .error error

/-- `start_operation_receipt_send`. -/
def startOperationReceiptSend (receiptKey claimId : String) (now : Int) (rows : Receipts) :
    Except String Receipts :=
  updateHeld receiptKey claimId .claimed
    ("operation receipt claim not found: " ++ receiptKey ++ " claim_id=" ++ claimId)
    (fun r => { r with status := .sending, sendStartedAt := some now, updatedAt := now }) rows

/-- The outcomes `mark_operation_receipt` takes. -/
inductive ReceiptOutcome
  | sent | failed | unknown
deriving DecidableEq

/-- The status of an outcome. -/
def ReceiptOutcome.status : ReceiptOutcome → ReceiptStatus
  | sent => .sent
  | failed => .failed
  | unknown => .unknown

/-- `mark_operation_receipt`. -/
def markOperationReceipt (receiptKey claimId : String) (outcome : ReceiptOutcome)
    (messageId error : Option String) (now : Int) (rows : Receipts) : Except String Receipts :=
  updateHeld receiptKey claimId .sending
    ("operation receipt send not found: " ++ receiptKey ++ " claim_id=" ++ claimId)
    (fun r =>
      { r with
        status := outcome.status
        attemptCount := r.attemptCount + 1
        nextAttemptAt := now + retryDelay (r.attemptCount + 1)
        claimId := none
        claimedAt := none
        messageId := messageId
        lastError := error
        updatedAt := now }) rows

/-- The decisions of an operator on a receipt whose delivery is unknown. -/
inductive Decision
  | retry | markSent
deriving DecidableEq

/-- `resolve_operation_receipt`, with the text of the decision. -/
def resolveOperationReceipt (receiptKey : String) (decision : Decision) (text : String) (now : Int)
    (rows : Receipts) : Except String Receipts :=
  match rows.lookup receiptKey with
  | none => .error ("operation receipt not found: " ++ receiptKey)
  | some r =>
    if r.status ≠ .unknown then .error ("operation receipt is not unknown: " ++ receiptKey)
    else .ok (rows.updateWhere (fun key r => key = receiptKey && r.status = .unknown) fun r =>
      { r with
        status := if decision = .retry then .failed else .sent
        nextAttemptAt := now
        lastError := some text
        updatedAt := now })

/-! ## What the statements do to a row -/

section
variable {rows rows' : Receipts} {key receiptKey claimId : String} {now : Int}

/-- The row an insertion adds, and no other. -/
theorem lookup_insert {receiptType payloadJson : String} {inserted : Bool}
    (h : insertOperationReceipt receiptKey receiptType payloadJson now rows = .ok (inserted, rows')) :
    (inserted = false ∧ rows' = rows) ∨
      (inserted = true ∧ rows.lookup receiptKey = none ∧
        rows' = rows ++ [(receiptKey, .fresh receiptType payloadJson now)] ∧
        ∀ k, rows'.lookup k =
          if receiptKey = k then some (.fresh receiptType payloadJson now) else rows.lookup k) := by
  unfold insertOperationReceipt at h
  split at h
  · cases h
  · split at h
    · next hnone =>
      cases h
      exact .inr ⟨rfl, hnone, rfl, fun k => Items.lookup_append_singleton k receiptKey _ hnone⟩
    · split at h
      · cases h
      · cases h
        exact .inl ⟨rfl, rfl⟩

/-- An update of a held row changes that row, and it is held. -/
theorem lookup_updateHeld {status : ReceiptStatus} {error : String}
    {f : OperationReceipt → OperationReceipt}
    (h : updateHeld receiptKey claimId status error f rows = .ok rows') :
    (∃ r, rows.lookup receiptKey = some r ∧ r.status = status ∧ r.claimId = some claimId ∧
      rows'.lookup receiptKey = some (f r)) ∧
      ∀ k, k ≠ receiptKey → rows'.lookup k = rows.lookup k := by
  unfold updateHeld at h
  split at h
  · next r hr =>
    split at h
    · next hheld =>
      cases h
      have hfields : r.status = status ∧ r.claimId = some claimId := by
        unfold heldBy at hheld
        simp only [Bool.and_eq_true, decide_eq_true_eq, true_and] at hheld
        exact hheld
      refine ⟨⟨r, hr, hfields.1, hfields.2, ?_⟩, fun k hk => ?_⟩
      · rw [Items.lookup_updateWhere, hr, Option.map_some, if_pos hheld]
      · rw [Items.lookup_updateWhere]
        cases rows.lookup k with
        | none => rfl
        | some r' =>
          rw [Option.map_some, if_neg]
          unfold heldBy
          simp [hk]
    · cases h
  · cases h

/-- Without the row held there is nothing to update. -/
theorem updateHeld_error {status : ReceiptStatus} {error : String}
    {f : OperationReceipt → OperationReceipt}
    (h : ∀ r, rows.lookup receiptKey = some r → r.claimId ≠ some claimId) :
    updateHeld receiptKey claimId status error f rows = .error error := by
  unfold updateHeld
  split
  · next r hr =>
    rw [if_neg]
    unfold heldBy
    simp [h r hr]
  · rfl

theorem lookup_resolve {decision : Decision} {text : String}
    (h : resolveOperationReceipt receiptKey decision text now rows = .ok rows') :
    (∃ r, rows.lookup receiptKey = some r ∧ r.status = .unknown ∧
      rows'.lookup receiptKey = some { r with
        status := if decision = .retry then .failed else .sent
        nextAttemptAt := now
        lastError := some text
        updatedAt := now }) ∧
      ∀ k, k ≠ receiptKey → rows'.lookup k = rows.lookup k := by
  unfold resolveOperationReceipt at h
  split at h
  · cases h
  · next r hr =>
    split at h
    · cases h
    · next hunknown =>
      have hunknown : r.status = .unknown := not_not.mp hunknown
      cases h
      refine ⟨⟨r, hr, hunknown, ?_⟩, fun k hk => ?_⟩
      · rw [Items.lookup_updateWhere, hr, Option.map_some, if_pos]
        simp [hunknown]
      · rw [Items.lookup_updateWhere]
        cases rows.lookup k with
        | none => rfl
        | some r' =>
          rw [Option.map_some, if_neg]
          simp [hk]

/-- A claim transaction expires a row, and then claims it when it is due and selected. -/
theorem lookup_claimDue (rows : Receipts) (claimId : String) (now limit : Int)
    (receiptKey : Option String) (k : String) :
    ∃ selected : Bool, ((claimDueOperationReceipts limit receiptKey claimId now rows).1).lookup k =
      (rows.lookup k).map fun r =>
        if selected && (r.expire now).due now then (r.expire now).claim claimId now
        else r.expire now := by
  unfold claimDueOperationReceipts
  simp only [Items.lookup_updateWhere, if_true, Option.map_map]
  exact ⟨_, rfl⟩

end

end PortfolioManagement.Outbox
