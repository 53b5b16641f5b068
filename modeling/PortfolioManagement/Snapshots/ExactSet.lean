import PortfolioManagement.Snapshots.Row

/-!
# Exact snapshot sets

A plan binds the rows of one account and date before a write and the rows that are to be there after it.
`residual_actions` compares the rows found now with both and says what is left to create, update and
delete; a set that is neither the one before nor a safe part of the target is refused.
-/

namespace PortfolioManagement.Snapshots

/-! ## Validation -/

section
variable (account asOf : String) (requireRecordId : Bool) (label : SetLabel)

/-- `_assert_snapshot_scope`. -/
def assertSnapshotScope (row : HoldingSnapshot) : Except SnapshotError Unit :=
  if row.account ≠ account ∨ row.asOf ≠ asOf then .error (.scopeMismatch row.key)
  else
    match SnapshotKeyFields.snapshotDedupKey ⟨account, asOf, row.broker, row.assetId⟩ with
    | .error e => .error (.dedupKeyFields e)
    | .ok expected =>
      if row.dedupKey ≠ expected then .error (.dedupKeyMismatch expected row.dedupKey) else .ok ()

/-- What `_validate_rows` checks of one row. -/
def validateRow (row : HoldingSnapshot) : Except SnapshotError Unit := do
  assertSnapshotScope account asOf row
  if requireRecordId && row.id = "" then throw (.recordIdRequired label)

/-- The record ids that are not blank. -/
def recordIds (rows : List HoldingSnapshot) : List String :=
  rows.filterMap fun row => row.recordId.filter (· ≠ "")

/-- `_validate_rows`. -/
def validateRows (rows : List HoldingSnapshot) : Except SnapshotError Unit := do
  let _ ← rows.mapM (validateRow account asOf requireRecordId label)
  if ¬ (rows.map HoldingSnapshot.key).Nodup then throw (.duplicateKeys label)
  if ¬ (recordIds rows).Nodup then throw (.duplicateRecordIds label)

end

/-! ## Plans -/

/-- `SnapshotExactSetPlan`: the bound rows of one account and date. Which texts are dates plays no part
in what a plan does, so `as_of` is any text. -/
structure SnapshotExactSetPlan where
  /-- `account` -/
  account : String
  /-- `as_of` -/
  asOf : String
  /-- `target_digest` -/
  targetDigest : String
  /-- `before` -/
  before : List HoldingSnapshot
  /-- `desired` -/
  desired : List HoldingSnapshot
  /-- the account is not blank -/
  accountGiven : strip account ≠ ""
  /-- the target digest has the length of a digest -/
  digestLength : targetDigest.length = 64
  /-- the rows before are valid and have record ids -/
  beforeValid : validateRows account asOf true .before before = .ok ()
  /-- the desired rows are valid -/
  desiredValid : validateRows account asOf false .desired desired = .ok ()

/-- `SnapshotSetActions`. -/
structure SnapshotSetActions where
  /-- `creates` -/
  creates : List HoldingSnapshot
  /-- `updates` -/
  updates : List (String × HoldingSnapshot)
  /-- `deletes` -/
  deletes : List String
  /-- `unchanged` -/
  unchanged : Nat
deriving DecidableEq

/-- `mutation_count`. -/
def SnapshotSetActions.mutationCount (actions : SnapshotSetActions) : Nat :=
  actions.creates.length + actions.updates.length + actions.deletes.length

/-- What `residual_actions` finds to do about one key. -/
inductive KeyAction
  | create (desired : HoldingSnapshot)
  | update (recordId : String) (desired : HoldingSnapshot)
  | delete (recordId : String)
  | unchanged

namespace KeyAction

/-- The row to create. -/
def created : KeyAction → Option HoldingSnapshot
  | create desired => some desired
  | _ => none

/-- The record to update and its target. -/
def updated : KeyAction → Option (String × HoldingSnapshot)
  | update recordId desired => some (recordId, desired)
  | _ => none

/-- The record to delete. -/
def deleted : KeyAction → Option String
  | delete recordId => some recordId
  | _ => none

/-- There is nothing to do. -/
def isUnchanged : KeyAction → Bool
  | unchanged => true
  | _ => false

end KeyAction

/-- The actions about the keys, gathered. -/
def SnapshotSetActions.collect (actions : List KeyAction) : SnapshotSetActions where
  creates := actions.filterMap KeyAction.created
  updates := actions.filterMap KeyAction.updated
  deletes := actions.filterMap KeyAction.deleted
  unchanged := actions.countP KeyAction.isUnchanged

/-- The row of a key, of rows with distinct keys. -/
def rowAt (rows : List HoldingSnapshot) (key : BusinessKey) : Option HoldingSnapshot :=
  rows.find? fun row => row.key = key

/-- The keys of rows. -/
def keysOf (rows : List HoldingSnapshot) : List BusinessKey := rows.map HoldingSnapshot.key

namespace SnapshotExactSetPlan

variable (plan : SnapshotExactSetPlan) (current : List HoldingSnapshot)

/-- The rows of the set before that are not desired. -/
def obsolete : List HoldingSnapshot :=
  plan.before.filter fun row => row.key ∉ keysOf plan.desired

/-- A row whose key was bound before: it is still that record, with the payload before or the target's. -/
def checkBoundRow (currentRow beforeRow : HoldingSnapshot)
    (currentPayload desiredPayload : RowPayload) : Except SnapshotError Unit := do
  if currentRow.recordId ≠ beforeRow.recordId then throw (.recordIdChanged currentRow.key)
  let beforePayload ← beforeRow.payload
  if currentPayload ≠ beforePayload ∧ currentPayload ≠ desiredPayload then
    throw (.matchesNeither currentRow.key)

/-- What is checked of the current row of a desired key. -/
def checkCurrentRow (currentRow desired : HoldingSnapshot) (currentPayload desiredPayload : RowPayload) :
    Except SnapshotError Unit :=
  match rowAt plan.before desired.key with
  | some beforeRow => checkBoundRow currentRow beforeRow currentPayload desiredPayload
  | none => if currentPayload ≠ desiredPayload then .error (.newRowDiffers desired.key) else .ok ()

/-- The loop body about a desired key. -/
def desiredAction (desired : HoldingSnapshot) : Except SnapshotError KeyAction :=
  match rowAt current desired.key with
  | none =>
    if (rowAt plan.before desired.key).isSome then .error (.disappeared desired.key)
    else .ok (.create desired)
  | some currentRow => do
    let currentPayload ← currentRow.payload
    let desiredPayload ← desired.payload
    plan.checkCurrentRow currentRow desired currentPayload desiredPayload
    if currentPayload = desiredPayload then return .unchanged
    else return .update currentRow.id desired

/-- The loop body about an obsolete key. -/
def obsoleteAction (beforeRow : HoldingSnapshot) : Except SnapshotError KeyAction :=
  match rowAt current beforeRow.key with
  | none => .ok .unchanged
  | some currentRow => do
    if currentRow.recordId ≠ beforeRow.recordId then throw (.obsoleteChanged beforeRow.key)
    let currentPayload ← currentRow.payload
    let beforePayload ← beforeRow.payload
    if currentPayload ≠ beforePayload then throw (.obsoleteChanged beforeRow.key)
    return .delete currentRow.id

/-- The keys of the current rows that the plan does not bind, sorted. -/
def unknownKeys : List BusinessKey :=
  keysOf (sortBy HoldingSnapshot.sortKey
    (current.filter fun row => row.key ∉ keysOf plan.before ∧ row.key ∉ keysOf plan.desired))

/-- `residual_actions`. -/
def residualActions : Except SnapshotError SnapshotSetActions := do
  validateRows plan.account plan.asOf true .current current
  if plan.unknownKeys current ≠ [] then throw (.unboundKeys (plan.unknownKeys current))
  let desired ← (sortBy HoldingSnapshot.sortKey plan.desired).mapM (plan.desiredAction current)
  let obsolete ← (sortBy HoldingSnapshot.sortKey plan.obsolete).mapM (obsoleteAction current)
  return .collect (desired ++ obsolete)

end SnapshotExactSetPlan

/-! ## Valid sets -/

/-- What `_validate_rows` leaves of a set of rows. -/
structure ValidRows (account asOf : String) (requireRecordId : Bool) (rows : List HoldingSnapshot) :
    Prop where
  /-- every row belongs to the account and the date -/
  inScope : ∀ row ∈ rows, assertSnapshotScope account asOf row = .ok ()
  /-- every row has a record id, where one is required -/
  recorded : requireRecordId = true → ∀ row ∈ rows, row.id ≠ ""
  /-- the keys are distinct -/
  keys : (keysOf rows).Nodup
  /-- the record ids are distinct -/
  ids : (recordIds rows).Nodup

section
variable {account asOf : String} {requireRecordId : Bool} {label : SetLabel}
  {rows : List HoldingSnapshot} {row : HoldingSnapshot}

theorem validateRow_ok : validateRow account asOf requireRecordId label row = .ok () ↔
    assertSnapshotScope account asOf row = .ok () ∧
      (requireRecordId = true → row.id ≠ "") := by
  unfold validateRow
  cases hscope : assertSnapshotScope account asOf row with
  | error e => exact iff_of_false (fun h => by cases h) fun h => by cases h.1
  | ok u =>
    have hthen : ∀ x : Except SnapshotError Unit, ((.ok u : Except SnapshotError Unit) >>= fun _ => x) = x :=
      fun _ => rfl
    rw [hthen]
    by_cases hrequired : (requireRecordId && row.id = "") = true
    · rw [if_pos hrequired]
      refine iff_of_false (fun h => by cases h) fun h => ?_
      simp only [Bool.and_eq_true, decide_eq_true_eq] at hrequired
      exact h.2 hrequired.1 hrequired.2
    · rw [if_neg hrequired]
      exact iff_of_true rfl ⟨rfl, fun hr hblank => hrequired (by simp [hr, hblank])⟩

theorem validateRows_ok : validateRows account asOf requireRecordId label rows = .ok () ↔
    ValidRows account asOf requireRecordId rows := by
  constructor
  · intro h
    unfold validateRows at h
    obtain ⟨checked, hchecked, h⟩ := except_bind_ok h
    have hrows : ∀ row ∈ rows, validateRow account asOf requireRecordId label row = .ok () := by
      intro row hrow
      obtain ⟨u, -, hu⟩ := forall₂_mem_left (forall₂_of_mapM_ok hchecked) hrow
      exact hu
    by_cases hkeys : (rows.map HoldingSnapshot.key).Nodup
    · by_cases hids : (recordIds rows).Nodup
      · exact ⟨fun row hrow => (validateRow_ok.mp (hrows row hrow)).1,
          fun hr row hrow => (validateRow_ok.mp (hrows row hrow)).2 hr, hkeys, hids⟩
      · rw [if_neg (not_not.mpr hkeys), if_pos hids] at h
        cases h
    · rw [if_pos hkeys] at h
      cases h
  · intro h
    obtain ⟨checked, hchecked⟩ := mapM_ok_of_forall (f := validateRow account asOf requireRecordId label)
      fun row hrow => ⟨(), validateRow_ok.mpr ⟨h.inScope row hrow, fun hr => h.recorded hr row hrow⟩⟩
    have hkeys : (rows.map HoldingSnapshot.key).Nodup := h.keys
    have hthen : ∀ x : Except SnapshotError Unit,
        ((.ok checked : Except SnapshotError (List Unit)) >>= fun _ => x) = x := fun _ => rfl
    unfold validateRows
    rw [hchecked, hthen, if_neg (not_not.mpr hkeys), if_neg (not_not.mpr h.ids)]
    rfl

end

end PortfolioManagement.Snapshots
