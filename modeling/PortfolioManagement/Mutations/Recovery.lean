import PortfolioManagement.Lib.JsonRoundTrip
import PortfolioManagement.Mutations.Target

/-!
# Recorded cash targets and their retry

Before it writes, a confirmation records for each target the state of the row before, the state it is to
have, and the mutation itself. A retry reads the record as JSON, compares the row as it is now with the
recorded states, and either has nothing to do or hands the mutation to the repository, which checks the
base row once more.
-/

namespace PortfolioManagement.Mutations

open Json (text optionalText display)

section
variable (rt : MutationRuntime)

/-! ## The record -/

/-- The fields of a serialized row. -/
def stateItems (h : Holding rt) : List (String × Json) :=
  [("asset_id", text h.assetId), ("asset_name", h.raw .assetName), ("asset_type", h.raw .assetType),
    ("account", text h.account), ("broker", text h.broker), ("quantity", h.raw .quantity),
    ("avg_cost", h.raw .avgCost), ("currency", h.raw .currency), ("asset_class", h.raw .assetClass),
    ("industry", h.raw .industry), ("tag", h.raw .tag)]

/-- `serialize_holding`. -/
def serializeHolding : Option (Holding rt) → Except MutationError Json
  | none => .ok Json.none
  | some h => do
    let canonical ← canonicalHolding rt h
    return .object (display (stateItems rt canonical))

/-- What is recorded of a target, and the mutation that is written. -/
structure CashTarget where
  /-- the mutation -/
  mutation : HoldingTarget rt
  /-- `identity` -/
  identity : Members
  /-- `before` -/
  before : Json
  /-- `target` -/
  target : Json

/-- The fields a confirmation owns. -/
def cashOwnedFields : Option (Holding rt) → List HoldingField
  | some _ => [.quantity]
  | none => requiredFields ++ [.assetClass, .industry]

/-- The row a confirmation makes of the fresh row and the confirmed target. -/
def confirmedState (confirmed : Holding rt) : Option (Holding rt) → Except MutationError (Holding rt)
  | some before => (canonicalHolding rt before).map fun canonical =>
    { canonical with quantity := confirmed.quantity }
  | none => .ok confirmed

/-- One target of `_confirm_under_locks`. -/
def cashTarget (before : Option (Holding rt)) (confirmed : Holding rt) :
    Except MutationError (CashTarget rt) := do
  let target ← confirmedState rt confirmed before
  let mutation ← HoldingTarget.fromHoldings rt before target (cashOwnedFields rt before)
  let payload ← serializeHolding rt (some target)
  let before ← serializeHolding rt before
  return {
    mutation
    identity := display [("asset_id", text target.assetId), ("account", text target.account),
      ("broker", text target.broker)]
    before
    target := payload }

variable {rt} in
/-- The dict that is recorded. -/
def CashTarget.recorded (task : CashTarget rt) : Members :=
  display [("type", text "CASH_TARGET_SET"), ("identity", .object task.identity),
    ("before", task.before), ("target", task.target), ("mutation", .object task.mutation.toPayload)]

/-- The payload of the task, as a JSON text. -/
def taskText (targets : List Members) : Codes :=
  render (.object (display [("targets", .array (targets.map .object))]))

/-- The targets of a payload that is read. -/
def readTargets (payload : Codes) : Option (List Members) :=
  match loads payload with
  | some (.object members) =>
    match Json.get members "targets" with
    | .array items => items.mapM fun item =>
      match item with
      | .object target => some target
      | _ => none
    | _ => none
  | _ => none

/-! ## The repository -/

/-- Why the repository refuses a mutation. -/
inductive StorageError
  /-- a row is refused -/
  | row (error : MutationError)
  /-- duplicate holding identity -/
  | duplicate
  /-- holding create base is no longer empty -/
  | notEmpty
  /-- holding base disappeared -/
  | disappeared
  /-- holding base record changed -/
  | recordChanged
  /-- holding fresh base digest changed -/
  | digestChanged
deriving DecidableEq

/-- `_find_holding_identity`. -/
def findHoldingIdentity (rows : List (Holding rt)) (identity : HoldingIdentity) :
    Except StorageError (Option (Holding rt)) := do
  let found ← rows.filterMapM fun row =>
    match HoldingIdentity.fromHolding rt row with
    | .error e => .error (.row e)
    | .ok own => .ok (if own = identity then some row else none)
  match found with
  | [] => return none
  | [row] => return some row
  | _ => throw .duplicate

/-- `get_holding_fresh` of the rows of the account. -/
def getHoldingFresh (rows : List (Holding rt)) (identity : HoldingIdentity) :
    Except StorageError (Option (Holding rt)) := do
  match ← findHoldingIdentity rt rows identity with
  | none => return none
  | some row =>
    match canonicalHolding rt row with
    | .error e => throw (.row e)
    | .ok canonical => return some canonical

/-- `_fresh_base_for_target` of the rows of the account. -/
def freshBaseForTarget (rows : List (Holding rt)) (target : HoldingTarget rt) :
    Except StorageError (Option (Holding rt)) := do
  let current ← findHoldingIdentity rt rows target.identity
  match target.baseRecordId, current with
  | none, none => return none
  | none, some _ => throw .notEmpty
  | some _, none => throw .disappeared
  | some recordId, some current =>
    if current.recordId ≠ some recordId.1 then throw .recordChanged
    match holdingStateDigest rt current with
    | .error e => throw (.row e)
    | .ok digest =>
      if digest ≠ target.baseDigest then throw .digestChanged
      return some current

/-! ## The retry -/

/-- Why a retry is refused. -/
inductive Refusal
  /-- the mutation or a row is refused -/
  | mutation (error : MutationError)
  /-- the fresh row cannot be read -/
  | storage (error : StorageError)
  /-- a part of the target has another type -/
  | badType
  /-- compensation target identity disagrees with mutation -/
  | identityDisagrees
  /-- compensation desired state disagrees with mutation -/
  | desiredDisagrees
  /-- current matches neither before nor target -/
  | stateConflict
  /-- holding target must be an object -/
  | notAnObject
deriving DecidableEq

/-- What a retry does with the storage. -/
inductive Verdict
  /-- nothing -/
  | alreadyApplied
  /-- `delete_holding_target_if_zero` -/
  | deleteIfZero (mutation : HoldingTarget rt)
  /-- `replace_holding` -/
  | replace (mutation : HoldingTarget rt)

/-- A result of the contracts, in a retry. -/
def refused {α : Type} : Except MutationError α → Except Refusal α
  | .ok a => .ok a
  | .error e => .error (.mutation e)

/-- `value or {}`, where that is a dict. -/
def dictOrEmpty (v : Json) : Except Refusal Members :=
  if v.truthy then
    match v with
    | .object members => .ok members
    | _ => .error .badType
  else .ok []

mutual

/-- `_state_matches`. -/
def stateMatches (current : Json) : Json → Except Refusal Bool
  | .object [(key, v)] =>
    if key = codes "one_of" then
      match v with
      | .array items => anyMatches current items
      | v =>
        match v.iterated with
        | some items => .ok (items.any (Json.same rt.equalNumbers current))
        | none => .error .badType
    else .ok (Json.same rt.equalNumbers current (.object [(key, v)]))
  | expected => .ok (Json.same rt.equalNumbers current expected)

/-- `any` of `_state_matches`. -/
def anyMatches (current : Json) : List Json → Except Refusal Bool
  | [] => .ok false
  | item :: items => do
    if ← stateMatches current item then return true
    anyMatches current items

end

/-- `holding_owned_fields_match`; an `ArithmeticError` is not caught. -/
def holdingOwnedFieldsMatch (h : Holding rt) (target : HoldingTarget rt) : Except Refusal Bool :=
  match canonicalHolding rt h with
  | .error .arithmetic => .error (.mutation .arithmetic)
  | .error _ => .ok false
  | .ok canonical => do
    let identity ← refused (HoldingIdentity.fromHolding rt canonical)
    if identity ≠ target.identity then return false
    let actual ← refused (holdingValues rt canonical)
    return target.ownedFields.all fun field =>
      Json.same rt.equalNumbers (actual.raw field) (target.values.raw field)

/-- The row is the one the mutation is bound to. -/
def isBase (current : Holding rt) (mutation : HoldingTarget rt) : Except Refusal Bool := do
  if mutation.baseRecordId.isNone ∨ current.recordId ≠ mutation.baseRecordId.map Subtype.val then
    return false
  let digest ← refused (holdingStateDigest rt current)
  return digest = mutation.baseDigest

/-- A float that is not zero. -/
def ModelFloat.notZero (x : ModelFloat rt.toNumberRuntime) : Bool :=
  match x with
  | .finite x => rt.exceeds x
  | .nan => false
  | .infinity | .negInfinity => true

/-- `_apply_holding_target` of a deletion. -/
def applyZeroDelete (mutation : HoldingTarget rt) (before currentState : Json) :
    Option (Holding rt) → Except Refusal (Verdict rt)
  | none => .ok .alreadyApplied
  | some current => do
    let base ← isBase rt current mutation
    let same ← if base then stateMatches rt currentState before else .ok false
    if ¬ same ∨ current.quantity.notZero rt then throw .stateConflict
    return .deleteIfZero mutation

/-- `_apply_holding_target` of a row that is set. -/
def applyTargetSet (mutation : HoldingTarget rt) (before desired currentState : Json)
    (current : Option (Holding rt)) : Except Refusal (Verdict rt) := do
  let holding ← refused mutation.toHolding
  let serialized ← refused (serializeHolding rt (some holding))
  if Json.same rt.equalNumbers desired serialized = false then throw .desiredDisagrees
  let applied ← match current with
    | none => .ok false
    | some current => holdingOwnedFieldsMatch rt current mutation
  if applied then return .alreadyApplied
  let unchanged ← stateMatches rt currentState before
  if ¬ unchanged then throw .stateConflict
  match desired with
  | .object _ => return .replace mutation
  | _ => throw .notAnObject

/-- `get_holding_fresh`, in a retry. -/
def freshHolding (rows : List (Holding rt)) (identity : HoldingIdentity) :
    Except Refusal (Option (Holding rt)) :=
  match getHoldingFresh rt rows identity with
  | .ok current => .ok current
  | .error e => .error (.storage e)

/-- `_apply_holding_target` on the rows of the account, up to what it asks the repository to write. -/
def applyHoldingTarget (rows : List (Holding rt)) (target : Members) : Except Refusal (Verdict rt) := do
  let identity ← dictOrEmpty (Json.get target "identity")
  let canonicalIdentity ← refused (HoldingIdentity.make rt (Json.get identity "asset_id")
    (Json.get identity "account") (Json.get identity "broker"))
  let payload ← dictOrEmpty (Json.get target "mutation")
  let mutation ← refused (HoldingTarget.fromPayload rt payload)
  if mutation.identity ≠ canonicalIdentity then throw .identityDisagrees
  let current ← freshHolding rt rows canonicalIdentity
  let currentState ← refused (serializeHolding rt current)
  if Json.same rt.equalNumbers (Json.get target "type") (text "HOLDING_ZERO_DELETE") then
    applyZeroDelete rt mutation (Json.get target "before") currentState current
  else
    applyTargetSet rt mutation (Json.get target "before") (Json.get target "target") currentState current

end

end PortfolioManagement.Mutations
