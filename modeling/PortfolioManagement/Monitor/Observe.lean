import Mathlib.Data.List.Sort
import PortfolioManagement.Monitor.Projection

/-!
# One observation of the holdings table

`observe` compares a complete read of the table with the states of the rows before it. A row that is
absent becomes a candidate for deletion and is deleted when a later read, at least two seconds after
the first one without it, does not hold it either. A present row that can be compared is active; one
that cannot is in a gap and keeps its last snapshot. Every change it finds goes into the plan.

The loops of the source write, for each row, one state and at most one change; here they are maps.
Sets of record ids are lists.
-/

namespace PortfolioManagement.Monitor

/-- A time, in microseconds. -/
abbrev Moment := Int

/-- The states of a row. -/
inductive RowStatus
  | active | gap | missingCandidate | deleted | outOfScope
deriving DecidableEq

/-- What is kept of a row. -/
structure RowState where
  /-- `state` -/
  state : RowStatus
  /-- `snapshot`: the last one that could be compared -/
  snapshot : Option HoldingSnapshot
  /-- `observed_at` -/
  observedAt : Option Moment
  /-- `reason` -/
  reason : Option String
  /-- `missing_since` -/
  missingSince : Option Moment
  /-- `current`: the values of a row in a gap -/
  current : Option HoldingSnapshot
deriving DecidableEq

/-- The kinds of a change. -/
inductive ChangeKind
  | outOfScope | recordReplaced | firstObserved | backInScope | identityChanged | measureChanged
  | quantityZero | quantityRestored | quantityChanged | recordDeleted
deriving DecidableEq

/-- A change that is notified. -/
structure Change where
  /-- `kind` -/
  kind : ChangeKind
  /-- `record_id` -/
  recordId : String
  /-- `before` -/
  before : Option HoldingSnapshot
  /-- `after` -/
  after : Option HoldingSnapshot
  /-- `previous_observed_at` -/
  previousObservedAt : Option Moment
  /-- `observed_at` -/
  observedAt : Moment
  /-- `after_gap` -/
  afterGap : Bool
  /-- `previous_record_id` -/
  previousRecordId : Option String
deriving DecidableEq

/-- The states of the rows, by record id. -/
abbrev RowStates := Items String RowState

/-- The settlement plan of an observation. -/
structure Plan where
  /-- `rows` -/
  rows : RowStates
  /-- `changes` -/
  changes : List Change
  /-- `problems`: a record id and a reason -/
  problems : List (String × String)
  /-- `covered_record_ids` -/
  coveredRecordIds : List String
  /-- `proven_deleted_ids` -/
  provenDeletedIds : List String
  /-- `has_missing_candidates` -/
  hasMissingCandidates : Bool

/-! ## Rows that are absent -/

/-- `old["state"] in {"deleted", "out_of_scope"}`. -/
def RowState.settled (old : RowState) : Bool := old.state = .deleted || old.state = .outOfScope

/-- The first read without the row is at least two seconds old. -/
def RowState.confirmedAbsent (now : Moment) (old : RowState) : Bool :=
  match old.missingSince with
  | some first => first + 2000000 ≤ now
  | none => false

/-- `identity(old.get("snapshot") or old.get("current") or {})`. -/
def RowState.identity (old : RowState) : Identity := Monitor.identity (old.snapshot <|> old.current)

/-- The state of a row that the read does not hold. -/
def RowState.absent (now : Moment) (old : RowState) : RowState :=
  if old.settled then old
  else if old.confirmedAbsent now then
    { old with state := .deleted, missingSince := none, reason := none }
  else
    { old with
      state := .missingCandidate
      missingSince := some (old.missingSince.getD now)
      reason := some "record_absent" }

/-- The rows that could be missing: tracked, not settled and not in the read. -/
def missingRows (previous : RowStates) (raw : List String) : RowStates :=
  previous.filter fun row => row.1 ∉ raw ∧ ¬ row.2.settled

/-- The rows whose absence is confirmed. -/
def deletedIds (previous : RowStates) (raw : List String) (now : Moment) : List String :=
  ((missingRows previous raw).filter fun row => row.2.confirmedAbsent now).map Prod.fst

/-- The identities of rows whose absence waits for a second read. -/
def protectedIdentities (previous : RowStates) (raw : List String) (now : Moment) : List Identity :=
  ((missingRows previous raw).filter fun row => ¬ row.2.confirmedAbsent now).map fun row =>
    row.2.identity

/-- `missing_by_identity[key]`. -/
def missingByIdentity (previous : RowStates) (raw : List String) (key : Identity) : List String :=
  ((missingRows previous raw).filter fun row => row.2.identity = key).map Prod.fst

/-! ## Rows that are present -/

/-- What the comparison of a present row reads. -/
structure Context where
  /-- the states before the observation -/
  previous : RowStates
  /-- the record ids of the read -/
  raw : List String
  /-- `now` -/
  now : Moment
  /-- `duplicate_ids` -/
  duplicateIds : List String
  /-- `initialize` -/
  initializing : Bool

/-- The result of the comparison of a present row. -/
structure Outcome where
  /-- `states[rid]`, when it is written -/
  state : Option RowState
  /-- the change -/
  change : Option Change
  /-- the row is in `covered` -/
  covered : Bool
  /-- the reason in `errors` -/
  problem : Option String

namespace Context

variable (ctx : Context)

/-- `deleted`. -/
def deleted : List String := deletedIds ctx.previous ctx.raw ctx.now

/-- `protected`. -/
def protectedKeys : List Identity := protectedIdentities ctx.previous ctx.raw ctx.now

/-- The problem of a row that is not excluded. -/
def rowProblem (rid : String) (item : Projection) : Option String :=
  let problem := if rid ∈ ctx.duplicateIds then some "duplicate_identity" else item.reason
  if identity (some item.snapshot) ∈ ctx.protectedKeys then problem <|> some "missing_group_member"
  else problem

/-- `change(kind, rid, before, after, old)`. -/
def change (kind : ChangeKind) (rid : String) (before after : Option HoldingSnapshot)
    (old : Option RowState) (previousRecordId : Option String) : Change where
  kind := kind
  recordId := rid
  before := before
  after := after
  previousObservedAt := old.bind RowState.observedAt
  observedAt := ctx.now
  afterGap := old.any fun row => row.state = .gap
  previousRecordId := previousRecordId

/-- The row that a row seen for the first time replaces. -/
def predecessor (before : Option HoldingSnapshot) (key : Identity) : Option String :=
  if before.isSome then none
  else match missingByIdentity ctx.previous ctx.raw key with
    | [rid] => if rid ∈ ctx.deleted then some rid else none
    | _ => none

/-- The change of a comparable row that replaces none. -/
def comparison (rid : String) (old : Option RowState) (after : HoldingSnapshot) : Option Change :=
  let state := old.map RowState.state
  match old.bind RowState.snapshot with
  | none =>
    if positive (some after) then some (ctx.change .firstObserved rid none (some after) old none)
    else none
  | some before =>
    if state = some .deleted then
      if positive (some after) then some (ctx.change .firstObserved rid none (some after) old none)
      else none
    else if state = some .outOfScope then
      some (ctx.change .backInScope rid (some before) (some after) old none)
    else if identity (some before) ≠ identity (some after) then
      some (ctx.change .identityChanged rid (some before) (some after) old none)
    else if before.assetType ≠ after.assetType ∨ before.currency ≠ after.currency then
      some (ctx.change .measureChanged rid (some before) (some after) old none)
    else if before.quantity ≠ after.quantity then
      let kind := if ¬ positive (some after) then ChangeKind.quantityZero
        else if ¬ positive (some before) then .quantityRestored
        else .quantityChanged
      some (ctx.change kind rid (some before) (some after) old none)
    else none

/-- The comparison of an excluded row. -/
def excludedOutcome (rid : String) (item : Projection) : Outcome :=
  let old := ctx.previous.lookup rid
  let before := old.bind RowState.snapshot
  let covered := before.isSome && item.snapshot.identified
  match old with
  | none => ⟨none, none, covered, none⟩
  | some row =>
    if before.isSome ∧ ¬ row.settled then
      ⟨some ⟨.outOfScope, some item.snapshot, some ctx.now, none, none, none⟩,
        some (ctx.change .outOfScope rid before (some item.snapshot) old none), covered, none⟩
    else ⟨some row, none, covered, none⟩

/-- The comparison of a present row. -/
def outcome (rid : String) (item : Projection) : Outcome :=
  if item.excluded then ctx.excludedOutcome rid item
  else
    let old := ctx.previous.lookup rid
    let before := old.bind RowState.snapshot
    let after := item.snapshot
    let key := identity (some after)
    match ctx.rowProblem rid item with
    | some problem =>
      ⟨some ⟨.gap, before, old.bind RowState.observedAt, some problem, none, some after⟩, none,
        problem = "duplicate_identity" && key ∉ ctx.protectedKeys, some problem⟩
    | none =>
      let changed := match ctx.predecessor before key with
        | some predecessor =>
          let gone := ctx.previous.lookup predecessor
          some (ctx.change .recordReplaced rid (gone.bind RowState.snapshot) (some after) gone
            (some predecessor))
        | none => if ctx.initializing then none else ctx.comparison rid old after
      ⟨some ⟨.active, some after, some ctx.now, none, none, none⟩, changed, true, none⟩

/-- The deletion of a row that nothing replaces. -/
def deletion (rid : String) : Option Change := do
  let old ← ctx.previous.lookup rid
  let before ← old.snapshot
  return ctx.change .recordDeleted rid (some before) none (some old) none

end Context

/-! ## The observation -/

section
variable (rt : ValueRuntime) (accounts : List String)

/-- `duplicate_ids`: the members of a group with an eligible or tracked member. -/
def duplicateIds (records : List RawHoldingRecord) (previous : RowStates)
    (groups : Items Identity (List RawHoldingRecord)) : List String :=
  (groups.filter fun group => group.2.any fun member =>
    (records.any fun row =>
      row.recordId = member.recordId && (projectRecord rt accounts row).eligible) ||
      (previous.lookup member.recordId).isSome).flatMap fun group =>
        group.2.map RawHoldingRecord.recordId

/-- The context of an observation. -/
def observationContext (records : List RawHoldingRecord) (previous : RowStates) (now : Moment)
    (groups : Items Identity (List RawHoldingRecord)) (initializing : Bool) : Context where
  previous := previous
  raw := records.map RawHoldingRecord.recordId
  now := now
  duplicateIds := duplicateIds rt accounts records previous groups
  initializing := initializing

/-- `observe`. -/
def observe (records : List RawHoldingRecord) (previous : RowStates) (now : Moment)
    (groups : Items Identity (List RawHoldingRecord)) (initializing : Bool) : Except String Plan :=
  let raw := records.map RawHoldingRecord.recordId
  if ¬ raw.Nodup ∨ "" ∈ raw then
    .error "holdings observation has duplicate or missing record_id"
  else
    let ctx := observationContext rt accounts records previous now groups initializing
    let outcomes := records.map fun record =>
      (record.recordId, ctx.outcome record.recordId (projectRecord rt accounts record))
    let absent := (previous.filter fun row => row.1 ∉ raw).map fun row =>
      (row.1, row.2.absent now)
    let rows := absent ++ outcomes.filterMap fun item => item.2.state.map fun state => (item.1, state)
    let present := outcomes.filterMap fun item => item.2.change
    let replaced := present.filterMap Change.previousRecordId
    let covered := ctx.deleted ++ (outcomes.filter fun item => item.2.covered).map Prod.fst
    .ok {
      rows := rows
      changes := present ++ (ctx.deleted.filter fun rid => rid ∉ replaced).filterMap ctx.deletion
      problems := outcomes.filterMap fun item => item.2.problem.map fun reason => (item.1, reason)
      coveredRecordIds := (covered.filter fun rid =>
        ((rows.lookup rid).map RowState.identity).getD ("", "", "") ∉ ctx.protectedKeys).insertionSort
          (· ≤ ·)
      provenDeletedIds := ctx.deleted.insertionSort (· ≤ ·)
      hasMissingCandidates := rows.any fun row => row.2.state = .missingCandidate }

end

/-! ## Runs -/

/-- A complete read of the table and its time. -/
structure Observation where
  /-- the rows -/
  records : List RawHoldingRecord
  /-- the time -/
  now : Moment

/-- The read holds a row. -/
def Observation.Holds (o : Observation) (rid : String) : Prop :=
  rid ∈ o.records.map RawHoldingRecord.recordId

instance (o : Observation) (rid : String) : Decidable (o.Holds rid) :=
  inferInstanceAs (Decidable (_ ∈ _))

/-- The plan of an observation, with the duplicate groups of its rows. -/
def Observation.plan (rt : ValueRuntime) (accounts : List String) (o : Observation)
    (previous : RowStates) (initializing : Bool) : Except String Plan :=
  observe rt accounts o.records previous o.now (duplicateHoldingGroups rt o.records) initializing

/-- The settled observations of a monitor, the last one first: a baseline and observations that each
start from the rows of the one before and meet a condition on these rows and the read. -/
inductive Run (rt : ValueRuntime) (accounts : List String) (K : RowStates → Observation → Prop) :
    List (Observation × Plan) → Prop
  | start {o : Observation} {p : Plan} (hplan : o.plan rt accounts [] true = .ok p) :
    Run rt accounts K [(o, p)]
  | next {o o' : Observation} {p p' : Plan} {past : List (Observation × Plan)}
    (hrun : Run rt accounts K ((o, p) :: past)) (hmeets : K p.rows o')
    (hplan : o'.plan rt accounts p.rows false = .ok p') :
    Run rt accounts K ((o', p') :: (o, p) :: past)

/-- Further reads: each is settled on the last settled one, and one that fails is not settled. -/
def settle (rt : ValueRuntime) (accounts : List String) :
    List Observation → List (Observation × Plan) → List (Observation × Plan)
  | [], history => history
  | _, [] => []
  | o :: reads, (last, p) :: past =>
    match o.plan rt accounts p.rows false with
    | .ok p' => settle rt accounts reads ((o, p') :: (last, p) :: past)
    | .error _ => settle rt accounts reads ((last, p) :: past)

theorem Run.settle {rt : ValueRuntime} {accounts : List String} {K : RowStates → Observation → Prop}
    {reads : List Observation} (hK : ∀ o ∈ reads, ∀ rows, K rows o) {history : List (Observation × Plan)}
    (h : Run rt accounts K history) : Run rt accounts K (settle rt accounts reads history) := by
  induction reads generalizing history with
  | nil =>
    unfold Monitor.settle
    exact h
  | cons o reads ih =>
    have hrest : ∀ o' ∈ reads, ∀ rows, K rows o' := fun o' ho' => hK o' (List.mem_cons_of_mem _ ho')
    rcases history with _ | ⟨⟨last, p⟩, past⟩
    · cases h
    · unfold Monitor.settle
      cases hplan : o.plan rt accounts p.rows false with
      | ok p' => exact ih hrest (h.next (hK o List.mem_cons_self p.rows) hplan)
      | error e => exact ih hrest h

end PortfolioManagement.Monitor
