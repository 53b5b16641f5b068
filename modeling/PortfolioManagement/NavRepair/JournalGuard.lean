import PortfolioManagement.NavRepair.JournalLaws

/-!
# What a patch is issued on

Every patch that a command issues is one of the plan, for a row that was read with the base facts of the
plan and in the states of the other side, and a journal completes only when every row has been read back
in its desired states. This holds whatever third parties do and wherever a command ends, since it is
about the rows as they were read.
-/

namespace PortfolioManagement.NavRepair

open Nav
open Prog (Spec)

/-! ## What is told of a journal -/

/-- A table that was read has the row of a target in its desired states. -/
def ReadBack (read : Sheet) (target : PatchTarget) : Prop :=
  ∃ row, read.record target.recordId = some row ∧ SameRowStates row target.baseFields ∧
    SameRowStates row target.desiredMaintenanceFields

/-- A target has been read back. -/
def ReadBackIn (reads : List Sheet) (target : PatchTarget) : Prop := ∃ read ∈ reads, ReadBack read target

/-- A patch of a plan: the row was read with the base facts of the plan and in the states of the side
that is left, and what differs on the other side is written. -/
structure Issued (plan : PatchPlan) (rollback : Bool) (read : Sheet) (request : PatchRequest)
    (target : PatchTarget) (row : FreshNavRow) : Prop where
  /-- a target of the plan -/
  mem : target ∈ plan.rows
  /-- its row as it was read -/
  found : read.record target.recordId = some row
  /-- it is one of the account -/
  account : row.account = plan.account
  /-- the base facts -/
  base : SameRowStates row target.baseFields
  /-- the states -/
  states : SameRowStates row (if rollback then target.desiredMaintenanceFields
    else target.originalMaintenanceFields)
  /-- it is the row of the request -/
  recordId : request.recordId = target.recordId
  /-- what is written -/
  fields : request.fields = patchPayload (if rollback then target.originalFields
    else target.targetFields)

/-- What the log may tell of a plan. -/
def Justified (plan : PatchPlan) : LogEntry → Prop
  | .issued rollback read request => ∃ target row, Issued plan rollback read request target row
  | .completed reads => ∀ target ∈ plan.rows, ReadBackIn reads target

/-- A world whose journal is that of a plan. -/
structure Sound (plan : PatchPlan) (w : PatchWorld) : Prop where
  /-- the first line -/
  head : ∃ rest, w.file.events = .planned plan :: rest
  /-- a row that is applied has been read back -/
  applied : ∀ target ∈ plan.rows, ∀ a, .row target.recordId .applied a ∈ w.file.lines →
    ReadBackIn w.reads target
  /-- the log -/
  log : ∀ entry ∈ w.log, Justified plan entry

/-- The steps of a command may do anything. -/
def AnyStep (_ _ : PatchWorld) : Prop := True

theorem ReadBackIn.mono {reads reads' : List Sheet} {target : PatchTarget} (h : ReadBackIn reads target)
    (hsub : reads ⊆ reads') : ReadBackIn reads' target := by
  obtain ⟨read, hread, hback⟩ := h
  exact ⟨read, hsub hread, hback⟩

/-- The rows of a command are those of the table that was read last. -/
structure Holds (plan : PatchPlan) (current : Items Nat FreshNavRow) (reads : List Sheet) : Prop where
  holds : ∃ read rest, reads = read :: rest ∧ ∀ recordId row, current.lookup recordId = some row →
    read.record recordId = some row ∧ row.account = plan.account

section
variable {plan : PatchPlan} {P : List Sheet → Prop} {S : List PatchTarget}
  {current : Items Nat FreshNavRow}

/-- Nothing but the reads matters for what comes next. -/
def Knowing (plan : PatchPlan) (P : List Sheet → Prop) (w : PatchWorld) : Prop :=
  Sound plan w ∧ P w.reads

theorem nextTurn_sound : Spec AnyStep (Knowing plan P) nextTurn (fun _ => Knowing plan P)
    (fun _ => Sound plan) :=
  nextTurn_spec (fun _ hw _ => hw) fun _ _ _ hw _ =>
    ⟨trivial, ⟨hw.1.head, hw.1.applied, hw.1.log⟩, hw.2⟩

/-! ## Appends -/

/-- What may be appended. -/
structure Allowed (plan : PatchPlan) (event : JournalEvent) (reads : List Sheet) : Prop where
  /-- a row that is applied has been read back -/
  applied : ∀ target ∈ plan.rows, ∀ a, event = .row target.recordId .applied a → ReadBackIn reads target
  /-- and at the end every row -/
  completed : event = .state .completed → ∀ target ∈ plan.rows, ReadBackIn reads target

theorem Sound.append {w : PatchWorld} {event : JournalEvent} (h : Sound plan w)
    (hallowed : Allowed plan event w.reads) (extent : Extent) : Sound plan (w.append event extent) where
  head := by
    obtain ⟨rest, hrest⟩ := h.head
    exact JournalFile.head_append hrest
  applied target htarget a hmem := by
    rcases JournalFile.mem_lines_append hmem with hold | hnew
    · exact h.applied target htarget a hold
    · exact hallowed.applied target htarget a hnew.symm
  log entry hentry := by
    unfold PatchWorld.append at hentry
    by_cases hcompleted : event = .state .completed ∧ extent ∈ [Extent.unended, .whole]
    · simp only [if_pos hcompleted] at hentry
      rcases List.mem_append.mp hentry with hold | hnew
      · exact h.log entry hold
      · rw [List.mem_singleton.mp hnew]
        exact hallowed.completed hcompleted.1
    · simp only [if_neg hcompleted] at hentry
      exact h.log entry hentry

theorem appendJournal_sound {event : JournalEvent} (hallowed : ∀ reads, P reads → Allowed plan event reads) :
    Spec AnyStep (Knowing plan P) (appendJournal event) (fun _ => Knowing plan P)
      (fun _ => Sound plan) := by
  have happend : ∀ extent w, Knowing plan P w → Knowing plan P (w.append event extent) :=
    fun extent w hw => ⟨hw.1.append (hallowed _ hw.2) extent, hw.2⟩
  unfold appendJournal
  refine Spec.bind nextTurn_sound fun ending => ?_
  cases ending with
  | done => exact Spec.alter (fun _ _ => trivial) (happend .whole)
  | raised extent =>
    exact Spec.bind (Q := fun _ => Knowing plan P) (Spec.alter (fun _ _ => trivial) (happend extent))
      fun _ => Spec.raise fun _ hw => hw.1
  | ended extent =>
    exact Spec.bind (Q := fun _ => Knowing plan P) (Spec.alter (fun _ _ => trivial) (happend extent))
      fun _ => Spec.raise fun _ hw => hw.1

/-- A line that neither applies a row nor completes. -/
theorem allowed_of_ne {event : JournalEvent} {reads : List Sheet}
    (hrow : ∀ recordId a, event ≠ .row recordId .applied a) (hstate : event ≠ .state .completed) :
    Allowed plan event reads :=
  ⟨fun target _ a h => absurd h (hrow target.recordId a), fun h => absurd h hstate⟩

theorem appendRow_sound {recordId : Nat} {status : RowStatus} (hstatus : status ≠ .applied) :
    Spec AnyStep (Knowing plan P) (appendRow recordId status) (fun _ => Knowing plan P)
      (fun _ => Sound plan) :=
  appendJournal_sound fun _ _ => allowed_of_ne (fun _ _ h => hstatus (by cases h; rfl)) nofun

/-- A target that was read back may be applied. -/
theorem appendApplied_sound (hnodup : (plan.rows.map (·.recordId)).Nodup) {target : PatchTarget}
    (htarget : target ∈ plan.rows) (hP : ∀ reads, P reads → ReadBackIn reads target) :
    Spec AnyStep (Knowing plan P) (appendRow target.recordId .applied) (fun _ => Knowing plan P)
      (fun _ => Sound plan) := by
  refine appendJournal_sound fun reads hreads => ⟨fun other hother a h => ?_, nofun⟩
  have hid : target.recordId = other.recordId := (JournalEvent.row.inj h).1
  obtain rfl := eq_of_key_eq hnodup htarget hother hid
  exact hP reads hreads

theorem readJournal_sound :
    Spec AnyStep (Knowing plan P) readJournal
      (fun view w => Knowing plan P w ∧ ReadView plan w.file.lines view) (fun _ => Sound plan) := by
  refine Spec.of_eq fun w hw => ?_
  obtain ⟨rest, hrest⟩ := hw.1.head
  obtain ⟨rest', hlines⟩ := JournalFile.head_lines hrest
  unfold readJournal
  refine Spec.bind (Q := fun lines v => v = w ∧ lines = w.file.lines)
    (Spec.reads fun v hv => ⟨hv, by rw [hv]⟩) fun lines => Spec.lift ?_
  rintro v ⟨rfl, rfl⟩
  rw [hlines]
  cases hread : readLines (.planned plan :: rest') with
  | error exit => exact hw.1
  | ok view => exact ⟨hw, hlines ▸ readLines_ok hread⟩

theorem failApply_sound (recordId : Nat) (writeAttempted : Option Bool) :
    Spec AnyStep (Knowing plan P) (failApply recordId writeAttempted) (fun _ => Sound plan)
      (fun _ => Sound plan) := by
  unfold failApply
  refine Spec.bind (appendJournal_sound fun _ _ => allowed_of_ne nofun nofun) fun _ => ?_
  refine Spec.bind (appendJournal_sound fun _ _ => allowed_of_ne nofun nofun) fun _ => ?_
  exact Spec.bind readJournal_sound fun view => Spec.ret fun w hw => hw.1.1

theorem failRollback_sound (recordId : Nat) :
    Spec AnyStep (Knowing plan P) (failRollback recordId) (fun _ => Sound plan) (fun _ => Sound plan) := by
  unfold failRollback
  refine Spec.bind (appendRow_sound nofun) fun _ => ?_
  refine Spec.bind (appendJournal_sound fun _ _ => allowed_of_ne nofun nofun) fun _ => ?_
  exact Spec.bind readJournal_sound fun view => Spec.ret fun w hw => hw.1.1

/-! ## Reads -/

/-- Targets stay verified when a table is read. -/
def AllVerified (S : List PatchTarget) (reads : List Sheet) : Prop := ∀ target ∈ S, ReadBackIn reads target

/-- What a command knows between its steps. -/
def Current (plan : PatchPlan) (S : List PatchTarget) (current : Items Nat FreshNavRow)
    (reads : List Sheet) : Prop :=
  AllVerified S reads ∧ Holds plan current reads

theorem checkCurrent_ok {fresh : List FreshNavRow} (h : checkCurrent plan fresh = .ok current) :
    List.Forall₂ (fun target (item : Nat × FreshNavRow) => item.2 ∈ fresh ∧ item.2.date = target.date ∧
      item.2.recordId = target.recordId ∧ item.1 = target.recordId) plan.rows current := by
  unfold checkCurrent at h
  obtain ⟨u, -, h⟩ := except_bind_ok h
  by_cases hdependencies : maintenanceDependencyEvidence fresh (plan.rows.map (·.date)) ≠
      plan.dependencyRows
  · rw [if_pos hdependencies] at h
    cases h
  · rw [if_neg hdependencies] at h
    refine (forall₂_of_mapM_ok h).imp fun target item hitem => ?_
    split at hitem
    next row hfilter =>
      split at hitem
      next hid =>
        cases hitem
        have hmem : row ∈ fresh.filter fun row => row.date = target.date := by
          rw [hfilter]
          exact List.mem_singleton_self row
        obtain ⟨hfresh, hdate⟩ := List.mem_filter.mp hmem
        exact ⟨hfresh, of_decide_eq_true hdate, hid, rfl⟩
      · cases hitem
    · cases hitem

/-- The current rows are rows of the table. -/
theorem checkCurrent_holds {read : Sheet} {rest : List Sheet}
    (h : checkCurrent plan (read.accountRows plan.account) = .ok current) :
    Holds plan current (read :: rest) := by
  refine ⟨read, rest, rfl, fun recordId row hrow => ?_⟩
  obtain ⟨item, hitem, rfl, rfl⟩ : ∃ item ∈ current, item.1 = recordId ∧ item.2 = row :=
    ⟨(recordId, row), Items.mem_of_lookup hrow, rfl, rfl⟩
  obtain ⟨target, -, hfresh, -, hid, hkey⟩ := forall₂_mem_right (checkCurrent_ok h) hitem
  obtain ⟨hmem, haccount⟩ := Sheet.mem_accountRows.mp hfresh
  rw [hkey, ← hid]
  exact ⟨Sheet.record_of_mem hmem, haccount⟩

theorem readRows_sound (account : String) :
    Spec AnyStep (Knowing plan (AllVerified S)) (readRows account)
      (fun rows => Knowing plan fun reads => AllVerified S reads ∧
        ∃ read rest, reads = read :: rest ∧ rows = read.accountRows account)
      (fun _ => Sound plan) := by
  unfold readRows
  refine Spec.bind nextTurn_sound fun ending => ?_
  cases ending with
  | raised extent => exact Spec.raise fun w hw => hw.1
  | ended extent => exact Spec.raise fun w hw => hw.1
  | done =>
    refine Spec.bind (Q := fun _ w => Knowing plan (fun reads => AllVerified S reads ∧
        ∃ rest, reads = w.sheet :: rest) w) (Spec.alter (fun _ _ => trivial) fun w hw => ?_) fun _ => ?_
    · have hsub : w.reads ⊆ w.sheet :: w.reads := List.subset_cons_self _ _
      exact ⟨⟨hw.1.head, fun target ht a hmem => (hw.1.applied target ht a hmem).mono hsub, hw.1.log⟩,
        fun target ht => (hw.2 target ht).mono hsub, w.reads, rfl⟩
    · refine Spec.reads fun w hw => ⟨hw.1, hw.2.1, ?_⟩
      obtain ⟨rest, hrest⟩ := hw.2.2
      exact ⟨w.sheet, rest, hrest, rfl⟩

theorem currentRows_sound :
    Spec AnyStep (Knowing plan (AllVerified S)) (currentRows plan)
      (fun current => Knowing plan (Current plan S current)) (fun _ => Sound plan) := by
  unfold currentRows
  refine Spec.bind (readRows_sound plan.account) fun rows => Spec.lift fun w hw => ?_
  obtain ⟨hsound, hverified, read, rest, hreads, rfl⟩ := hw
  cases hcheck : checkCurrent plan (read.accountRows plan.account) with
  | error stop => exact hsound
  | ok current => exact ⟨hsound, hverified, hreads ▸ checkCurrent_holds hcheck⟩

/-- The current row of a target. -/
theorem liveRow_sound (recordId : Nat) :
    Spec AnyStep (Knowing plan (Current plan S current)) (liveRow current recordId)
      (fun row w => Knowing plan (Current plan S current) w ∧ current.lookup recordId = some row)
      (fun _ => Sound plan) := by
  unfold liveRow
  cases hrow : current.lookup recordId with
  | none => exact Spec.raise fun w hw => hw.1
  | some row => exact Spec.ret fun w hw => ⟨hw, rfl⟩

/-- A row that is found in its desired states is verified. -/
theorem Current.verified {reads : List Sheet} {target : PatchTarget} {row : FreshNavRow}
    (h : Current plan S current reads) (hrow : current.lookup target.recordId = some row)
    (hbase : SameRowStates row target.baseFields)
    (hdesired : SameRowStates row target.desiredMaintenanceFields) :
    Current plan (target :: S) current reads := by
  obtain ⟨read, rest, hreads, hfound⟩ := h.2.holds
  refine ⟨fun other hother => ?_, h.2⟩
  rcases List.mem_cons.mp hother with rfl | hold
  · exact ⟨read, hreads ▸ List.mem_cons_self, row, (hfound _ _ hrow).1, hbase, hdesired⟩
  · exact h.1 other hold

/-! ## Patches -/

/-- A patch of a row that was read in the states of the side that is left is issued. -/
theorem restrictedPatch_sound {target : PatchTarget} {row : FreshNavRow} {rollback : Bool}
    (htarget : target ∈ plan.rows) (hrow : current.lookup target.recordId = some row)
    (hbase : SameRowStates row target.baseFields)
    (hstates : SameRowStates row (if rollback then target.desiredMaintenanceFields
      else target.originalMaintenanceFields)) :
    Spec AnyStep (Knowing plan (Current plan S current))
      (restrictedPatch rollback target.recordId
        (if rollback then target.originalFields else target.targetFields))
      (fun _ => Knowing plan (Current plan S current)) (fun _ => Sound plan) := by
  unfold restrictedPatch
  refine Spec.bind (Q := fun _ => Knowing plan (Current plan S current))
    (Spec.require (fun w hw _ => hw) fun w hw _ => hw.1) fun _ => ?_
  refine Spec.bind (Q := fun _ => Knowing plan (Current plan S current))
    (Spec.require (fun w hw _ => hw) fun w hw _ => hw.1) fun _ => ?_
  refine Spec.bind (Q := fun _ => Knowing plan (Current plan S current))
    (Spec.require (fun w hw _ => hw) fun w hw _ => hw.1) fun _ => ?_
  refine Spec.bind nextTurn_sound fun ending => ?_
  refine Spec.bind (Q := fun _ => Knowing plan (Current plan S current))
    (Spec.alter (fun _ _ => trivial) fun w hw => ?_) fun _ => ?_
  · -- the entry of the log
    refine ⟨⟨hw.1.head, hw.1.applied, fun entry hentry => ?_⟩, hw.2⟩
    rcases List.mem_append.mp hentry with hold | hnew
    · exact hw.1.log entry hold
    · obtain ⟨read, rest, hreads, hfound⟩ := hw.2.2.holds
      obtain ⟨hrecord, haccount⟩ := hfound _ _ hrow
      rw [List.mem_singleton.mp hnew]
      have hread : w.reads.headD w.sheet = read := by
        rw [hreads]
        rfl
      exact ⟨target, row,
        { mem := htarget
          found := hread ▸ hrecord
          account := haccount
          base := hbase
          states := hstates
          recordId := rfl
          fields := rfl }⟩
  · have hcarry : ∀ extent fields, Spec AnyStep (Knowing plan (Current plan S current))
        (carryOutIf extent target.recordId fields) (fun _ => Knowing plan (Current plan S current))
        (fun _ => Sound plan) := fun extent fields =>
      Spec.onlyIf (fun _ => Spec.alter (fun _ _ => trivial) fun w hw =>
        ⟨⟨hw.1.head, hw.1.applied, hw.1.log⟩, hw.2⟩) fun w hw _ => hw
    cases ending with
    | done =>
      exact Spec.alter (fun _ _ => trivial) fun w hw => ⟨⟨hw.1.head, hw.1.applied, hw.1.log⟩, hw.2⟩
    | raised extent =>
      exact Spec.bind (hcarry _ _) fun _ => Spec.raise fun w hw => hw.1
    | ended extent =>
      exact Spec.bind (hcarry _ _) fun _ => Spec.raise fun w hw => hw.1

/-- The patch of a row and its readback: a target that is applied is verified. -/
theorem patchTarget_sound {target : PatchTarget} {row : FreshNavRow} {rollback : Bool}
    (htarget : target ∈ plan.rows) (hrow : current.lookup target.recordId = some row)
    (hbase : SameRowStates row target.baseFields)
    (hstates : SameRowStates row (if rollback then target.desiredMaintenanceFields
      else target.originalMaintenanceFields)) :
    Spec AnyStep (Knowing plan (Current plan S current)) (patchTarget plan rollback target)
      (fun current' => Knowing plan
        (Current plan (if rollback then S else target :: S) current')) (fun _ => Sound plan) := by
  unfold patchTarget
  refine Spec.bind (restrictedPatch_sound htarget hrow hbase hstates) fun _ => ?_
  refine Spec.bind (currentRows_sound.pre fun w hw => ⟨hw.1, hw.2.1⟩) fun current' => ?_
  refine Spec.bind (liveRow_sound target.recordId) fun live => ?_
  refine Spec.bind (Q := fun _ w => (Knowing plan (Current plan S current') w ∧
      current'.lookup target.recordId = some live) ∧ SameRowStates live target.baseFields)
    (Spec.require (fun w hw h => ⟨hw, h⟩) fun w hw _ => hw.1.1) fun _ => ?_
  refine Spec.bind (Q := fun _ w => ((Knowing plan (Current plan S current') w ∧
      current'.lookup target.recordId = some live) ∧ SameRowStates live target.baseFields) ∧
      SameRowStates live (if rollback then target.originalMaintenanceFields
        else target.desiredMaintenanceFields))
    (Spec.require (fun w hw h => ⟨hw, h⟩) fun w hw _ => hw.1.1.1) fun _ => ?_
  refine Spec.ret fun w hw => ?_
  obtain ⟨⟨⟨hknowing, hlive⟩, hlivebase⟩, hlivestates⟩ := hw
  cases rollback with
  | true => exact hknowing
  | false => exact ⟨hknowing.1, hknowing.2.verified hlive hlivebase hlivestates⟩

/-! ## Applying -/

/-- The rows that the check before the first patch finds applied are in their desired states. -/
theorem preflight_sound (hnodup : (plan.rows.map (·.recordId)).Nodup) {rows : List JournalRow}
    (hrows : ∀ row ∈ rows, row.target ∈ plan.rows) :
    Spec AnyStep (Knowing plan (Current plan S current)) (preflight current rows)
      (fun _ => Knowing plan (Current plan [] current)) (fun _ => Sound plan) := by
  have hweaken : ∀ {S' w}, Knowing plan (Current plan S' current) w →
      Knowing plan (Current plan [] current) w := fun hw =>
    ⟨hw.1, fun _ h => absurd h List.not_mem_nil, hw.2.2⟩
  induction rows generalizing S with
  | nil => exact Spec.ret fun w hw => hweaken hw
  | cons row rest ih =>
    have hrest : ∀ r ∈ rest, r.target ∈ plan.rows := fun r hr => hrows r (List.mem_cons_of_mem _ hr)
    have hgo : ∀ {live : FreshNavRow}, Spec AnyStep
        (fun w => Knowing plan (Current plan S current) w ∧
          current.lookup row.target.recordId = some live) (preflight current rest)
        (fun _ => Knowing plan (Current plan [] current)) (fun _ => Sound plan) :=
      fun {live} => (ih hrest).pre fun w hw => hw.1
    unfold preflight
    refine Spec.bind (liveRow_sound row.target.recordId) fun live => ?_
    refine Spec.ite (fun _ => Spec.ret fun w hw => hweaken hw.1) fun hbase => ?_
    refine Spec.ite (fun _ => ?_) fun _ => ?_
    · exact Spec.ite (fun _ => hgo) fun _ => Spec.ret fun w hw => hweaken hw.1
    · refine Spec.ite (fun hdesired => ?_) fun _ => ?_
      · -- the row is applied by an earlier run that could not tell
        refine Spec.bind (Q := fun _ => Knowing plan (Current plan (row.target :: S) current)) ?_
          fun _ => ih hrest
        refine (appendApplied_sound hnodup (hrows row List.mem_cons_self)
          fun reads hreads => hreads.1 _ List.mem_cons_self).pre fun w hw => ?_
        exact ⟨hw.1.1, hw.1.2.verified hw.2 (not_not.mp hbase) hdesired⟩
      · exact Spec.ite (fun _ => hgo) fun _ => Spec.ret fun w hw => hweaken hw.1

/-- The check of a row before its patch. -/
theorem checkBeforeApply_sound (hnodup : (plan.rows.map (·.recordId)).Nodup) {target : PatchTarget}
    (htarget : target ∈ plan.rows) :
    Spec AnyStep (Knowing plan (Current plan S current)) (checkBeforeApply current target)
      (fun done w => Knowing plan (Current plan (if done then target :: S else S) current) w ∧
        (done = false → ∃ live, current.lookup target.recordId = some live ∧
          SameRowStates live target.baseFields ∧
          SameRowStates live target.originalMaintenanceFields))
      (fun _ => Sound plan) := by
  unfold checkBeforeApply
  refine Spec.bind (liveRow_sound target.recordId) fun live => ?_
  refine Spec.bind (Q := fun _ w => (Knowing plan (Current plan S current) w ∧
      current.lookup target.recordId = some live) ∧ SameRowStates live target.baseFields)
    (Spec.require (fun w hw h => ⟨hw, h⟩) fun w hw _ => hw.1.1) fun _ => ?_
  refine Spec.ite (fun hdesired => ?_) fun _ => ?_
  · refine Spec.bind (Q := fun _ => Knowing plan (Current plan (target :: S) current)) ?_ fun _ =>
      Spec.ret fun w hw => ⟨hw, nofun⟩
    refine (appendApplied_sound hnodup htarget fun reads hreads => hreads.1 _ List.mem_cons_self).pre
      fun w hw => ?_
    exact ⟨hw.1.1.1, hw.1.1.2.verified hw.1.2 hw.2 hdesired⟩
  · refine Spec.bind (Q := fun _ w => ((Knowing plan (Current plan S current) w ∧
        current.lookup target.recordId = some live) ∧ SameRowStates live target.baseFields) ∧
        SameRowStates live target.originalMaintenanceFields)
      (Spec.require (fun w hw h => ⟨hw, h⟩) fun w hw _ => hw.1.1.1) fun _ => ?_
    exact Spec.ret fun w hw => ⟨hw.1.1.1, fun _ => ⟨live, hw.1.1.2, hw.1.2, hw.2⟩⟩

/-- The turn of a row: it is verified unless the turn fails. -/
theorem applyTurn_sound (hnodup : (plan.rows.map (·.recordId)).Nodup) {target : PatchTarget}
    (htarget : target ∈ plan.rows) :
    Spec AnyStep (Knowing plan (Current plan S current)) (applyTurn plan current target)
      (fun r w => match r with
        | .error _ => Sound plan w
        | .ok current' => Knowing plan (Current plan (target :: S) (current'.getD current)) w)
      (fun _ => Sound plan) := by
  unfold applyTurn
  refine Spec.bind (attempt_spec (checkBeforeApply_sound hnodup htarget)) fun r => ?_
  cases r with
  | error refusal => exact Spec.ret fun w hw => hw
  | ok done =>
    cases done with
    | true => exact Spec.ret fun w hw => hw.1
    | false =>
      refine Spec.of_eq fun w₀ hw₀ => ?_
      obtain ⟨hknowing, hcheck⟩ := hw₀
      obtain ⟨live, hlive, hbase, horiginal⟩ := hcheck rfl
      have hpatch : Spec AnyStep (fun w => w = w₀) (patchTarget plan false target)
          (fun current' => Knowing plan (Current plan (target :: S) current')) (fun _ => Sound plan) :=
        Spec.pre (patchTarget_sound htarget hlive hbase horiginal) fun w hw => hw ▸ hknowing
      refine Spec.bind (attempt_spec hpatch) fun r => ?_
      cases r with
      | error refusal => exact Spec.ret fun w hw => hw
      | ok current' => exact Spec.ret fun w hw => hw

/-- The turns of the rows: they are all verified unless the turns stop. -/
theorem applyRows_sound (hnodup : (plan.rows.map (·.recordId)).Nodup) {rows : List JournalRow}
    (hrows : ∀ row ∈ rows, row.target ∈ plan.rows)
    (hdone : ∀ row ∈ rows, row.status = .applied → row.target ∈ S) :
    Spec AnyStep (Knowing plan (Current plan S current)) (applyRows plan rows current)
      (fun r w => Sound plan w ∧
        (r = none → AllVerified (S ++ rows.map (·.target)) w.reads)) (fun _ => Sound plan) := by
  induction rows generalizing S current with
  | nil => exact Spec.ret fun w hw => ⟨hw.1, fun _ => by simpa using hw.2.1⟩
  | cons row rest ih =>
    have hrest : ∀ r ∈ rest, r.target ∈ plan.rows := fun r hr => hrows r (List.mem_cons_of_mem _ hr)
    have hgo : ∀ current', Spec AnyStep (Knowing plan (Current plan (row.target :: S) current'))
        (applyRows plan rest current')
        (fun r w => Sound plan w ∧
          (r = none → AllVerified (S ++ (row :: rest).map (·.target)) w.reads))
        (fun _ => Sound plan) := by
      intro current'
      refine (ih hrest fun r hr happlied =>
        List.mem_cons_of_mem _ (hdone r (List.mem_cons_of_mem _ hr) happlied)).post fun r w hw =>
          ⟨hw.1, fun hnone target htarget => hw.2 hnone target ?_⟩
      simp only [List.map_cons, List.mem_append, List.mem_cons] at htarget ⊢
      tauto
    unfold applyRows
    refine Spec.ite (fun happlied => ?_) fun _ => ?_
    · -- applied before
      refine (hgo current).pre fun w hw => ⟨hw.1, fun target htarget => ?_, hw.2.2⟩
      rcases List.mem_cons.mp htarget with rfl | hold
      · exact hw.2.1 _ (hdone row List.mem_cons_self happlied)
      · exact hw.2.1 _ hold
    · refine Spec.bind (applyTurn_sound hnodup (hrows row List.mem_cons_self)) fun r => ?_
      cases r with
      | error attempted => exact Spec.ret fun w hw => ⟨hw, fun hnone => by cases hnone⟩
      | ok turned =>
        cases turned with
        | none => exact hgo current
        | some current' =>
          refine Spec.bind (Q := fun _ => Knowing plan (Current plan (row.target :: S) current')) ?_
            fun _ => hgo current'
          exact appendApplied_sound hnodup (hrows row List.mem_cons_self)
            fun reads hreads => hreads.1 _ List.mem_cons_self

/-- The targets whose rows are applied in a view. -/
def appliedTargets (rows : List JournalRow) : List PatchTarget :=
  (rows.filter fun row => row.status = .applied).map (·.target)

/-- A row that is applied in the view of a journal has been read back. -/
theorem Sound.applied_verified {w : PatchWorld} {view : JournalView} (h : Sound plan w)
    (hview : ReadView plan w.file.lines view) : AllVerified (appliedTargets view.rows) w.reads := by
  intro target htarget
  obtain ⟨row, hrow, rfl⟩ := List.mem_map.mp htarget
  obtain ⟨hmem, happlied⟩ := List.mem_filter.mp hrow
  have hstatus : row.status = .applied := of_decide_eq_true happlied
  rcases hview.statuses row hmem with hpending | ⟨a, hline⟩
  · rw [hstatus] at hpending
    cases hpending
  · rw [hstatus] at hline
    exact h.applied _ (hview.mem_plan hmem) a hline

theorem applyJournal_sound :
    Spec AnyStep (Sound plan) applyJournal (fun _ => Sound plan) (fun _ => Sound plan) := by
  have hknowing : ∀ {w}, Sound plan w → Knowing plan (AllVerified []) w := fun hw =>
    ⟨hw, fun _ h => absurd h List.not_mem_nil⟩
  have hfail : ∀ recordId attempted, Spec AnyStep (Sound plan) (failApply recordId attempted)
      (fun _ => Sound plan) (fun _ => Sound plan) := fun recordId attempted =>
    (failApply_sound recordId attempted).pre fun w hw => hknowing hw
  unfold applyJournal
  refine Spec.bind (readJournal_sound.pre fun w hw => hknowing hw) fun view => ?_
  refine Spec.of_eq fun w₀ hw₀ => ?_
  have hread := hw₀.2
  have hnodup := (checkJournalPlan_ok hread.checked).2.1
  rw [hread.planned]
  refine Spec.bind (Q := fun _ => Knowing plan (AllVerified []))
    (Spec.require (fun w hw _ => hw ▸ hw₀.1) fun w hw _ => hw ▸ hw₀.1.1) fun _ => ?_
  refine Spec.bind (attempt_spec currentRows_sound) fun r => ?_
  cases r with
  | error refusal => exact hfail _ _
  | ok current =>
    refine Spec.bind (preflight_sound hnodup fun row hrow => hread.mem_plan hrow) fun conflict => ?_
    cases conflict with
    | some recordId => exact (hfail _ _).pre fun w hw => hw.1
    | none =>
      refine Spec.bind (appendJournal_sound fun _ _ => allowed_of_ne nofun nofun) fun _ => ?_
      refine Spec.bind readJournal_sound fun view' => ?_
      refine Spec.of_eq fun w₁ hw₁ => ?_
      obtain ⟨⟨hsound, hverified, hholds⟩, hread'⟩ := hw₁
      rw [hread'.planned]
      have happlied := hsound.applied_verified hread'
      refine Spec.bind ((applyRows_sound (S := appliedTargets view'.rows) hnodup
        (fun row hrow => hread'.mem_plan hrow) fun row hrow happlied => ?_).pre
          fun w hw => hw ▸ ⟨hsound, happlied, hholds⟩) fun r => ?_
      · exact List.mem_map.mpr ⟨row, List.mem_filter.mpr ⟨hrow, decide_eq_true happlied⟩, rfl⟩
      · cases r with
        | some stopped => exact (hfail _ _).pre fun w hw => hw.1
        | none =>
          refine Spec.bind (Q := fun _ => Knowing plan (AllVerified plan.rows))
            (Spec.pre (appendJournal_sound fun reads hreads =>
                ⟨fun _ _ _ h => (JournalEvent.noConfusion h), fun _ => hreads⟩)
              fun w hw => ⟨hw.1, fun target htarget => ?_⟩) fun _ => ?_
          · refine hw.2 rfl target (List.mem_append_right _ ?_)
            rw [hread'.targets]
            exact htarget
          · exact Spec.bind readJournal_sound fun _ => Spec.ret fun w hw => hw.1.1

/-! ## Rolling back -/

theorem rollbackRows_sound {rows : List JournalRow} (hrows : ∀ row ∈ rows, row.target ∈ plan.rows) :
    Spec AnyStep (Knowing plan (Current plan S current)) (rollbackRows plan rows current)
      (fun _ => Sound plan) (fun _ => Sound plan) := by
  induction rows generalizing current with
  | nil => exact Spec.ret fun w hw => hw.1
  | cons row rest ih =>
    have hrest : ∀ r ∈ rest, r.target ∈ plan.rows := fun r hr => hrows r (List.mem_cons_of_mem _ hr)
    unfold rollbackRows
    refine Spec.ite (fun _ => ih hrest) fun _ => ?_
    refine Spec.bind (liveRow_sound row.target.recordId) fun live => ?_
    refine Spec.ite (fun _ => Spec.ret fun w hw => hw.1.1) fun hbase => ?_
    refine Spec.ite (fun _ => ?_) fun _ => ?_
    · exact Spec.bind (Q := fun _ => Knowing plan (Current plan S current))
        (Spec.pre (appendRow_sound nofun) fun w hw => hw.1) fun _ => ih hrest
    · refine Spec.ite (fun _ => Spec.ret fun w hw => hw.1.1) fun hdesired => ?_
      refine Spec.of_eq fun w₀ hw₀ => ?_
      have hpatch : Spec AnyStep (fun w => w = w₀) (patchTarget plan true row.target)
          (fun current' => Knowing plan (Current plan S current')) (fun _ => Sound plan) :=
        Spec.pre (patchTarget_sound (hrows row List.mem_cons_self) hw₀.2 (not_not.mp hbase)
          (not_not.mp hdesired)) fun w hw => hw ▸ hw₀.1
      refine Spec.bind (attempt_spec hpatch) fun r => ?_
      cases r with
      | error refusal => exact Spec.ret fun w hw => hw
      | ok current' => exact Spec.bind (appendRow_sound nofun) fun _ => ih hrest

theorem rollbackJournal_sound :
    Spec AnyStep (Sound plan) rollbackJournal (fun _ => Sound plan) (fun _ => Sound plan) := by
  have hknowing : ∀ {w}, Sound plan w → Knowing plan (AllVerified []) w := fun hw =>
    ⟨hw, fun _ h => absurd h List.not_mem_nil⟩
  unfold rollbackJournal
  refine Spec.bind (readJournal_sound.pre fun w hw => hknowing hw) fun view => ?_
  refine Spec.of_eq fun w₀ hw₀ => ?_
  have hread := hw₀.2
  refine Spec.ite (fun _ => Spec.ret fun w hw => hw ▸ hw₀.1.1) fun _ => ?_
  rw [hread.planned]
  refine Spec.bind (currentRows_sound.pre fun w hw => hw ▸ hw₀.1) fun current => ?_
  refine Spec.bind (appendJournal_sound fun _ _ => allowed_of_ne nofun nofun) fun _ => ?_
  refine Spec.bind (rollbackRows_sound fun row hrow =>
    hread.mem_plan (List.mem_reverse.mp hrow)) fun r => ?_
  cases r with
  | some recordId => exact (failRollback_sound recordId).pre fun w hw => hknowing hw
  | none =>
    refine Spec.bind (Q := fun _ => Knowing plan (AllVerified []))
      (Spec.pre (appendJournal_sound fun _ _ => allowed_of_ne nofun nofun) fun w hw => hknowing hw)
      fun _ => ?_
    exact Spec.bind readJournal_sound fun _ => Spec.ret fun w hw => hw.1.1

end

/-! ## Runs -/

theorem runCommand_sound {plan : PatchPlan} {w : PatchWorld} (h : Sound plan w) (command : PatchCommand)
    (turns : List Turn) : Sound plan (runCommand w command turns).2 := by
  have hbegin : Sound plan (w.begin turns) := ⟨h.head, h.applied, h.log⟩
  unfold runCommand
  cases command with
  | apply => exact (applyJournal_sound _ hbegin).2.snd
  | rollback => exact (rollbackJournal_sound _ hbegin).2.snd

theorem runCommands_sound {plan : PatchPlan} (runs : List (PatchCommand × List Turn)) {w : PatchWorld}
    (h : Sound plan w) : Sound plan (runCommands w runs) := by
  unfold runCommands
  induction runs generalizing w with
  | nil => exact h
  | cons run runs ih => exact ih (runCommand_sound h run.1 run.2)

theorem planned_sound (sheet : Sheet) (plan : PatchPlan) : Sound plan (.planned sheet plan) where
  head := ⟨[], rfl⟩
  applied target _ a h := by
    rcases List.mem_singleton.mp h with h
    cases h
  log _ h := absurd h List.not_mem_nil

/-- Whatever third parties do and wherever the commands end, the journal begins with its plan, every
patch that a command issues is one of the plan for a row that it last read with the base facts and in the
states of the side it leaves, and a journal completes only after every row was read back in its desired
states. -/
theorem repair_patches_are_guarded (sheet : Sheet) (plan : PatchPlan)
    (runs : List (PatchCommand × List Turn)) :
    (∃ rest, (runCommands (.planned sheet plan) runs).file.events = .planned plan :: rest) ∧
      (∀ rollback read request,
        .issued rollback read request ∈ (runCommands (.planned sheet plan) runs).log →
        ∃ target row, Issued plan rollback read request target row) ∧
      ∀ reads, .completed reads ∈ (runCommands (.planned sheet plan) runs).log →
        ∀ target ∈ plan.rows, ReadBackIn reads target := by
  have hsound := runCommands_sound runs (planned_sound sheet plan)
  exact ⟨hsound.head, fun _ _ _ h => hsound.log _ h, fun _ h => hsound.log _ h⟩

end PortfolioManagement.NavRepair
