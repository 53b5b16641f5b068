import PortfolioManagement.ProcessLock.Operations

/-!
# The financial locks never deadlock

Each operation takes its locks in the order scanner, accounts by name, effect, compensation task,
and then the task log or the NAV history. Every piece is shown to ascend from locks of the families
before its first one.
-/

namespace PortfolioManagement.ProcessLock

open LockOrder (Code LockEvent State)

/-! ## Accounts -/

theorem pairwise_sortedSet (names : List String) : (sortedSet names).Pairwise (· < ·) := by
  have hsorted : (sortedSet names).Pairwise (· ≤ ·) := List.pairwise_insertionSort _ _
  have hnodup : (sortedSet names).Pairwise (· ≠ ·) :=
    (List.perm_insertionSort _ _).nodup_iff.mpr (List.nodup_dedup names)
  exact (hsorted.and hnodup).imp fun h => lt_of_le_of_ne h.1 h.2

theorem pairwise_targetAccounts (names : List String) (account : String) :
    (targetAccounts names account).Pairwise (· < ·) := by
  unfold targetAccounts
  simp only
  split
  · exact List.pairwise_singleton _ _
  · exact pairwise_sortedSet _

/-- Accounts locked by name, around code that ascends from keys of the first two families. -/
theorem lockAccounts_ascends {accounts : List String} {held : List LockKey} {body : Code LockKey}
    (haccounts : accounts.Pairwise (· < ·)) (hheld : ∀ k ∈ held, k.family < 1)
    (hbody : ∀ held' : List LockKey, (∀ k ∈ held', k.family < 2) → body.Ascends held') :
    (Code.lockedAll (accounts.map .account) body).Ascends held := by
  refine Code.ascends_lockedAll (List.pairwise_map.mpr (haccounts.imp LockKey.account_lt))
    (fun k hk key hkey => ?_) (hbody _ fun k hk => ?_)
  · obtain ⟨account, -, rfl⟩ := List.mem_map.mp hkey
    exact LockKey.lt_of_family (hheld k hk)
  · rcases List.mem_append.mp hk with haccount | hk
    · obtain ⟨account, -, rfl⟩ := List.mem_map.mp (List.mem_reverse.mp haccount)
      exact Nat.lt_succ_self 1
    · exact (hheld k hk).trans (Nat.lt_succ_self 1)

/-- A key around code that ascends from keys up to its family. -/
theorem locked_ascends {key : LockKey} {held : List LockKey} {body : Code LockKey}
    (hheld : ∀ k ∈ held, k.family < key.family)
    (hbody : ∀ held' : List LockKey, (∀ k ∈ held', k.family < key.family + 1) →
      body.Ascends held') : (Code.locked key body).Ascends held := by
  refine ⟨fun k hk => LockKey.lt_of_family (hheld k hk), hbody _ fun k hk => ?_⟩
  rcases List.mem_cons.mp hk with rfl | hk
  · exact Nat.lt_succ_self _
  · exact (hheld k hk).trans (Nat.lt_succ_self _)

/-! ## Compensations -/

section
variable {queueFile : String} {held : List LockKey}

section
variable (h : ∀ k ∈ held, k.family < 4)
include h

theorem appendEvent_ascends : (appendEvent queueFile).Ascends held :=
  ⟨trivial, locked_ascends h fun _ _ => trivial⟩

theorem getTask_ascends : (getTask queueFile).Ascends held :=
  ⟨Code.ascends_onlyIf (locked_ascends h fun _ _ => trivial), trivial⟩

theorem mirrorCurrentState_ascends : (mirrorCurrentState queueFile).Ascends held :=
  ⟨getTask_ascends h, Code.ascends_onlyIf ⟨trivial, appendEvent_ascends h, trivial⟩⟩

theorem appendStatus_ascends : (appendStatus queueFile).Ascends held :=
  ⟨getTask_ascends h, trivial, appendEvent_ascends h,
    Code.ascends_onlyIf (mirrorCurrentState_ascends h)⟩

theorem patchNavDetails_ascends : patchNavDetails.Ascends held :=
  locked_ascends (fun k hk => (h k hk).trans (Nat.lt_succ_self 4)) fun _ _ => trivial

theorem writeNav_ascends : writeNav.Ascends held :=
  ⟨trivial, patchNavDetails_ascends h⟩

theorem applyTarget_ascends : applyTarget.Ascends held :=
  Code.ascends_either trivial ⟨trivial, Code.ascends_onlyIf
    ⟨trivial, Code.ascends_onlyIf (patchNavDetails_ascends h), trivial⟩⟩

theorem retryUnderLocks_ascends : (retryUnderLocks queueFile).Ascends held :=
  ⟨getTask_ascends h, Code.ascends_onlyIf
    ⟨appendStatus_ascends h,
      ⟨⟨applyTarget_ascends h, appendStatus_ascends h⟩, appendStatus_ascends h, getTask_ascends h⟩,
      Code.ascends_onlyIf ⟨appendStatus_ascends h, getTask_ascends h⟩⟩⟩

theorem publishSnapshot_ascends : publishSnapshot.Ascends held :=
  ⟨trivial, Code.ascends_onlyIf (patchNavDetails_ascends h), trivial⟩

end

section
variable (h : ∀ k ∈ held, k.family < 3)
include h

theorem record_ascends (taskId : String) : (record queueFile taskId).Ascends held :=
  ⟨trivial, locked_ascends h fun _ hheld =>
    ⟨appendEvent_ascends hheld, Code.ascends_onlyIf (mirrorCurrentState_ascends hheld)⟩⟩

theorem prepare_ascends (taskId : String) : (prepare queueFile taskId).Ascends held :=
  ⟨trivial, locked_ascends h fun _ hheld => appendEvent_ascends hheld⟩

theorem updateStatus_ascends (taskId : String) : (updateStatus queueFile taskId).Ascends held :=
  locked_ascends h fun _ hheld => ⟨getTask_ascends hheld, trivial, appendStatus_ascends hheld⟩

theorem confirmUnderLocks_ascends : (confirmUnderLocks queueFile).Ascends held :=
  ⟨trivial, Code.ascends_onlyIf
    ⟨⟨trivial, fun taskId => ⟨record_ascends h taskId, trivial⟩⟩, Code.ascends_onlyIf trivial⟩⟩

theorem persistNavAndSnapshotLocked_ascends :
    (persistNavAndSnapshotLocked queueFile).Ascends held := by
  have hlow : ∀ k ∈ held, k.family < 4 := fun k hk => (h k hk).trans (Nat.lt_succ_self 3)
  have hupdate : ∀ taskId, (updateStatus queueFile taskId).Ascends held :=
    fun taskId => updateStatus_ascends h taskId
  refine ⟨trivial, writeNav_ascends hlow, trivial, Code.ascends_onlyIf fun taskId =>
    ⟨prepare_ascends h taskId, ⟨writeNav_ascends hlow, ?_⟩,
      ⟨publishSnapshot_ascends hlow, ?_⟩, Code.ascends_onlyIf (hupdate taskId)⟩⟩
  · exact ⟨trivial, Code.ascends_either ⟨hupdate taskId, trivial⟩
      (Code.ascends_either (hupdate taskId) ⟨hupdate taskId, trivial⟩)⟩
  · exact ⟨⟨⟨trivial, Code.ascends_onlyIf (patchNavDetails_ascends hlow)⟩, trivial⟩, hupdate taskId⟩

end

theorem compensationRetry_ascends (taskId : String) :
    (compensationRetry queueFile taskId).Ascends [] := by
  have hnone : ∀ n, ∀ k ∈ ([] : List LockKey), k.family < n := fun _ _ hk => by cases hk
  refine ⟨trivial, getTask_ascends (hnone 4), Code.ascends_onlyIf ⟨trivial, fun targets => ?_⟩⟩
  refine lockAccounts_ascends (pairwise_targetAccounts _ _) (hnone 1) fun held' hheld => ?_
  exact locked_ascends (fun k hk => (hheld k hk).trans (Nat.lt_succ_self 2)) fun _ hlocked =>
    retryUnderLocks_ascends hlocked

theorem confirm_ascends (effectId : String) : (confirm queueFile effectId).Ascends [] := by
  refine ⟨trivial, locked_ascends (fun _ hk => by cases hk) fun held' hheld =>
    ⟨trivial, fun names => ?_⟩⟩
  exact lockAccounts_ascends (pairwise_sortedSet _) hheld fun _ haccounts =>
    locked_ascends haccounts fun _ hlocked => confirmUnderLocks_ascends hlocked

theorem scan_ascends : scan.Ascends [] :=
  locked_ascends (fun _ hk => by cases hk) fun _ _ => ⟨trivial, trivial, trivial, trivial⟩

theorem recordNav_ascends (account : String) : (recordNav queueFile account).Ascends [] := by
  refine Code.ascends_either trivial
    (locked_ascends (fun _ hk => by cases hk) fun _ hlocked => ⟨trivial, ?_, trivial⟩)
  exact persistNavAndSnapshotLocked_ascends fun k hk => (hlocked k hk).trans (Nat.lt_succ_self 2)

end

/-! ## All operations -/

/-- Every operation takes its locks in ascending order. -/
theorem Operation.ascends (queueFile : String) (operation : Operation) :
    (operation.code queueFile).Ascends [] := by
  have hnone : ∀ n, ∀ k ∈ ([] : List LockKey), k.family < n := fun _ _ hk => by cases hk
  cases operation with
  | confirm effectId => exact confirm_ascends effectId
  | scan => exact scan_ascends
  | navGate => exact ⟨trivial, scan_ascends, trivial⟩
  | effectRetry taskId =>
    exact ⟨trivial, compensationRetry_ascends taskId,
      Code.ascends_onlyIf ⟨trivial, getTask_ascends (hnone 4), trivial⟩⟩
  | compensationRetry taskId => exact compensationRetry_ascends taskId
  | prepare taskId => exact prepare_ascends (hnone 3) taskId
  | record taskId => exact record_ascends (hnone 3) taskId
  | updateStatus taskId => exact updateStatus_ascends (hnone 3) taskId
  | recordNav account => exact recordNav_ascends account

/-- However processes interleave the operations, and wherever they die, no process requests a key
that it holds, and the processes that wait for keys held by others form no cycle. -/
theorem financial_locks_never_deadlock {π : Type} [DecidableEq π] {s : State π LockKey}
    (hs : State.Reachable financialCodes s) :
    (∀ p key, s.Requests p key → key ∉ s.held p) ∧ ∀ p, ¬ Relation.TransGen s.WaitsFor p p := by
  refine State.no_deadlock (fun code hcode => ?_) hs
  obtain ⟨queueFile, operation, rfl⟩ := hcode
  exact operation.ascends queueFile

/-! ## Two scans -/

/-- What a scan does to the locks. -/
def scanEvents : List (LockEvent LockKey) := [.request .scanner, .release .scanner]

/-- The first of two processes holds the scanner and the second requests it. -/
def secondScanWaits : State Bool LockKey :=
  ((State.idle.set true scanEvents []).set true [.release .scanner] [.scanner]).set false
    scanEvents []

/-- Two scans, of which the second waits for the scanner that the first holds. -/
theorem second_scan_waits_without_deadlock :
    State.Reachable financialCodes secondScanWaits ∧ secondScanWaits.WaitsFor false true ∧
      (∀ p key, secondScanWaits.Requests p key → key ∉ secondScanWaits.held p) ∧
      ∀ p, ¬ Relation.TransGen secondScanWaits.WaitsFor p p := by
  have hscan : scan ∈ financialCodes := ⟨"tasks.jsonl", .scan, rfl⟩
  have hruns : scan.Runs scanEvents false := .locked (.seq (.calm false) (.returned (.calm false)))
  have hstarted : State.Step financialCodes (State.idle : State Bool LockKey)
      (State.idle.set true scanEvents []) := .start hscan hruns rfl
  have hheld : State.Step financialCodes (State.idle.set true scanEvents [])
      ((State.idle.set true scanEvents []).set true [.release .scanner] [.scanner]) :=
    .acquire rfl fun q => by cases q <;> simp [State.set, State.idle]
  have hwaits : State.Step financialCodes
      ((State.idle.set true scanEvents []).set true [.release .scanner] [.scanner])
      secondScanWaits := .start hscan hruns rfl
  have hreachable : State.Reachable financialCodes secondScanWaits :=
    ((Relation.ReflTransGen.single hstarted).tail hheld).tail hwaits
  exact ⟨hreachable, ⟨.scanner, ⟨[.release .scanner], rfl⟩, List.mem_singleton_self _⟩,
    financial_locks_never_deadlock hreachable⟩

end PortfolioManagement.ProcessLock
