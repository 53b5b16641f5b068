import Mathlib.Data.Prod.Lex
import Mathlib.Data.String.Basic
import Mathlib.Data.List.Sort
import Mathlib.Data.List.Dedup
import PortfolioManagement.Lib.LockOrder

/-!
# The locks of the financial operations

Five families of `process_lock` keys are taken by the cash-flow effects, the compensations and the
NAV records: the scanner, the accounts, an effect, a compensation task, and at the bottom the task
log and the NAV history. Each operation is its control flow between these locks; whatever its data
decide is left open.
-/

namespace PortfolioManagement.ProcessLock

open LockOrder (Code)

/-- The keys. -/
inductive LockKey
  /-- `"cash-flow-effects:scanner"` -/
  | scanner
  /-- `account_lock_key` -/
  | account (account : String)
  /-- the lock of an effect -/
  | effect (effectId : String)
  /-- the lock of a compensation task -/
  | compensation (taskId : String)
  /-- the lock of a task log -/
  | compensationLog (queueFile : String)
  /-- `nav_history_lock_key` -/
  | navHistory
deriving DecidableEq

namespace LockKey

/-- The text that is hashed to the name of the lock file. -/
def text : LockKey → String
  | .scanner => "cash-flow-effects:scanner"
  | .account name => "account-write:" ++ name
  | .effect effectId => "cash-flow-effect:" ++ effectId
  | .compensation taskId => "compensation:" ++ taskId
  | .compensationLog queueFile => "compensation-log:" ++ queueFile
  | .navHistory => "nav-history-write"

/-- The place of a family in the order. -/
def family : LockKey → Nat
  | .scanner => 0
  | .account _ => 1
  | .effect _ => 2
  | .compensation _ => 3
  | .compensationLog _ => 4
  | .navHistory => 5

/-- What tells the keys of a family apart. -/
def name : LockKey → String
  | .account s | .effect s | .compensation s | .compensationLog s => s
  | .scanner | .navHistory => ""

/-- How the texts of a family begin. -/
def opening : LockKey → String
  | .scanner => "cash-flow-effects:scanner"
  | .account _ => "account-write:"
  | .effect _ => "cash-flow-effect:"
  | .compensation _ => "compensation:"
  | .compensationLog _ => "compensation-log:"
  | .navHistory => "nav-history-write"

theorem toList_text (key : LockKey) :
    key.text.toList = key.opening.toList ++ key.name.toList := by
  cases key with
  | scanner | navHistory => exact (List.append_nil _).symm
  | account | effect | compensation | compensationLog => exact String.toList_append

/-- The family of a text, read off three of its characters. -/
def familyOf (text : List Char) : Nat :=
  if text[0]? = some 'a' then 1
  else if text[0]? = some 'n' then 5
  else if text[12]? = some ':' then 3
  else if text[12]? = some '-' then 4
  else if text[16]? = some ':' then 2
  else 0

theorem familyOf_text (key : LockKey) : familyOf key.text.toList = key.family := by
  rw [toList_text]
  cases key <;> simp [opening, familyOf, family]

/-- Different keys have different texts. -/
theorem text_injective : Function.Injective text := by
  intro a b h
  have hfamily : a.family = b.family := by rw [← familyOf_text, ← familyOf_text, h]
  have htext : a.opening.toList ++ a.name.toList = b.opening.toList ++ b.name.toList := by
    rw [← toList_text, ← toList_text, h]
  cases a <;> cases b <;> simp only [family, reduceCtorEq, Nat.reduceEqDiff] at hfamily
  all_goals first | rfl | exact congrArg _ (String.toList_inj.mp (List.append_cancel_left htext))

/-- Keys are ordered by family, and in a family by name. -/
instance : Preorder LockKey := Preorder.lift fun key => toLex (key.family, key.name)

theorem lt_of_family {a b : LockKey} (h : a.family < b.family) : a < b := Prod.Lex.left _ _ h

theorem account_lt {a b : String} (h : a < b) : account a < account b := Prod.Lex.right _ h

end LockKey

/-- `sorted({…})`. -/
def sortedSet (names : List String) : List String := names.dedup.insertionSort (· ≤ ·)

/-- The accounts of an effect, nonblank. -/
def effectAccounts (names : List String) : List String := sortedSet (names.filter (· ≠ ""))

/-- The accounts of the targets of a task, or that of the task. -/
def targetAccounts (names : List String) (account : String) : List String :=
  let named := names.filter (· ≠ "")
  if named = [] then [account] else sortedSet named

/-! ## Compensations -/

section
variable (queueFile : String)

/-- `_append_event` -/
def appendEvent : Code LockKey := .seq .calm (.locked (.compensationLog queueFile) .calm)

/-- `_read_events`; there may be no log. -/
def readEvents : Code LockKey := .onlyIf (.locked (.compensationLog queueFile) .calm)

/-- `get_task` -/
def getTask : Code LockKey := .seq (readEvents queueFile) .calm

/-- `_mirror_current_state` -/
def mirrorCurrentState : Code LockKey :=
  .seq (getTask queueFile) (.onlyIf (.seq .calm (.rescue (appendEvent queueFile) .calm)))

/-- `_append_status` -/
def appendStatus : Code LockKey :=
  .seq (getTask queueFile) (.seq .calm
    (.seq (appendEvent queueFile) (.onlyIf (mirrorCurrentState queueFile))))

/-- `record` -/
def record (taskId : String) : Code LockKey :=
  .seq .calm (.locked (.compensation taskId)
    (.seq (appendEvent queueFile) (.onlyIf (mirrorCurrentState queueFile))))

/-- `prepare` -/
def prepare (taskId : String) : Code LockKey :=
  .seq .calm (.locked (.compensation taskId) (appendEvent queueFile))

/-- `update_status` -/
def updateStatus (taskId : String) : Code LockKey :=
  .locked (.compensation taskId)
    (.seq (getTask queueFile) (.seq .calm (appendStatus queueFile)))

/-- `patch_nav_details` -/
def patchNavDetails : Code LockKey := .locked .navHistory .calm

/-- `_apply_snapshot_target` -/
def applySnapshotTarget : Code LockKey :=
  .seq .calm (.onlyIf (.seq .calm (.seq (.onlyIf patchNavDetails) .calm)))

/-- `_apply_target` -/
def applyTarget : Code LockKey := .either .calm applySnapshotTarget

/-- `retry` once its locks are held. -/
def retryUnderLocks : Code LockKey :=
  .seq (getTask queueFile) (.onlyIf (.seq (appendStatus queueFile)
    (.seq
      (.rescue (.loop (.seq applyTarget (appendStatus queueFile)))
        (.seq (appendStatus queueFile) (getTask queueFile)))
      (.onlyIf (.seq (appendStatus queueFile) (getTask queueFile))))))

/-- `CompensationService.retry` -/
def compensationRetry (taskId : String) : Code LockKey :=
  .seq .calm (.seq (getTask queueFile) (.onlyIf (.seq .calm
    (.branch fun targets : List String × String =>
      .lockedAll ((targetAccounts targets.1 targets.2).map .account)
        (.locked (.compensation taskId) (retryUnderLocks queueFile))))))

/-! ## Cash-flow effects -/

/-- `_confirm_under_locks`: a failed write is recorded as a new task. -/
def confirmUnderLocks : Code LockKey :=
  .seq .calm (.onlyIf (.seq
    (.rescue .calm (.branch fun taskId : String => .seq (record queueFile taskId) .calm))
    (.onlyIf .calm)))

/-- `CashFlowEffectService.confirm` -/
def confirm (effectId : String) : Code LockKey :=
  .seq .calm (.locked .scanner (.seq .calm (.branch fun names : List String =>
    .lockedAll ((effectAccounts names).map .account)
      (.locked (.effect effectId) (confirmUnderLocks queueFile)))))

/-- `scan`: a failed scan is stored and raised again. -/
def scan : Code LockKey :=
  .locked .scanner (.seq .calm (.rescue .calm (.seq .calm .fail)))

/-- `nav_gate` -/
def navGate : Code LockKey := .seq .calm (.seq scan .calm)

/-- `CashFlowEffectService.retry` -/
def effectRetry (taskId : String) : Code LockKey :=
  .seq .calm (.seq (compensationRetry queueFile taskId)
    (.onlyIf (.seq .calm (.seq (getTask queueFile) .calm))))

/-! ## NAV records -/

/-- `_write_nav`, one row or in bulk. -/
def writeNav : Code LockKey := .seq .calm (.locked .navHistory .calm)

/-- A failed NAV write: not written, written as a fresh read shows, or unknown. -/
def navWriteFailed (taskId : String) : Code LockKey :=
  .seq .calm (.either (.seq (updateStatus queueFile taskId) .fail)
    (.either (updateStatus queueFile taskId) (.seq (updateStatus queueFile taskId) .fail)))

/-- The snapshot and the completion of the NAV details. -/
def publishSnapshot : Code LockKey :=
  .seq .calm (.seq (.onlyIf patchNavDetails) .calm)

/-- A failed publication: the details say so if they can be patched, and the task is updated. -/
def publicationFailed (taskId : String) : Code LockKey :=
  .seq (.rescue (.seq .calm (.onlyIf patchNavDetails)) .calm) (updateStatus queueFile taskId)

/-- `_persist_nav_and_snapshot_locked` -/
def persistNavAndSnapshotLocked : Code LockKey :=
  .seq .calm (.seq writeNav (.seq .calm (.onlyIf (.branch fun taskId : String =>
    .seq (prepare queueFile taskId)
      (.seq (.rescue writeNav (navWriteFailed queueFile taskId))
        (.seq (.rescue publishSnapshot (publicationFailed queueFile taskId))
          (.onlyIf (updateStatus queueFile taskId))))))))

/-- `record_nav`; without persistence no lock is taken. -/
def recordNav (account : String) : Code LockKey :=
  .either .calm (.locked (.account account)
    (.seq .calm (.seq (persistNavAndSnapshotLocked queueFile) .calm)))

end

/-- The operations. -/
inductive Operation
  | confirm (effectId : String)
  | scan
  | navGate
  | effectRetry (taskId : String)
  | compensationRetry (taskId : String)
  | prepare (taskId : String)
  | record (taskId : String)
  | updateStatus (taskId : String)
  | recordNav (account : String)

/-- The code of an operation, of a service with a task log. -/
def Operation.code (queueFile : String) : Operation → Code LockKey
  | confirm effectId => ProcessLock.confirm queueFile effectId
  | scan => ProcessLock.scan
  | navGate => ProcessLock.navGate
  | effectRetry taskId => ProcessLock.effectRetry queueFile taskId
  | compensationRetry taskId => ProcessLock.compensationRetry queueFile taskId
  | prepare taskId => ProcessLock.prepare queueFile taskId
  | record taskId => ProcessLock.record queueFile taskId
  | updateStatus taskId => ProcessLock.updateStatus queueFile taskId
  | recordNav account => ProcessLock.recordNav queueFile account

/-- What the processes of a host may run. -/
def financialCodes : Set (Code LockKey) :=
  fun code => ∃ (queueFile : String) (operation : Operation), code = operation.code queueFile

end PortfolioManagement.ProcessLock
