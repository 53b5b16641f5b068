import PortfolioManagement.Domain.Text

/-!
# Compensation tasks

The lifecycle of a durable compensation task. The task log is append-only; what every reader sees
is its fold, one task per id, and each appended status is checked against the transition table.
The log is generic in the type `τ` of the targets a task carries.
-/

namespace PortfolioManagement

/-- `CompensationStatus`. -/
inductive CompensationStatus
  | prepared
  | pending
  | running
  | failed
  | resolved
deriving DecidableEq, Repr

namespace CompensationStatus

/-- The stored text. -/
def text : CompensationStatus → String
  | .prepared => "PREPARED"
  | .pending => "PENDING"
  | .running => "RUNNING"
  | .failed => "FAILED"
  | .resolved => "RESOLVED"

/-- `COMPENSATION_TRANSITIONS`. -/
def transitions : CompensationStatus → List CompensationStatus
  | .prepared => [.prepared, .pending, .running, .failed, .resolved]
  | .pending => [.pending, .running, .failed, .resolved]
  | .running => [.running, .failed, .resolved]
  | .failed => [.failed, .running, .resolved]
  | .resolved => [.resolved]

/-- `validate_compensation_transition`. -/
def validateTransition (current target : CompensationStatus) : Except Error Unit :=
  if target ∈ current.transitions then .ok ()
  else .error (.value ("invalid compensation transition: " ++ current.text ++ " -> " ++
    target.text))

end CompensationStatus

/-- A folded compensation task. -/
structure CompensationTask (τ : Type) where
  /-- `task_id` -/
  taskId : Nat
  /-- `operation_type` -/
  operationType : String
  /-- `account` -/
  account : String
  /-- `status` -/
  status : CompensationStatus
  /-- `payload["targets"]` -/
  targets : List τ
  /-- `error` -/
  error : String
  /-- `related_record_id` -/
  relatedRecordId : Option Nat
  /-- `retry_count` -/
  retryCount : Nat := 0
deriving DecidableEq

/-- The folded task log, newest task first. Ids are fresh when a task is created. -/
structure TaskLog (τ : Type) where
  /-- the tasks -/
  tasks : List (CompensationTask τ)
  /-- the next task id -/
  nextId : Nat
  /-- ids are below the next one -/
  fresh : ∀ t ∈ tasks, t.taskId < nextId

namespace TaskLog

variable {τ : Type}

/-- An empty log. -/
def empty : TaskLog τ := ⟨[], 1, by simp⟩

/-- `get_task`. -/
def getTask (log : TaskLog τ) (id : Nat) : Option (CompensationTask τ) :=
  log.tasks.find? fun t => t.taskId = id

/-- Append a `CREATED` event. -/
def create (log : TaskLog τ) (task : Nat → CompensationTask τ)
    (hid : (task log.nextId).taskId = log.nextId) : TaskLog τ where
  tasks := task log.nextId :: log.tasks
  nextId := log.nextId + 1
  fresh := by
    intro t ht
    rcases List.mem_cons.mp ht with rfl | ht
    · rw [hid]; exact Nat.lt_succ_self _
    · exact Nat.lt_succ_of_lt (log.fresh t ht)

/-- Fold a `STATUS` event into its task. -/
def setStatus (log : TaskLog τ) (id : Nat) (f : CompensationTask τ → CompensationTask τ)
    (hid : ∀ t, (f t).taskId = t.taskId) : TaskLog τ where
  tasks := log.tasks.map fun t => if t.taskId = id then f t else t
  nextId := log.nextId
  fresh := by
    intro t ht
    obtain ⟨a, ha, rfl⟩ := List.mem_map.mp ht
    have hlt := log.fresh a ha
    split
    · rw [hid]; exact hlt
    · exact hlt

theorem mem_of_getTask {log : TaskLog τ} {id : Nat} {t : CompensationTask τ}
    (h : log.getTask id = some t) : t ∈ log.tasks :=
  List.mem_of_find?_eq_some h

theorem taskId_of_getTask {log : TaskLog τ} {id : Nat} {t : CompensationTask τ}
    (h : log.getTask id = some t) : t.taskId = id := by
  simpa using List.find?_some h

theorem getTask_create {log : TaskLog τ} {task : Nat → CompensationTask τ}
    {hid : (task log.nextId).taskId = log.nextId} :
    (log.create task hid).getTask log.nextId = some (task log.nextId) :=
  List.find?_cons_of_pos (by simpa using hid)

/-- A status event changes the task it names and no other. -/
theorem getTask_setStatus {log : TaskLog τ} {id : Nat}
    {f : CompensationTask τ → CompensationTask τ} (hid : ∀ t, (f t).taskId = t.taskId) (j : Nat) :
    (log.setStatus id f hid).getTask j =
      (log.getTask j).map fun t => if t.taskId = id then f t else t := by
  unfold getTask setStatus
  rw [List.find?_map]
  congr 2
  funext t
  simp only [Function.comp_apply]
  split <;> simp [hid]

end TaskLog

end PortfolioManagement
