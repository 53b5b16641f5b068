import PortfolioManagement.Lib.Keyed
import PortfolioManagement.Lib.Program
import PortfolioManagement.NavRepair.Common

/-!
# The table a repair works on

The rows of all accounts as a maintenance read gives them, and the restricted patch of one row. A
value is written at the precision of its field; a field without a value is left out of the request,
because no field of the table may be cleared.
-/

namespace PortfolioManagement.NavRepair

open Nav

/-! ## Rows -/

/-- The table; a record id names one row. -/
abbrev Sheet := { rows : List FreshNavRow // (rows.map (·.recordId)).Nodup }

/-- A number at the precision of its field. -/
def roundedNumber : NavColumn → ℚ → ℚ
  | .nav, x | .mtdNavChange, x | .ytdNavChange, x => (quantizeNav x).toDecimal
  | .stockWeight, x | .cashWeight, x => (quantizeWeight x).toDecimal
  | .details, x | .updatedAt, x => x
  | _, x => (money x).toDecimal

/-- A value as it is written. -/
def roundedValue (field : NavColumn) : FieldValue → FieldValue
  | .number x => .number (roundedNumber field x)
  | .details d => .details d

/-- The request of a patch: the fields that have a value. -/
def patchPayload (states : Items NavColumn FieldState) : Items NavColumn FieldValue :=
  states.filterMap fun item => item.2.value?.map fun v => (item.1, roundedValue item.1 v)

namespace FreshNavRow

/-- The row after a request. -/
def write (row : FreshNavRow) (fields : Items NavColumn FieldValue) : FreshNavRow :=
  { row with
    states := fun field => ((fields.lookup field).map FieldState.value).getD (row.states field) }

@[simp] theorem write_recordId (row : FreshNavRow) (fields : Items NavColumn FieldValue) :
    (row.write fields).recordId = row.recordId := rfl
@[simp] theorem write_account (row : FreshNavRow) (fields : Items NavColumn FieldValue) :
    (row.write fields).account = row.account := rfl
end FreshNavRow

namespace Sheet

/-- The row of a record id. -/
def record (sheet : Sheet) (recordId : Nat) : Option FreshNavRow :=
  sheet.1.find? fun row => row.recordId = recordId

/-- The rows of an account by date: `read_fresh_nav_rows`. -/
def accountRows (sheet : Sheet) (account : String) : List FreshNavRow :=
  sortBy (·.date) (sheet.1.filter fun row => row.account = account)

/-- The table after a request. -/
def write (sheet : Sheet) (recordId : Nat) (fields : Items NavColumn FieldValue) : Sheet :=
  ⟨sheet.1.map fun row => if row.recordId = recordId then row.write fields else row, by
    have hkeys : (sheet.1.map fun row =>
        if row.recordId = recordId then row.write fields else row).map (·.recordId) =
          sheet.1.map (·.recordId) := by
      rw [List.map_map]
      refine List.map_congr_left fun row _ => ?_
      simp only [Function.comp_apply]
      split <;> rfl
    rw [hkeys]
    exact sheet.2⟩

theorem mem_accountRows {sheet : Sheet} {account : String} {row : FreshNavRow} :
    row ∈ sheet.accountRows account ↔ row ∈ sheet.1 ∧ row.account = account := by
  unfold accountRows
  rw [mem_sortBy, List.mem_filter, decide_eq_true_eq]

/-- A row is found under its record id. -/
theorem record_of_mem {sheet : Sheet} {row : FreshNavRow} (h : row ∈ sheet.1) :
    sheet.record row.recordId = some row := by
  unfold record
  cases hfind : sheet.1.find? fun other => other.recordId = row.recordId with
  | none =>
    have hnone := List.find?_eq_none.mp hfind row h
    exact absurd (decide_eq_true rfl) hnone
  | some found =>
    have hmem := List.mem_of_find?_eq_some hfind
    have hid : found.recordId = row.recordId := by simpa using List.find?_some hfind
    rw [eq_of_key_eq sheet.2 hmem h hid]

theorem record_eq_some {sheet : Sheet} {recordId : Nat} {row : FreshNavRow} :
    sheet.record recordId = some row ↔ row ∈ sheet.1 ∧ row.recordId = recordId := by
  constructor
  · intro h
    exact ⟨List.mem_of_find?_eq_some h, by simpa using List.find?_some h⟩
  · rintro ⟨hmem, rfl⟩
    exact record_of_mem hmem

theorem accountRows_write (sheet : Sheet) (recordId : Nat) (fields : Items NavColumn FieldValue)
    (account : String) :
    (sheet.write recordId fields).accountRows account =
      (sheet.accountRows account).map fun other =>
        if other.recordId = recordId then other.write fields else other := by
  have hdate : ∀ other : FreshNavRow,
      (if other.recordId = recordId then other.write fields else other).date = other.date := by
    intro other
    split <;> rfl
  unfold accountRows write
  rw [map_sortBy hdate, List.filter_map]
  congr 2
  refine List.filter_congr fun other _ => ?_
  simp only [Function.comp_apply]
  split <;> rfl

/-- A request to a row of one account leaves the rows of the others alone. -/
theorem accountRows_write_ne {sheet : Sheet} {recordId : Nat} {row : FreshNavRow}
    (hrow : sheet.record recordId = some row) (fields : Items NavColumn FieldValue) {account : String}
    (haccount : row.account ≠ account) :
    (sheet.write recordId fields).accountRows account = sheet.accountRows account := by
  rw [accountRows_write]
  refine (List.map_congr_left fun other hother => ?_).trans (List.map_id _)
  obtain ⟨hmem, hother⟩ := mem_accountRows.mp hother
  split
  · next hid =>
    obtain ⟨hrowmem, hrowid⟩ := record_eq_some.mp hrow
    have hsame := eq_of_key_eq sheet.2 hmem hrowmem (hid.trans hrowid.symm)
    exact absurd (hsame ▸ hother) haccount
  · rfl

end Sheet

/-! ## Requests -/

/-- How a request ends. -/
inductive RemoteAnswer
  /-- it is answered -/
  | ok
  /-- it is refused, or the process ends before it -/
  | refused
  /-- it is carried out, but its answer is lost or the process ends after it -/
  | lost
deriving DecidableEq

/-- A request to patch a row. -/
structure PatchRequest where
  /-- the table when it is issued -/
  sheet : Sheet
  /-- the row -/
  recordId : Nat
  /-- what is written -/
  fields : Items NavColumn FieldValue

/-- The table when the request is carried out. -/
def PatchRequest.result (request : PatchRequest) : Sheet :=
  request.sheet.write request.recordId request.fields

/-- The table and the ends of the requests to come. -/
structure Remote where
  /-- the table -/
  sheet : Sheet
  /-- the ends; further requests are answered -/
  answers : List RemoteAnswer
  /-- the patches that were issued, whether they were carried out or not -/
  issued : List PatchRequest

/-- The table before any request of a process. -/
def Remote.start (sheet : Sheet) (answers : List RemoteAnswer) : Remote := ⟨sheet, answers, []⟩

/-- A patch is issued. -/
def Remote.issue (w : Remote) (recordId : Nat) (fields : Items NavColumn FieldValue) : Remote :=
  { w with issued := w.issued ++ [⟨w.sheet, recordId, fields⟩] }

/-- A patch is carried out. -/
def Remote.carryOut (w : Remote) (recordId : Nat) (fields : Items NavColumn FieldValue) : Remote :=
  { w with sheet := w.sheet.write recordId fields }

/-- Programs that work on the table. -/
abbrev RemoteProg := Prog Remote NavRefusal

open Prog (raise reads alter lift require)

/-- The end of the next request. -/
def nextAnswer : RemoteProg RemoteAnswer := fun w =>
  match w.answers with
  | [] => (.ok .ok, w)
  | a :: rest => (.ok a, { w with answers := rest })

/-- The client's error. -/
def clientError : NavRefusal := .failed (.runtime "feishu request failed")

/-- `read_fresh_nav_rows`. -/
def readFreshNavRows (account : String) : RemoteProg (List FreshNavRow) := do
  match ← nextAnswer with
  | .ok => reads fun w => w.sheet.accountRows account
  | .refused | .lost => raise clientError

/-- `_patch_nav_fields` of allowed fields. -/
def patchNavFields (recordId : Nat) (states : Items NavColumn FieldState) : RemoteProg Unit := do
  let payload := patchPayload states
  require (payload ≠ [])
    (.failed (.value "table=nav_history operation=update: fields must not be empty"))
  alter fun w => w.issue recordId payload
  match ← nextAnswer with
  | .ok => alter fun w => w.carryOut recordId payload
  | .refused => raise clientError
  | .lost =>
    alter fun w => w.carryOut recordId payload
    raise clientError

end PortfolioManagement.NavRepair
