import Mathlib.Data.List.Sort
import PortfolioManagement.Lib.Keyed

/-!
# What the operation tables share

Times are microseconds; the code compares their naive ISO texts, which order them. The constants are
those of `operation_state/_base.py`.
-/

namespace PortfolioManagement.OperationState

/-- `timedelta(minutes=n)`. -/
def minutes (n : Int) : Int := n * 60000000

/-- `_CLAIM_LEASE_MINUTES`. -/
def claimLeaseMinutes : Int := 5

/-- `_RETRY_MINUTES`. -/
def retryMinutes : List Int := [1, 5, 15, 60]

/-- The wait after a failed attempt. -/
def retryDelay (attempt : Nat) : Int := minutes (retryMinutes.getD (min (attempt - 1) 3) 60)

/-- `COALESCE(last_error, text)`. -/
def coalesce (error : Option String) (text : String) : Option String := some (error.getD text)

/-- `t <= cutoff`, where `t` may be NULL. -/
def atOrBefore (t : Option Int) (cutoff : Int) : Bool :=
  match t with
  | some t => t ≤ cutoff
  | none => false

/-- `LIMIT ?`. -/
def limited {α : Type} (limit : Int) (rows : List α) : List α :=
  if limit < 0 then rows else rows.take limit.toNat

/-! ## Selecting due rows -/

section
variable {α : Type} {due : α → Bool} {createdAt : α → Int} {limit : Int} {receiptKey : Option String}
  {rows : Items String α}

/-- The due rows, of one key when it is given, the oldest first. -/
def dueRows (due : α → Bool) (createdAt : α → Int) (limit : Int) (receiptKey : Option String)
    (rows : Items String α) : Items String α :=
  limited limit ((rows.filter fun row => due row.2 &&
    (receiptKey.isNone || receiptKey = some row.1)).insertionSort fun row row' =>
      createdAt row.2 ≤ createdAt row'.2)

/-- A due row is what is selected for its key. -/
theorem dueRows_own (hnodup : (rows.map Prod.fst).Nodup) {key : String} {row : α}
    (hrow : List.lookup key rows = some row) (hlimit : limit ≠ 0) (hdue : due row = true) :
    dueRows due createdAt limit (some key) rows = [(key, row)] := by
  have hown : rows.filter (fun other => other.1 = key) = [(key, row)] :=
    filter_key_of_nodup hnodup ((Items.mem_iff_lookup hnodup).mpr hrow)
  have hsame : (rows.filter fun other => due other.2 &&
      ((some key).isNone || some key = some other.1)) =
        (rows.filter fun other => other.1 = key).filter fun other => due other.2 := by
    rw [List.filter_filter]
    refine List.filter_congr fun other _ => ?_
    simp [eq_comm]
  unfold dueRows limited
  rw [hsame, hown, List.filter_singleton, hdue]
  show (if limit < 0 then [(key, row)] else [(key, row)].take limit.toNat) = [(key, row)]
  split
  · rfl
  · rw [List.take_of_length_le]
    simp only [List.length_singleton]
    omega

/-- A limit that is negative or not less than the number of rows leaves no due row out. -/
theorem mem_dueRows_of_limit (hlimit : limit < 0 ∨ (rows.length : Int) ≤ limit) {row : String × α}
    (hrow : row ∈ rows) (hdue : due row.2 = true) : row ∈ dueRows due createdAt limit none rows := by
  unfold dueRows limited
  have hsorted : row ∈ (rows.filter fun row => due row.2 && ((none : Option String).isNone ||
      none = some row.1)).insertionSort fun row row' => createdAt row.2 ≤ createdAt row'.2 :=
    (List.mem_insertionSort _).mpr (List.mem_filter.mpr ⟨hrow, by rw [hdue]; rfl⟩)
  split
  · exact hsorted
  · next hnonneg =>
    rw [List.take_of_length_le]
    · exact hsorted
    · rw [List.length_insertionSort]
      have hle := List.length_filter_le (fun row => due row.2 && ((none : Option String).isNone ||
        none = some row.1)) rows
      omega

end

end PortfolioManagement.OperationState
