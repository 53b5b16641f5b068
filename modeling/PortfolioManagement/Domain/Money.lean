import Mathlib.Data.Rat.Floor
import Mathlib.Tactic.Linarith

/-!
# Money at cent precision

The service computes with decimals and stores amounts at two places, rounded half away from zero
(`ROUND_HALF_UP`). A stored amount is a number of cents; a holding's quantity is an exact decimal
and becomes an amount through `money`.
-/

namespace PortfolioManagement

/-- An amount at money precision, in cents. -/
abbrev Cents := Int

/-- A calendar date, as its ordinal. -/
abbrev Date := Nat

namespace Cents

/-- The decimal an amount denotes. -/
def toDecimal (c : Cents) : Rat := (c : Rat) / 100

/-- The text of a number of cents below one hundred, with two digits. -/
def twoDigits (n : Nat) : String := if n < 10 then "0" ++ toString n else toString n

/-- The text of an amount: `format(value, "f")` at two places. -/
def text (c : Cents) : String :=
  (if c < 0 then "-" else "") ++ toString (c.natAbs / 100) ++ "." ++ twoDigits (c.natAbs % 100)

end Cents

/-- `quantize(Decimal("0.01"), rounding=ROUND_HALF_UP)`: half a cent rounds away from zero. -/
def money (x : Rat) : Cents :=
  if 0 ≤ x then (x * 100 + 1 / 2).floor else -((-x) * 100 + 1 / 2).floor

/-- Rounding to the nearest integer leaves an integer alone. -/
theorem floor_intCast_add_half (c : Int) : ((c : Rat) + 1 / 2).floor = c := by
  show ⌊(c : Rat) + 1 / 2⌋ = c
  rw [Int.floor_eq_iff]
  constructor <;> norm_num

/-- An amount that already has two places is not rounded. -/
@[simp] theorem money_toDecimal (c : Cents) : money c.toDecimal = c := by
  unfold money Cents.toDecimal
  split
  · rw [div_mul_cancel₀ _ (by norm_num)]
    exact floor_intCast_add_half c
  · have hneg : -((c : Rat) / 100) * 100 = ((-c : Int) : Rat) := by
      push_cast; ring
    rw [hneg, floor_intCast_add_half, neg_neg]

@[simp] theorem money_zero : money 0 = 0 := by
  have h := money_toDecimal 0
  simpa [Cents.toDecimal] using h

end PortfolioManagement
