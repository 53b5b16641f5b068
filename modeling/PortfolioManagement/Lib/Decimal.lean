import Mathlib.Data.Nat.Log
import Mathlib.Tactic.Linarith

/-!
# Decimal arithmetic

Finite values of `decimal.Decimal`: a coefficient and an exponent of ten. Arithmetic is exact and
then rounded half to even to the 28 digits of the default context; `quantize` rounds half up and
refuses a result of more digits than the context has.
-/

namespace PortfolioManagement

/-- A finite decimal: `coefficient · 10 ^ exponent`. -/
structure Decimal where
  /-- the digits, with their sign -/
  coefficient : Int
  /-- the exponent of the last digit -/
  exponent : Int
deriving DecidableEq, Repr

namespace Decimal

/-- The precision of the default context. -/
def precision : Nat := 28

/-- The number of digits of a coefficient. -/
def digitCount (n : Nat) : Nat := Nat.log 10 n + 1

theorem digitCount_le {n k : Nat} (hk : k ≠ 0) : digitCount n ≤ k ↔ n < 10 ^ k := by
  unfold digitCount
  rw [Nat.add_one_le_iff]
  rcases Nat.eq_zero_or_pos n with rfl | hn
  · simp [Nat.pos_of_ne_zero hk]
  · exact Nat.log_lt_iff_lt_pow (by decide) hn.ne'

/-- `c / 10 ^ k` rounded half away from zero. -/
def halfUp (c : Int) (k : Nat) : Int :=
  c.sign * ((2 * c.natAbs + 10 ^ k) / (2 * 10 ^ k) : Nat)

/-- `c / 10 ^ k` rounded half to even. -/
def halfEven (c : Int) (k : Nat) : Int :=
  let q := c.natAbs / 10 ^ k
  let r := c.natAbs % 10 ^ k
  let up := 10 ^ k < 2 * r ∨ (2 * r = 10 ^ k ∧ q % 2 = 1)
  c.sign * (if up then q + 1 else q : Nat)

/-- Rounding to the precision of the context. -/
def fix (x : Decimal) : Decimal :=
  let n := digitCount x.coefficient.natAbs
  if n ≤ precision then x
  else
    let k := n - precision
    let c := halfEven x.coefficient k
    if digitCount c.natAbs ≤ precision then ⟨c, x.exponent + k⟩
    else ⟨c / 10, x.exponent + k + 1⟩

/-- A coefficient that fits the precision is kept. -/
theorem fix_of_lt {x : Decimal} (h : x.coefficient.natAbs < 10 ^ precision) : fix x = x :=
  if_pos ((digitCount_le (by decide)).mpr h)

/-- `x * y`. -/
def mul (x y : Decimal) : Decimal :=
  fix ⟨x.coefficient * y.coefficient, x.exponent + y.exponent⟩

/-- `x.quantize(Decimal(10) ** exponent, rounding=ROUND_HALF_UP)`, as its coefficient; `none` where
Python raises `InvalidOperation`. -/
def quantize (x : Decimal) (exponent : Int) : Option Int :=
  let c :=
    if exponent ≤ x.exponent then x.coefficient * 10 ^ (x.exponent - exponent).toNat
    else halfUp x.coefficient (exponent - x.exponent).toNat
  if digitCount c.natAbs ≤ precision then some c else none

/-- A quantized value has at most the digits of the context. -/
theorem natAbs_of_quantize {x : Decimal} {exponent c : Int} (h : quantize x exponent = some c) :
    c.natAbs < 10 ^ precision := by
  unfold quantize at h
  simp only at h
  split_ifs at h with hfits <;> cases h
  all_goals exact (digitCount_le (by decide)).mp (by assumption)

/-- The coefficients of two decimals at their smaller exponent. -/
def aligned (x y : Decimal) : Int × Int :=
  let e := min x.exponent y.exponent
  (x.coefficient * 10 ^ (x.exponent - e).toNat, y.coefficient * 10 ^ (y.exponent - e).toNat)

/-- `x == y`. -/
def equal (x y : Decimal) : Bool := (aligned x y).1 == (aligned x y).2

/-- `Decimal(n)`. -/
def ofInt (n : Int) : Decimal := ⟨n, 0⟩

/-- The coefficient of a normalized decimal: trailing zeros move into the exponent. -/
def strippedZeros : Nat → Int → Int → Decimal
  | 0, c, e => ⟨c, e⟩
  | n + 1, c, e => if c % 10 = 0 then strippedZeros n (c / 10) (e + 1) else ⟨c, e⟩

/-- `x.normalize()`. -/
def normalize (x : Decimal) : Decimal :=
  let y := fix x
  if y.coefficient = 0 then ⟨0, 0⟩ else strippedZeros precision y.coefficient y.exponent

/-! ## Texts -/

/-- The zeros of the decimal digits `\d` matches. -/
def digitZeros : List Nat :=
  [0x30, 0x660, 0x6f0, 0x7c0, 0x966, 0x9e6, 0xa66, 0xae6, 0xb66, 0xbe6, 0xc66, 0xce6, 0xd66, 0xde6,
    0xe50, 0xed0, 0xf20, 0x1040, 0x1090, 0x17e0, 0x1810, 0x1946, 0x19d0, 0x1a80, 0x1a90, 0x1b50,
    0x1bb0, 0x1c40, 0x1c50, 0xa620, 0xa8d0, 0xa900, 0xa9d0, 0xa9f0, 0xaa50, 0xabf0, 0xff10,
    0x104a0, 0x10d30, 0x11066, 0x110f0, 0x11136, 0x111d0, 0x112f0, 0x11450, 0x114d0, 0x11650,
    0x116c0, 0x11730, 0x118e0, 0x11950, 0x11c50, 0x11d50, 0x11da0, 0x11f50, 0x16a60, 0x16ac0,
    0x16b50, 0x1d7ce, 0x1d7d8, 0x1d7e2, 0x1d7ec, 0x1d7f6, 0x1e140, 0x1e2f0, 0x1e4f0,
    0x1e950, 0x1fbf0]

/-- The value of a decimal digit. -/
def digitValue (c : Char) : Option Nat :=
  (digitZeros.find? fun z => z ≤ c.toNat && c.toNat < z + 10).map fun z => c.toNat - z

/-- The number the digits at the start of a text denote, how many they are, and what follows. -/
def readDigits : List Char → Nat → Nat → Nat × Nat × List Char
  | [], value, count => (value, count, [])
  | c :: cs, value, count =>
    match digitValue c with
    | some d => readDigits cs (value * 10 + d) (count + 1)
    | none => (value, count, c :: cs)

/-- A sign at the start of a text. -/
def readSign : List Char → Int × List Char
  | '-' :: cs => (-1, cs)
  | '+' :: cs => (1, cs)
  | cs => (1, cs)

/-- The exponent part of a numeral: absent, or `e` and an integer up to the end. -/
def readExponent : List Char → Option Int
  | [] => some 0
  | c :: cs =>
    if c = 'e' ∨ c = 'E' then
      let (sign, cs) := readSign cs
      match readDigits cs 0 0 with
      | (value, count, []) => if count = 0 then none else some (sign * value)
      | _ => none
    else none

/-- `Decimal(text)` of a finite numeral without surrounding blanks; `none` for `NaN`, an infinity
and `InvalidOperation`. -/
def ofText (text : String) : Option Decimal :=
  let (sign, cs) := readSign (text.toList.filter (· ≠ '_'))
  let (whole, wholeCount, cs) := readDigits cs 0 0
  let (value, fractionCount, cs) :=
    match cs with
    | '.' :: cs =>
      let (value, count, rest) := readDigits cs whole 0
      (value, count, rest)
    | cs => (whole, 0, cs)
  if wholeCount + fractionCount = 0 then none
  else (readExponent cs).map fun e => ⟨sign * value, e - fractionCount⟩

example : ofText "12.50" = some ⟨1250, -2⟩ ∧ ofText "-1e3" = some ⟨-1, 3⟩ ∧ ofText "abc" = none ∧
    (ofText "0.125").bind (quantize · (-2)) = some 13 ∧ (mul ⟨10050, -2⟩ ⟨72, -1⟩) = ⟨723600, -3⟩ := by
  decide +kernel

end Decimal

end PortfolioManagement
