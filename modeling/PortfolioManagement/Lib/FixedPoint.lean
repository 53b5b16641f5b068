import PortfolioManagement.Lib.Decimal

/-!
# Decimals as fixed-point texts

`format(x, "f")` writes a decimal without an exponent. Reading the text back gives the same decimal, up to
the zeros that a positive exponent stands for.
-/

namespace PortfolioManagement.Decimal

/-- The digits of a number, with zeros in front up to a width. -/
def paddedDigits (width n : Nat) : List Char :=
  List.replicate (width - (Nat.toDigits 10 n).length) '0' ++ Nat.toDigits 10 n

/-- The digits before and behind the point, `k` of them behind it. -/
def pointed (k n : Nat) : List Char :=
  let digits := paddedDigits (k + 1) n
  digits.take (digits.length - k) ++ '.' :: digits.drop (digits.length - k)

/-- The digits of a decimal without its sign. -/
def unsigned (x : Decimal) : List Char :=
  if 0 ≤ x.exponent then Nat.toDigits 10 (x.coefficient.natAbs * 10 ^ x.exponent.toNat)
  else pointed (-x.exponent).toNat x.coefficient.natAbs

/-- `format(x, "f")`. -/
def fixedPoint (x : Decimal) : String :=
  String.ofList (if x.coefficient < 0 then '-' :: unsigned x else unsigned x)

/-! ## Digits -/

theorem digitValue_of_isDigit {c : Char} (h : c.isDigit) : digitValue c = some (c.toNat - 48) := by
  have hrange : 48 ≤ c.toNat ∧ c.toNat ≤ 57 := by simpa [Char.isDigit, UInt32.le_iff_toNat_le] using h
  unfold digitValue digitZeros
  rw [List.find?_cons_of_pos]
  · rfl
  · simp only [Bool.and_eq_true, decide_eq_true_eq]
    omega

theorem readDigits_append {digits : List Char} (h : ∀ c ∈ digits, c.isDigit) (rest : List Char)
    (value count : Nat) : readDigits (digits ++ rest) value count =
      readDigits rest (Nat.ofDigitChars 10 digits value) (count + digits.length) := by
  induction digits generalizing value count with
  | nil => simp
  | cons c cs ih =>
    have hd := digitValue_of_isDigit (h c List.mem_cons_self)
    rw [List.cons_append, readDigits, hd]
    simp only
    rw [ih fun d hmem => h d (List.mem_cons_of_mem _ hmem), Nat.ofDigitChars_cons, List.length_cons,
      Nat.mul_comm value]
    congr 1
    omega

theorem readDigits_all {digits : List Char} (h : ∀ c ∈ digits, c.isDigit) (value count : Nat) :
    readDigits digits value count = (Nat.ofDigitChars 10 digits value, count + digits.length, []) := by
  have hread := readDigits_append h [] value count
  rwa [List.append_nil] at hread

theorem readDigits_point (rest : List Char) (value count : Nat) :
    readDigits ('.' :: rest) value count = (value, count, '.' :: rest) := by
  have hpoint : digitValue '.' = none := by decide +kernel
  rw [readDigits, hpoint]

theorem isDigit_toDigits {n : Nat} : ∀ c ∈ Nat.toDigits 10 n, c.isDigit :=
  fun _ hmem => Nat.isDigit_of_mem_toDigits (by decide) (by decide) hmem

theorem isDigit_paddedDigits {width n : Nat} : ∀ c ∈ paddedDigits width n, c.isDigit := by
  intro c hmem
  rcases List.mem_append.mp hmem with hzero | hdigit
  · rw [List.eq_of_mem_replicate hzero]
    rfl
  · exact isDigit_toDigits c hdigit

theorem ofDigitChars_paddedDigits (width n : Nat) : Nat.ofDigitChars 10 (paddedDigits width n) 0 = n := by
  rw [paddedDigits, Nat.ofDigitChars_append, Nat.ofDigitChars_replicate_zero, Nat.mul_zero,
    Nat.ofDigitChars_ten_toDigits]

theorem length_paddedDigits {width n : Nat} : width ≤ (paddedDigits width n).length := by
  rw [paddedDigits, List.length_append, List.length_replicate]
  omega

/-! ## Unsigned texts -/

/-- What `Decimal(text)` reads behind the sign. -/
def readUnsigned (cs : List Char) : Option (Nat × Int) :=
  let (whole, wholeCount, cs) := readDigits cs 0 0
  let (value, fractionCount, cs) :=
    match cs with
    | '.' :: cs =>
      let (value, count, rest) := readDigits cs whole 0
      (value, count, rest)
    | cs => (whole, 0, cs)
  if wholeCount + fractionCount = 0 then none
  else (readExponent cs).map fun e => (value, e - fractionCount)

theorem ofText_eq (text : String) : ofText text =
    let (sign, cs) := readSign (text.toList.filter (· ≠ '_'))
    (readUnsigned cs).map fun read => ⟨sign * read.1, read.2⟩ := by
  unfold ofText readUnsigned
  generalize readSign (text.toList.filter (· ≠ '_')) = signed
  obtain ⟨sign, cs⟩ := signed
  simp only
  generalize readDigits cs 0 0 = front
  obtain ⟨whole, wholeCount, rest⟩ := front
  simp only
  -- the parts of the number are the same whatever follows the digits
  have hparts : ∀ (value fractionCount : Nat) (tail : List Char),
      (if wholeCount + fractionCount = 0 then none
        else (readExponent tail).map fun e => (⟨sign * value, e - fractionCount⟩ : Decimal)) =
      (if wholeCount + fractionCount = 0 then none
        else (readExponent tail).map fun e => (value, e - (fractionCount : Int))).map
          fun read : Nat × Int => ⟨sign * read.1, read.2⟩ := by
    intro value fractionCount tail
    by_cases hcount : wholeCount + fractionCount = 0
    · rw [if_pos hcount, if_pos hcount]
      rfl
    · rw [if_neg hcount, if_neg hcount, Option.map_map]
      rfl
  exact hparts _ _ _

theorem readUnsigned_digits (n : Nat) : readUnsigned (Nat.toDigits 10 n) = some (n, 0) := by
  unfold readUnsigned
  rw [readDigits_all isDigit_toDigits, Nat.ofDigitChars_ten_toDigits]
  have hpos := Nat.length_toDigits_pos (b := 10) (n := n)
  simp [readExponent, hpos.ne']

theorem readUnsigned_pointed (k n : Nat) : readUnsigned (pointed k n) = some (n, -(k : Int)) := by
  unfold readUnsigned pointed
  have hdigits : ∀ c ∈ paddedDigits (k + 1) n, c.isDigit := isDigit_paddedDigits
  have hlength : k + 1 ≤ (paddedDigits (k + 1) n).length := length_paddedDigits
  have hvalue := ofDigitChars_paddedDigits (k + 1) n
  generalize paddedDigits (k + 1) n = digits at hdigits hlength hvalue
  have hfront : ∀ c ∈ digits.take (digits.length - k), c.isDigit :=
    fun c hmem => hdigits c (List.mem_of_mem_take hmem)
  have hback : ∀ c ∈ digits.drop (digits.length - k), c.isDigit :=
    fun c hmem => hdigits c (List.mem_of_mem_drop hmem)
  rw [readDigits_append hfront, readDigits_point]
  simp only
  rw [readDigits_all hback, ← Nat.ofDigitChars_append, List.take_append_drop, hvalue]
  have hcount : 0 + (digits.take (digits.length - k)).length +
      (0 + (digits.drop (digits.length - k)).length) ≠ 0 := by
    rw [List.length_take]
    omega
  rw [if_neg hcount, List.length_drop]
  simp only [readExponent, Option.map_some, Option.some.injEq, Prod.mk.injEq, true_and]
  omega

theorem readUnsigned_unsigned (x : Decimal) : readUnsigned (unsigned x) =
    some (if 0 ≤ x.exponent then (x.coefficient.natAbs * 10 ^ x.exponent.toNat, 0)
      else (x.coefficient.natAbs, x.exponent)) := by
  unfold unsigned
  by_cases hexp : 0 ≤ x.exponent
  · rw [if_pos hexp, if_pos hexp, readUnsigned_digits]
  · rw [if_neg hexp, if_neg hexp, readUnsigned_pointed]
    have hneg : -(((-x.exponent).toNat : Nat) : Int) = x.exponent := by omega
    rw [hneg]

/-! ## Reading back -/

theorem mem_pointed {k n : Nat} {c : Char} (h : c ∈ pointed k n) : c.isDigit ∨ c = '.' := by
  unfold pointed at h
  rcases List.mem_append.mp h with hfront | hback
  · exact .inl (isDigit_paddedDigits c (List.mem_of_mem_take hfront))
  · rcases List.mem_cons.mp hback with hpoint | hback
    · exact .inr hpoint
    · exact .inl (isDigit_paddedDigits c (List.mem_of_mem_drop hback))

theorem mem_unsigned {x : Decimal} {c : Char} (h : c ∈ unsigned x) : c.isDigit ∨ c = '.' := by
  unfold unsigned at h
  by_cases hexp : 0 ≤ x.exponent
  · rw [if_pos hexp] at h
    exact .inl (isDigit_toDigits c h)
  · rw [if_neg hexp] at h
    exact mem_pointed h

/-- A decimal's digits start with no sign. -/
theorem readSign_unsigned (x : Decimal) : readSign (unsigned x) = (1, unsigned x) := by
  cases hdigits : unsigned x with
  | nil => rfl
  | cons c cs =>
    have hmem : c ∈ unsigned x := by
      rw [hdigits]
      exact List.mem_cons_self
    have hminus : c ≠ '-' := by
      rintro rfl
      exact absurd (mem_unsigned hmem) (by decide)
    have hplus : c ≠ '+' := by
      rintro rfl
      exact absurd (mem_unsigned hmem) (by decide)
    unfold readSign
    split
    · exact absurd (List.cons.inj ‹_›).1 hminus
    · exact absurd (List.cons.inj ‹_›).1 hplus
    · rfl

/-- The characters of a fixed-point text. -/
theorem mem_fixedPoint {x : Decimal} {c : Char} (h : c ∈ (fixedPoint x).toList) :
    c.isDigit ∨ c = '.' ∨ c = '-' := by
  unfold fixedPoint at h
  rw [String.toList_ofList] at h
  by_cases hneg : x.coefficient < 0
  · rw [if_pos hneg] at h
    rcases List.mem_cons.mp h with hminus | h
    · exact .inr (.inr hminus)
    · exact (mem_unsigned h).imp_right .inl
  · rw [if_neg hneg] at h
    exact (mem_unsigned h).imp_right .inl

theorem filter_fixedPoint (x : Decimal) :
    (fixedPoint x).toList.filter (· ≠ '_') = (fixedPoint x).toList := by
  refine List.filter_eq_self.mpr fun c hmem => ?_
  have hchar := mem_fixedPoint hmem
  refine decide_eq_true fun hunderscore => ?_
  rw [hunderscore] at hchar
  exact absurd hchar (by decide)

/-- What the fixed-point text of a decimal denotes. -/
def expanded (x : Decimal) : Decimal :=
  if 0 ≤ x.exponent then ⟨x.coefficient * 10 ^ x.exponent.toNat, 0⟩ else x

theorem ofText_fixedPoint (x : Decimal) : ofText (fixedPoint x) = some (expanded x) := by
  have hread : ∀ sign : Int, sign * x.coefficient.natAbs = x.coefficient →
      ((readUnsigned (unsigned x)).map fun read => (⟨sign * read.1, read.2⟩ : Decimal)) =
        some (expanded x) := by
    intro sign hsign
    rw [readUnsigned_unsigned, expanded]
    by_cases hexp : 0 ≤ x.exponent
    · simp only [if_pos hexp, Option.map_some]
      rw [Nat.cast_mul, ← mul_assoc, hsign, Nat.cast_pow]
      rfl
    · simp only [if_neg hexp, Option.map_some, hsign]
  rw [ofText_eq, filter_fixedPoint, fixedPoint, String.toList_ofList]
  by_cases hneg : x.coefficient < 0
  · rw [if_pos hneg]
    exact hread (-1) (by omega)
  · rw [if_neg hneg, readSign_unsigned]
    exact hread 1 (by omega)

example : fixedPoint ⟨-1250, -2⟩ = "-12.50" ∧ fixedPoint ⟨3, 2⟩ = "300" ∧ fixedPoint ⟨5, -3⟩ = "0.005" := by
  decide +kernel

end PortfolioManagement.Decimal
