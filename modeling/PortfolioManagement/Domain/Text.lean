import Mathlib.Data.List.DropRight
import Mathlib.Data.List.TakeWhile

/-!
# Names, identity texts and exceptions

Names arrive as free text. The contracts strip them (`str.strip`), compare currencies in upper case
and join an asset, an account and a broker with `|` into the text that keys the fingerprints. The
text determines its parts only when the asset and the account contain no `|`.
-/

namespace PortfolioManagement

/-- The exception classes the modelled code raises or distinguishes. -/
inductive ErrorKind
  | valueError
  | runtimeError
  | keyError
  | typeError
  | holdingMutationConflict
  | holdingMutationProof
  | holdingsIntegrity
  | compensationStateConflict
  | snapshotSetConflict
  | sqliteError
  | requestError
deriving DecidableEq, Repr

/-- An exception: its class and the text of `str(exc)`. -/
structure Error where
  /-- the class -/
  kind : ErrorKind
  /-- the text -/
  message : String
deriving DecidableEq, Repr

namespace Error

/-- `ValueError(message)`. -/
def value (message : String) : Error := ⟨.valueError, message⟩

/-- `RuntimeError(message)`. -/
def runtime (message : String) : Error := ⟨.runtimeError, message⟩

end Error

/-- The characters `str.strip` removes. -/
def isSpace (c : Char) : Bool :=
  let n := c.toNat
  (0x09 ≤ n && n ≤ 0x0d) || (0x1c ≤ n && n ≤ 0x20) || n == 0x85 || n == 0xa0 || n == 0x1680 ||
    (0x2000 ≤ n && n ≤ 0x200a) || n == 0x2028 || n == 0x2029 || n == 0x202f || n == 0x205f ||
    n == 0x3000

/-- `str.strip()`. -/
def strip (s : String) : String :=
  String.ofList ((s.toList.dropWhile isSpace).reverse.dropWhile isSpace).reverse

/-- What was stripped has nothing left to strip. -/
@[simp] theorem strip_strip (s : String) : strip (strip s) = strip s := by
  unfold strip
  rw [String.toList_ofList]
  set front := s.toList.dropWhile isSpace with hfront
  set back := front.reverse.dropWhile isSpace with hback
  have hfix : back.reverse.dropWhile isSpace = back.reverse := by
    rw [List.dropWhile_eq_self_iff]
    intro hl
    have hpart : back.reverse <+: front := by
      rw [← List.reverse_suffix, List.reverse_reverse]
      exact List.dropWhile_suffix isSpace
    rw [hpart.getElem hl]
    exact List.dropWhile_get_zero_not isSpace s.toList _
  rw [hfix, List.reverse_reverse, hback, List.dropWhile_idempotent]

/-- `str.upper()` on the letters that can reach a currency code or a flow type. -/
def upperChar (c : Char) : Char :=
  if c = 'ı' then 'I' else if c = 'ſ' then 'S' else c.toUpper

/-- `str.upper()`. -/
def upper (s : String) : String := String.ofList (s.toList.map upperChar)

theorem isLower_iff {c : Char} : c.isLower = true ↔ 'a'.val ≤ c.val ∧ c.val ≤ 'z'.val := by
  show (decide (c.val ≥ 'a'.val) && decide (c.val ≤ 'z'.val)) = true ↔ _
  rw [Bool.and_eq_true, decide_eq_true_eq, decide_eq_true_eq]

theorem toUpper_of_not_isLower {c : Char} (h : c.isLower = false) : c.toUpper = c := by
  have hnot : ¬ ('a'.val ≤ c.val ∧ c.val ≤ 'z'.val) := fun hlower => by
    rw [isLower_iff.mpr hlower] at h
    cases h
  exact dif_neg hnot

theorem val_toUpper {c : Char} (h : c.isLower = true) : c.toUpper.val = c.val + ('A'.val - 'a'.val) := by
  have hupper : c.toUpper = _ := dif_pos (isLower_iff.mp h)
  rw [hupper]

theorem toUpper_lt {c : Char} (h : c.isLower = true) : c.toUpper.toNat < 97 := by
  obtain ⟨hlow, hhigh⟩ := isLower_iff.mp h
  have hle : 97 ≤ c.val.toNat := UInt32.le_iff_toNat_le.mp hlow
  have hge : c.val.toNat ≤ 122 := UInt32.le_iff_toNat_le.mp hhigh
  show c.toUpper.val.toNat < 97
  rw [val_toUpper h, UInt32.toNat_add]
  show (c.val.toNat + 4294967264) % 4294967296 < 97
  omega

theorem isLower_toUpper (c : Char) : c.toUpper.isLower = false := by
  cases hlower : c.isLower with
  | false => rw [toUpper_of_not_isLower hlower, hlower]
  | true =>
    have hlt := toUpper_lt hlower
    cases hup : c.toUpper.isLower with
    | false => rfl
    | true =>
      have hle : 97 ≤ c.toUpper.toNat := UInt32.le_iff_toNat_le.mp (isLower_iff.mp hup).1
      omega

/-- Upper case is in upper case. -/
theorem upperChar_upperChar (c : Char) : upperChar (upperChar c) = upperChar c := by
  unfold upperChar
  by_cases hi : c = 'ı'
  · rw [if_pos hi]
    decide
  · by_cases hs : c = 'ſ'
    · rw [if_neg hi, if_pos hs]
      decide
    · rw [if_neg hi, if_neg hs]
      cases hlower : c.isLower with
      | false =>
        have hsame := toUpper_of_not_isLower hlower
        rw [hsame, if_neg hi, if_neg hs, hsame]
      | true =>
        have hlt := toUpper_lt hlower
        have hi' : c.toUpper ≠ 'ı' := fun heq => absurd (heq ▸ hlt) (by decide)
        have hs' : c.toUpper ≠ 'ſ' := fun heq => absurd (heq ▸ hlt) (by decide)
        rw [if_neg hi', if_neg hs', toUpper_of_not_isLower (isLower_toUpper c)]

@[simp] theorem upper_upper (s : String) : upper (upper s) = upper s := by
  unfold upper
  rw [String.toList_ofList, List.map_map]
  congr 1
  exact List.map_congr_left fun c _ => upperChar_upperChar c

/-- A character that `str.strip` removes stays in upper case. -/
theorem upperChar_of_isSpace {c : Char} (h : isSpace c = true) : upperChar c = c := by
  have hlower : c.isLower = false := by
    cases hlower : c.isLower with
    | false => rfl
    | true =>
      obtain ⟨hlow, hhigh⟩ := isLower_iff.mp hlower
      have hle : 97 ≤ c.toNat := UInt32.le_iff_toNat_le.mp hlow
      have hge : c.toNat ≤ 122 := UInt32.le_iff_toNat_le.mp hhigh
      simp only [isSpace, Bool.or_eq_true, Bool.and_eq_true, decide_eq_true_eq, beq_iff_eq] at h
      omega
  unfold upperChar
  have hi : c ≠ 'ı' := fun heq => absurd (heq ▸ h) (by decide)
  have hs : c ≠ 'ſ' := fun heq => absurd (heq ▸ h) (by decide)
  rw [if_neg hi, if_neg hs, toUpper_of_not_isLower hlower]

/-- A text whose upper case has no blanks has none. -/
theorem strip_of_upper {s : String} (h : ∀ c ∈ (upper s).toList, isSpace c = false) : strip s = s := by
  have hnone : ∀ c ∈ s.toList, isSpace c = false := by
    intro c hc
    have hupper : upperChar c ∈ (upper s).toList := by
      unfold upper
      rw [String.toList_ofList]
      exact List.mem_map_of_mem hc
    by_contra hspace
    rw [Bool.not_eq_false] at hspace
    have hfalse := h _ hupper
    rw [upperChar_of_isSpace hspace, hspace] at hfalse
    cases hfalse
  have hdrop : ∀ l : List Char, (∀ c ∈ l, isSpace c = false) → l.dropWhile isSpace = l := by
    intro l hl
    cases l with
    | nil => rfl
    | cons c l => rw [List.dropWhile_cons, hl c List.mem_cons_self, if_neg Bool.false_ne_true]
  unfold strip
  rw [hdrop _ hnone, hdrop _ fun c hc => hnone c (List.mem_reverse.mp hc), List.reverse_reverse,
    String.ofList_toList]

/-- `str(value or "")` of an optional text. -/
def textOr (s : Option String) : String := s.getD ""

/-- An optional text inside a formatted string. -/
def formatText (s : Option String) : String := s.getD "None"

/-! ## Identity texts -/

/-- `_identity`: the text that keys a CASH holding. -/
def identityText (assetId account broker : String) : String :=
  assetId ++ "|" ++ account ++ "|" ++ broker

/-- The part before the first bar and the part after it, if there is one. -/
def cutBar (cs : List Char) : List Char × Option (List Char) :=
  match cs.dropWhile (· ≠ '|') with
  | [] => (cs, none)
  | _ :: rest => (cs.takeWhile (· ≠ '|'), some rest)

/-- `identity.split("|", 2)` into an asset, an account and a broker. -/
def splitIdentity (s : String) : Option (String × String × String) :=
  match cutBar s.toList with
  | (asset, some rest) =>
    match cutBar rest with
    | (account, some broker) =>
      some (String.ofList asset, String.ofList account, String.ofList broker)
    | (_, none) => none
  | (_, none) => none

/-- A text that contains no bar. -/
def BarFree (s : String) : Prop := '|' ∉ s.toList

instance (s : String) : Decidable (BarFree s) := inferInstanceAs (Decidable ('|' ∉ s.toList))

/-- Cutting at the bar that was put after a bar-free text gives the text back. -/
theorem cutBar_append {xs : List Char} (ys : List Char) (h : '|' ∉ xs) :
    cutBar (xs ++ '|' :: ys) = (xs, some ys) := by
  have hall : ∀ c ∈ xs, decide (c ≠ '|') = true := by
    intro c hc
    have hne : c ≠ '|' := fun heq => h (heq ▸ hc)
    simpa using hne
  unfold cutBar
  rw [List.dropWhile_append_of_pos hall, List.takeWhile_append_of_pos hall]
  simp

/-- An identity text with a bar-free asset and account splits into its parts. -/
theorem splitIdentity_identityText {a b : String} (c : String) (ha : BarFree a) (hb : BarFree b) :
    splitIdentity (identityText a b c) = some (a, b, c) := by
  have hlist : (identityText a b c).toList = a.toList ++ '|' :: (b.toList ++ '|' :: c.toList) := by
    simp [identityText, String.toList_append]
  unfold splitIdentity
  rw [hlist, cutBar_append _ ha]
  simp only
  rw [cutBar_append _ hb]
  simp

/-- Identity texts of bar-free assets and accounts are equal only when their parts are. -/
theorem identityText_inj {a b c a' b' c' : String} (ha : BarFree a) (hb : BarFree b)
    (ha' : BarFree a') (hb' : BarFree b') (h : identityText a b c = identityText a' b' c') :
    a = a' ∧ b = b' ∧ c = c' := by
  have hsplit := splitIdentity_identityText c ha hb
  rw [h, splitIdentity_identityText c' ha' hb'] at hsplit
  simp only [Option.some.injEq, Prod.mk.injEq] at hsplit
  exact ⟨hsplit.1.symm, hsplit.2.1.symm, hsplit.2.2.symm⟩

/-- Without that restriction two different triples share a text. -/
theorem identityText_inj_needs_barFree :
    identityText "CNY-CASH" "a|b" "c" = identityText "CNY-CASH" "a" "b|c" := by decide

end PortfolioManagement
