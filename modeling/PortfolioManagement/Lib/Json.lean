import Mathlib.Data.List.Lex
import Mathlib.Tactic.IntervalCases
import PortfolioManagement.Lib.Unicode

/-!
# JSON texts

Values, the text `json.dumps(value, ensure_ascii=False, sort_keys=True)` gives a value, and the
reader of `json.loads`. A dict is kept as its items in key order, so that equal dicts are equal
lists and sorting the keys changes nothing; `Canonical` says that every dict inside a value is kept
that way. A number is its literal: `int` and `float` read back what `repr` wrote.

The reader takes one code point at a time. Its state is what it is in the middle of and the stack
of the containers around that, so a text that is read in two parts is read by running the second
part from the state the first one left. The reader has no bound on nesting.
-/

namespace PortfolioManagement

/-! ## Dicts -/

section
variable {α : Type}

/-- `d[key] = value`. -/
def setItem (key : Codes) (value : α) : List (Codes × α) → List (Codes × α)
  | [] => [(key, value)]
  | (k, v) :: items =>
    if key < k then (key, value) :: (k, v) :: items
    else if key = k then (key, value) :: items
    else (k, v) :: setItem key value items

/-- `d.get(key)`. -/
def getItem (key : Codes) (items : List (Codes × α)) : Option α :=
  (items.find? fun item => item.1 = key).map Prod.snd

/-- What is looked up is an item. -/
theorem mem_of_getItem {key : Codes} {value : α} {items : List (Codes × α)}
    (h : getItem key items = some value) : (key, value) ∈ items := by
  obtain ⟨item, hfind, rfl⟩ := Option.map_eq_some_iff.mp h
  have hkey : item.1 = key := by simpa using List.find?_some hfind
  exact hkey ▸ List.mem_of_find?_eq_some hfind

/-- A key above all keys of a dict goes to its end. -/
theorem setItem_of_lt {key : Codes} {items : List (Codes × α)} (value : α)
    (h : ∀ k ∈ items.map Prod.fst, k < key) : setItem key value items = items ++ [(key, value)] := by
  induction items with
  | nil => rfl
  | cons item items ih =>
    obtain ⟨k, v⟩ := item
    have hk : k < key := h k (by simp)
    have hrest : ∀ k ∈ items.map Prod.fst, k < key := fun k' hk' => h k' (by simp [hk'])
    rw [setItem, if_neg hk.not_gt, if_neg hk.ne', ih hrest]
    rfl

/-- The keys of a dict after one is set. -/
theorem mem_keys_setItem {key k : Codes} {value : α} {items : List (Codes × α)} :
    k ∈ (setItem key value items).map Prod.fst ↔ k = key ∨ k ∈ items.map Prod.fst := by
  induction items with
  | nil => simp [setItem]
  | cons item items ih =>
    obtain ⟨k', v⟩ := item
    rw [setItem]
    split
    · simp
    · split
      next heq =>
        subst heq
        simp
      next =>
        rw [List.map_cons, List.mem_cons, ih, List.map_cons, List.mem_cons]
        tauto

/-- What a dict holds after a key is set. -/
theorem mem_setItem {key : Codes} {value : α} {item : Codes × α} : ∀ {items : List (Codes × α)},
    item ∈ setItem key value items → item = (key, value) ∨ item ∈ items
  | [], h => .inl (List.mem_singleton.mp h)
  | (k, v) :: items, h => by
    rw [setItem] at h
    split_ifs at h with hlt heq
    · exact List.mem_cons.mp h
    · exact (List.mem_cons.mp h).imp_right (List.mem_cons_of_mem _)
    · rcases List.mem_cons.mp h with rfl | hmem
      · exact .inr List.mem_cons_self
      · exact (mem_setItem hmem).imp_right (List.mem_cons_of_mem _)

/-- A key that was set has its value. -/
theorem getItem_setItem {key : Codes} {value : α} {items : List (Codes × α)} :
    getItem key (setItem key value items) = some value := by
  induction items with
  | nil => simp [setItem, getItem]
  | cons item items ih =>
    obtain ⟨k, v⟩ := item
    rw [setItem]
    split
    · simp [getItem]
    · split
      · simp [getItem]
      next hne =>
        have hne : ¬ k = key := fun h => hne h.symm
        rw [getItem, List.find?_cons_of_neg (by simpa using hne)]
        exact ih

/-- Setting a key changes no other one. -/
theorem getItem_setItem_of_ne {key k : Codes} {value : α} {items : List (Codes × α)}
    (h : k ≠ key) : getItem k (setItem key value items) = getItem k items := by
  induction items with
  | nil => simp [setItem, getItem, Ne.symm h]
  | cons item items ih =>
    obtain ⟨k', v⟩ := item
    rw [setItem]
    split
    · rw [getItem, List.find?_cons_of_neg (by simpa using Ne.symm h)]
      rfl
    · split
      next heq =>
        subst heq
        rw [getItem, List.find?_cons_of_neg (by simpa using Ne.symm h), getItem,
          List.find?_cons_of_neg (by simpa using Ne.symm h)]
      next =>
        by_cases hk : k' = k
        · rw [getItem, List.find?_cons_of_pos (by simpa using hk), getItem,
            List.find?_cons_of_pos (by simpa using hk)]
        · rw [getItem, List.find?_cons_of_neg (by simpa using hk), getItem,
            List.find?_cons_of_neg (by simpa using hk)]
          exact ih

/-- Setting a key keeps the keys in order. -/
theorem pairwise_setItem {key : Codes} {value : α} {items : List (Codes × α)}
    (h : (items.map Prod.fst).Pairwise (· < ·)) :
    ((setItem key value items).map Prod.fst).Pairwise (· < ·) := by
  induction items with
  | nil => simp [setItem]
  | cons item items ih =>
    obtain ⟨k, v⟩ := item
    rw [List.map_cons, List.pairwise_cons] at h
    rw [setItem]
    split
    next hlt =>
      simp only [List.map_cons, List.pairwise_cons, List.mem_cons]
      refine ⟨?_, h⟩
      rintro k' (rfl | hk')
      · exact hlt
      · exact hlt.trans (h.1 k' hk')
    next hlt =>
      split
      next heq =>
        subst heq
        simpa only [List.map_cons, List.pairwise_cons] using h
      next hne =>
        rw [List.map_cons, List.pairwise_cons]
        refine ⟨fun k' hk' => ?_, ih h.2⟩
        rcases mem_keys_setItem.mp hk' with rfl | hk'
        · exact lt_of_le_of_ne (not_lt.mp hlt) (Ne.symm hne)
        · exact h.1 k' hk'

end

/-! ## Values -/

/-- The words of the grammar, those of `float` among them. -/
inductive Word
  | null
  | true
  | false
  | nan
  | infinity
  | negInfinity
deriving DecidableEq, Repr

/-- The text of a word. -/
def Word.text : Word → Codes
  | .null => codes "null"
  | .true => codes "true"
  | .false => codes "false"
  | .nan => codes "NaN"
  | .infinity => codes "Infinity"
  | .negInfinity => codes "-Infinity"

/-- A JSON value. -/
inductive Json
  /-- `None`, a truth value or a float that is not finite -/
  | word (w : Word)
  /-- a number, as its literal -/
  | number (literal : Codes)
  /-- a text -/
  | string (s : Codes)
  /-- a list -/
  | array (items : List Json)
  /-- a dict, as its items in key order -/
  | object (members : List (Codes × Json))

/-- The items of a dict. -/
abbrev Members := List (Codes × Json)

/-! ## Numbers -/

/-- How far a number literal has been read. -/
inductive NumeralState
  | start
  | minus
  | zero
  | int
  | point
  | fraction
  | exponent
  | exponentSign
  | exponentDigits
deriving DecidableEq, Repr

/-- An ASCII digit. -/
def isDigit (c : Nat) : Bool := '0'.toNat ≤ c && c ≤ '9'.toNat

/-- `-?(0|[1-9][0-9]*)(\.[0-9]+)?([eE][-+]?[0-9]+)?`, one code point at a time. -/
def NumeralState.step (s : NumeralState) (c : Nat) : Option NumeralState :=
  let exponent := c == 'e'.toNat || c == 'E'.toNat
  match s with
  | .start =>
    if c = '-'.toNat then some .minus
    else if c = '0'.toNat then some .zero
    else if isDigit c then some .int else none
  | .minus =>
    if c = '0'.toNat then some .zero else if isDigit c then some .int else none
  | .zero =>
    if c = '.'.toNat then some .point else if exponent then some .exponent else none
  | .int =>
    if isDigit c then some .int
    else if c = '.'.toNat then some .point
    else if exponent then some .exponent else none
  | .point => if isDigit c then some .fraction else none
  | .fraction =>
    if isDigit c then some .fraction else if exponent then some .exponent else none
  | .exponent =>
    if c = '+'.toNat ∨ c = '-'.toNat then some .exponentSign
    else if isDigit c then some .exponentDigits else none
  | .exponentSign => if isDigit c then some .exponentDigits else none
  | .exponentDigits => if isDigit c then some .exponentDigits else none

/-- A literal may end here. -/
def NumeralState.complete : NumeralState → Bool
  | .zero | .int | .fraction | .exponentDigits => true
  | .start | .minus | .point | .exponent | .exponentSign => false

/-- A number literal. -/
def IsNumeral (text : Codes) : Prop :=
  ∃ s, text.foldlM NumeralState.step .start = some s ∧ s.complete = true

/-! ## Writing -/

/-- A lower case hexadecimal digit. -/
def hexChar (d : Nat) : Nat := if d < 10 then '0'.toNat + d else 'a'.toNat + (d - 10)

/-- A code point inside a JSON string: quotes, backslashes and control characters are escaped. -/
def escape (c : Nat) : Codes :=
  if c = '"'.toNat then codes "\\\""
  else if c = '\\'.toNat then codes "\\\\"
  else if c = '\n'.toNat then codes "\\n"
  else if c = '\r'.toNat then codes "\\r"
  else if c = '\t'.toNat then codes "\\t"
  else if c = 8 then codes "\\b"
  else if c = 12 then codes "\\f"
  else if c < 32 then codes "\\u00" ++ [hexChar (c / 16), hexChar (c % 16)]
  else [c]

/-- A JSON string. -/
def renderString (s : Codes) : Codes := '"'.toNat :: (s.flatMap escape ++ ['"'.toNat])

mutual

/-- `json.dumps(value, ensure_ascii=False, sort_keys=True)`. -/
def render : Json → Codes
  | .word w => w.text
  | .number literal => literal
  | .string s => renderString s
  | .array [] => codes "[]"
  | .array (x :: xs) => '['.toNat :: (render x ++ (renderItems xs ++ [']'.toNat]))
  | .object [] => codes "\x7b\x7d"
  | .object ((k, v) :: ms) =>
    '{'.toNat :: (renderString k ++ (codes ": " ++ (render v ++ (renderMembers ms ++ ['}'.toNat]))))

/-- The items of a list after the first one. -/
def renderItems : List Json → Codes
  | [] => []
  | x :: xs => codes ", " ++ (render x ++ renderItems xs)

/-- The items of a dict after the first one. -/
def renderMembers : List (Codes × Json) → Codes
  | [] => []
  | (k, v) :: ms => codes ", " ++ (renderString k ++ (codes ": " ++ (render v ++ renderMembers ms)))

end

mutual

/-- Every dict inside the value is kept in key order and every number is a literal. -/
def Canonical : Json → Prop
  | .word _ => True
  | .number literal => IsNumeral literal
  | .string _ => True
  | .array items => CanonicalItems items
  | .object members => (members.map Prod.fst).Pairwise (· < ·) ∧ CanonicalMembers members

/-- `Canonical` over the items of a list. -/
def CanonicalItems : List Json → Prop
  | [] => True
  | x :: xs => Canonical x ∧ CanonicalItems xs

/-- `Canonical` over the values of a dict. -/
def CanonicalMembers : List (Codes × Json) → Prop
  | [] => True
  | (_, v) :: ms => Canonical v ∧ CanonicalMembers ms

end

/-- Setting a key keeps a dict canonical inside. -/
theorem canonicalMembers_setItem {key : Codes} {value : Json} {items : Members}
    (hvalue : Canonical value) (h : CanonicalMembers items) :
    CanonicalMembers (setItem key value items) := by
  induction items with
  | nil => exact ⟨hvalue, trivial⟩
  | cons item items ih =>
    obtain ⟨k, v⟩ := item
    obtain ⟨hv, hitems⟩ : Canonical v ∧ CanonicalMembers items := h
    rw [setItem]
    split
    · exact ⟨hvalue, hv, hitems⟩
    · split
      · exact ⟨hvalue, hitems⟩
      · exact ⟨hv, ih hitems⟩

/-! ## Reading -/

/-- JSON whitespace. -/
def isJsonSpace (c : Nat) : Bool :=
  c == ' '.toNat || c == '\t'.toNat || c == '\n'.toNat || c == '\r'.toNat

/-- The value of a hexadecimal digit. -/
def hexValue (c : Nat) : Option Nat :=
  if isDigit c then some (c - '0'.toNat)
  else if 'a'.toNat ≤ c ∧ c ≤ 'f'.toNat then some (c - 'a'.toNat + 10)
  else if 'A'.toNat ≤ c ∧ c ≤ 'F'.toNat then some (c - 'A'.toNat + 10)
  else none

/-- What a one letter escape stands for. -/
def unescape (c : Nat) : Option Nat :=
  if c = '"'.toNat ∨ c = '\\'.toNat ∨ c = '/'.toNat then some c
  else if c = 'b'.toNat then some 8
  else if c = 'f'.toNat then some 12
  else if c = 'n'.toNat then some '\n'.toNat
  else if c = 'r'.toNat then some '\r'.toNat
  else if c = 't'.toNat then some '\t'.toNat
  else none

/-- What the string that is being read will be. -/
inductive Place
  /-- a value -/
  | value
  /-- a key of the dict with these items -/
  | key (members : Members)

/-- Where the reader is inside a string. `high` says that the last code point read is the first
half of a surrogate pair that came from an escape. -/
inductive StringState
  | plain (high : Bool)
  | escape (high : Bool)
  | hex (high : Bool) (digits value : Nat)

/-- What the reader is in the middle of. -/
inductive Mode
  /-- a value has to start -/
  | value
  /-- a list has been opened: its first item or its end has to come -/
  | firstItem
  /-- a key has to start; before the first one the dict may end -/
  | key (first : Bool) (members : Members)
  /-- a string -/
  | string (place : Place) (read : Codes) (state : StringState)
  /-- a key has been read -/
  | colon (members : Members) (key : Codes)
  /-- a number -/
  | number (read : Codes) (state : NumeralState)
  /-- a word, with so many code points of it read -/
  | word (w : Word) (read : Nat)
  /-- a value has been read -/
  | done (v : Json)

/-- A container around what is being read. -/
inductive Frame
  /-- a list, with the items read so far -/
  | array (items : List Json)
  /-- a dict, with the items read so far and the key whose value is being read -/
  | object (members : Members) (key : Codes)

/-- The state of the reader. -/
structure Reader where
  /-- what it is in the middle of -/
  mode : Mode
  /-- the containers around that, innermost first -/
  stack : List Frame

namespace Reader

/-- The reader before a text. -/
def start : Reader := ⟨.value, []⟩

/-- What the first code point of a value starts. -/
def startMode (c : Nat) : Option Mode :=
  if c = '"'.toNat then some (.string .value [] (.plain false))
  else if c = '{'.toNat then some (.key true [])
  else if c = '['.toNat then some .firstItem
  else if c = 'n'.toNat then some (.word .null 1)
  else if c = 't'.toNat then some (.word .true 1)
  else if c = 'f'.toNat then some (.word .false 1)
  else if c = 'N'.toNat then some (.word .nan 1)
  else if c = 'I'.toNat then some (.word .infinity 1)
  else (NumeralState.start.step c).map (.number [c])

/-- The first code point of a value. -/
def startValue (stack : List Frame) (c : Nat) : Option Reader :=
  (startMode c).map fun mode => ⟨mode, stack⟩

/-- A code point after a value. -/
def afterValue (v : Json) (stack : List Frame) (c : Nat) : Option Reader :=
  if isJsonSpace c then some ⟨.done v, stack⟩
  else
    match stack with
    | [] => none
    | .array items :: stack =>
      if c = ','.toNat then some ⟨.value, .array (items ++ [v]) :: stack⟩
      else if c = ']'.toNat then some ⟨.done (.array (items ++ [v])), stack⟩
      else none
    | .object members key :: stack =>
      if c = ','.toNat then some ⟨.key false (setItem key v members), stack⟩
      else if c = '}'.toNat then some ⟨.done (.object (setItem key v members)), stack⟩
      else none

/-- The string that was being read is closed. -/
def closeString (place : Place) (read : Codes) (stack : List Frame) : Reader :=
  match place with
  | .value => ⟨.done (.string read), stack⟩
  | .key members => ⟨.colon members read, stack⟩

/-- A `\uXXXX` escape has been read: the second half of a surrogate pair joins the first. -/
def pushUnit (place : Place) (read : Codes) (stack : List Frame) (high : Bool) (u : Nat) : Reader :=
  if high = true ∧ 0xdc00 ≤ u ∧ u < 0xe000 then
    let joined := 0x10000 + ((read.getLastD 0 - 0xd800) * 0x400 + (u - 0xdc00))
    ⟨.string place (read.dropLast ++ [joined]) (.plain false), stack⟩
  else ⟨.string place (read ++ [u]) (.plain (0xd800 ≤ u && u < 0xdc00)), stack⟩

/-- A code point inside a string. -/
def stepString (place : Place) (read : Codes) (state : StringState) (stack : List Frame) (c : Nat) :
    Option Reader :=
  match state with
  | .plain high =>
    if c = '"'.toNat then some (closeString place read stack)
    else if c = '\\'.toNat then some ⟨.string place read (.escape high), stack⟩
    else if c < 32 then none
    else some ⟨.string place (read ++ [c]) (.plain false), stack⟩
  | .escape high =>
    match unescape c with
    | some d => some ⟨.string place (read ++ [d]) (.plain false), stack⟩
    | none => if c = 'u'.toNat then some ⟨.string place read (.hex high 0 0), stack⟩ else none
  | .hex high digits value =>
    (hexValue c).map fun d =>
      if digits = 3 then pushUnit place read stack high (value * 16 + d)
      else ⟨.string place read (.hex high (digits + 1) (value * 16 + d)), stack⟩

/-- One code point. -/
def step (r : Reader) (c : Nat) : Option Reader :=
  match r.mode with
  | .value => if isJsonSpace c then some r else startValue r.stack c
  | .firstItem =>
    if isJsonSpace c then some r
    else if c = ']'.toNat then some ⟨.done (.array []), r.stack⟩
    else startValue (.array [] :: r.stack) c
  | .key first members =>
    if isJsonSpace c then some r
    else if c = '"'.toNat then some ⟨.string (.key members) [] (.plain false), r.stack⟩
    else if first = true ∧ c = '}'.toNat then some ⟨.done (.object members), r.stack⟩
    else none
  | .string place read state => stepString place read state r.stack c
  | .colon members key =>
    if isJsonSpace c then some r
    else if c = ':'.toNat then some ⟨.value, .object members key :: r.stack⟩
    else none
  | .number read state =>
    match state.step c with
    | some state => some ⟨.number (read ++ [c]) state, r.stack⟩
    | none =>
      if state.complete then afterValue (.number read) r.stack c
      else if state = .minus ∧ c = 'I'.toNat then
        some ⟨.word .negInfinity 2, r.stack⟩
      else none
  | .word w read =>
    if w.text[read]? = some c then
      some (if read + 1 = w.text.length then ⟨.done (.word w), r.stack⟩
        else ⟨.word w (read + 1), r.stack⟩)
    else none
  | .done v => afterValue v r.stack c

/-- A text, one code point after the other. -/
def run (r : Reader) (text : Codes) : Option Reader := text.foldlM step r

/-- The value the text is, when the reader stands at its end. -/
def result (r : Reader) : Option Json :=
  match r.mode, r.stack with
  | .done v, [] => some v
  | .number read state, [] => if state.complete then some (.number read) else none
  | _, _ => none

end Reader

/-- `json.loads(text)`; `none` is `JSONDecodeError`. -/
def loads (text : Codes) : Option Json := (Reader.start.run text).bind Reader.result

end PortfolioManagement
