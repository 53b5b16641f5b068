import Mathlib.Data.String.Basic
import PortfolioManagement.Lib.Json

/-!
# JSON values in a Python program

What a program does with a value `json.loads` gave it: test it, write it with `str`, compare it with `==`
and look up keys of a dict. Two numbers can be equal under different literals, and a truth value is equal
to `0` or `1`, so `==` is coarser than equality of values; how numbers compare and what `str` writes of a
value that is no text are parameters.
-/

namespace PortfolioManagement

/-! ## Texts -/

instance lawfulCodes : LawfulBEq Codes := inferInstanceAs (LawfulBEq (List Nat))

/-- The string of a text, when every code point of it is a character. -/
def textOf? (text : Codes) : Option String := (text.mapM charOf?).map String.ofList

@[simp] theorem textOf?_codes (s : String) : textOf? (codes s) = some s := by
  rw [textOf?, codes, mapM_charOf?_toNat, Option.map_some, String.ofList_toList]

/-- The code points of a string determine it. -/
theorem codes_injective : Function.Injective codes := by
  intro s t h
  have htext := congrArg textOf? h
  rw [textOf?_codes, textOf?_codes] at htext
  exact Option.some.inj htext

@[simp] theorem codes_inj {s t : String} : codes s = codes t ↔ s = t := codes_injective.eq_iff

theorem codes_of_textOf? {text : Codes} {s : String} (h : textOf? text = some s) : codes s = text := by
  obtain ⟨cs, hcs, rfl⟩ := Option.map_eq_some_iff.mp h
  rw [codes, String.toList_ofList, map_toNat_of_mapM hcs]

@[simp] theorem codes_eq_nil {s : String} : codes s = [] ↔ s = "" := by
  rw [codes, List.map_eq_nil_iff, String.toList_eq_nil_iff]

namespace Json

/-- `None`. -/
def none : Json := .word .null

/-- A text. -/
def text (s : String) : Json := .string (codes s)

/-- A text, or `None`. -/
def optionalText (s : Option String) : Json := s.elim none text

/-- A truth value. -/
def ofBool (b : Bool) : Json := .word (if b then .true else .false)

theorem text_inj {s t : String} : text s = text t ↔ s = t := by
  rw [text, text, Json.string.injEq, codes_inj]

theorem ofBool_inj {b c : Bool} : ofBool b = ofBool c ↔ b = c := by
  cases b <;> cases c <;> simp [ofBool]

/-- `bool(value)`. -/
def truthy : Json → Bool
  | .word .null | .word .false => false
  | .word _ => true
  | .number literal => literal.any fun c => '1'.toNat ≤ c && c ≤ '9'.toNat
  | .string s => !s.isEmpty
  | .array items => !items.isEmpty
  | .object members => !members.isEmpty

/-- `value is True`. -/
def isTrue : Json → Bool
  | .word .true => true
  | _ => false

/-- `value is False`. -/
def isFalse : Json → Bool
  | .word .false => true
  | _ => false

theorem truthy_text {s : String} (h : s ≠ "") : (text s).truthy = true := by
  have hcodes : codes s ≠ [] := by rwa [Ne, codes_eq_nil]
  simp [text, truthy, hcodes]

/-- `d.get(name)`. -/
def get (members : Members) (name : String) : Json := (getItem (codes name) members).getD none

/-- The items of `for item in value or []`, when the value can be iterated. -/
def iterated (v : Json) : Option (List Json) :=
  if v.truthy then
    match v with
    | .array items => some items
    | .string s => some (s.map fun c => .string [c])
    | .object members => some (members.map fun member => .string member.1)
    | _ => Option.none
  else some []

theorem iterated_array (items : List Json) : (Json.array items).iterated = some items := by
  cases items <;> rfl

section
variable (repr : Json → Codes)

/-- `str(value)`. -/
def str : Json → Codes
  | .string s => s
  | v => repr v

/-- `str(value or "")`. -/
def strOrEmpty (v : Json) : Codes := if v.truthy then v.str repr else []

@[simp] theorem strOrEmpty_text (s : String) : (text s).strOrEmpty repr = codes s := by
  by_cases h : s = ""
  · subst h
    rfl
  · rw [strOrEmpty, if_pos (truthy_text h)]
    rfl

end

/-! ## Equality -/

section
variable (equalNumbers : Codes → Codes → Bool)

mutual

/-- `x == y`. A `NaN` that was read is one object, so it is equal to itself. -/
def same : Json → Json → Bool
  | .word w, .word w' => w == w'
  | .word .true, .number n => equalNumbers (codes "1") n
  | .word .false, .number n => equalNumbers (codes "0") n
  | .number m, .word .true => equalNumbers m (codes "1")
  | .number m, .word .false => equalNumbers m (codes "0")
  | .number m, .number n => equalNumbers m n
  | .string s, .string t => s == t
  | .array xs, .array ys => sameItems xs ys
  | .object ms, .object ns => sameMembers ms ns
  | _, _ => false

/-- Lists are equal item by item. -/
def sameItems : List Json → List Json → Bool
  | [], [] => true
  | x :: xs, y :: ys => same x y && sameItems xs ys
  | _, _ => false

/-- Dicts in key order are equal item by item. -/
def sameMembers : Members → Members → Bool
  | [], [] => true
  | (k, v) :: ms, (l, w) :: ns => k == l && same v w && sameMembers ms ns
  | _, _ => false

end

variable {equalNumbers}

mutual

theorem same_self (hrefl : ∀ n, equalNumbers n n = true) : ∀ v : Json, same equalNumbers v v = true
  | .word w => by simp [same]
  | .number n => by simp [same, hrefl]
  | .string s => by simp [same]
  | .array items => by rw [same, sameItems_self hrefl items]
  | .object members => by rw [same, sameMembers_self hrefl members]

theorem sameItems_self (hrefl : ∀ n, equalNumbers n n = true) : ∀ items : List Json,
    sameItems equalNumbers items items = true
  | [] => rfl
  | x :: xs => by rw [sameItems, same_self hrefl x, sameItems_self hrefl xs, Bool.and_self]

theorem sameMembers_self (hrefl : ∀ n, equalNumbers n n = true) : ∀ members : Members,
    sameMembers equalNumbers members members = true
  | [] => rfl
  | (k, v) :: ms => by
    rw [sameMembers, same_self hrefl v, sameMembers_self hrefl ms]
    simp

end

/-- Only a text is equal to a text. -/
theorem same_string {s : Codes} {v : Json} : same equalNumbers v (.string s) = true ↔ v = .string s := by
  cases v <;> simp [same]

theorem same_text {s : String} {v : Json} : same equalNumbers v (text s) = true ↔ v = text s := same_string

/-- Only `None` is equal to `None`. -/
theorem same_none {v : Json} : same equalNumbers v none = true ↔ v = none := by
  cases v <;> simp [same, none]

end

theorem getItem_cons {k key : Codes} {v : Json} {ms : Members} :
    getItem key ((k, v) :: ms) = if k = key then some v else getItem key ms := by
  by_cases h : k = key
  · rw [if_pos h, getItem, List.find?_cons_of_pos (by simpa using h)]
    rfl
  · rw [if_neg h, getItem, List.find?_cons_of_neg (by simpa using h)]
    rfl

section
variable {equalNumbers : Codes → Codes → Bool}

/-- What an equal dict has under a key is equal. -/
theorem getItem_of_sameMembers {key : Codes} {v : Json} : ∀ {ms ns : Members},
    sameMembers equalNumbers ms ns = true → getItem key ms = some v →
    ∃ w, getItem key ns = some w ∧ same equalNumbers v w = true
  | (k, v') :: ms, (l, w) :: ns, h, hget => by
    simp only [sameMembers, Bool.and_eq_true, beq_iff_eq] at h
    obtain ⟨⟨rfl, hsame⟩, hrest⟩ := h
    rw [getItem_cons] at hget ⊢
    by_cases hk : k = key
    · rw [if_pos hk] at hget ⊢
      exact ⟨w, rfl, Option.some.inj hget ▸ hsame⟩
    · rw [if_neg hk] at hget ⊢
      exact getItem_of_sameMembers hrest hget
  | [], _, _, hget => by simp [getItem] at hget
  | _ :: _, [], h, _ => by simp [sameMembers] at h

end

/-! ## Values that only they are equal to -/

mutual

/-- No number and no truth value occurs in the value. -/
def Rigid : Json → Prop
  | .word w => w ≠ .true ∧ w ≠ .false
  | .number _ => False
  | .string _ => True
  | .array items => RigidItems items
  | .object members => RigidMembers members

/-- `Rigid` over the items of a list. -/
def RigidItems : List Json → Prop
  | [] => True
  | x :: xs => Rigid x ∧ RigidItems xs

/-- `Rigid` over the values of a dict. -/
def RigidMembers : Members → Prop
  | [] => True
  | (_, v) :: ms => Rigid v ∧ RigidMembers ms

end

section
variable {equalNumbers : Codes → Codes → Bool}

mutual

/-- A value without numbers and truth values is equal to itself only. -/
theorem eq_of_same : ∀ {v w : Json}, Rigid v → same equalNumbers v w = true → w = v
  | .word w, .word w', _, h => by
    simp only [same, beq_iff_eq] at h
    rw [h]
  | .word w, .number n, hrigid, h => by
    cases w with
    | true => exact absurd rfl hrigid.1
    | false => exact absurd rfl hrigid.2
    | _ => simp [same] at h
  | .string s, .string t, _, h => by
    simp only [same, beq_iff_eq] at h
    rw [h]
  | .array xs, .array ys, hrigid, h => by
    have heq : ys = xs := eq_of_sameItems hrigid h
    rw [heq]
  | .object ms, .object ns, hrigid, h => by
    have heq : ns = ms := eq_of_rigidMembers hrigid h
    rw [heq]
  | .word _, .string _, _, h | .word _, .array _, _, h | .word _, .object _, _, h
  | .string _, .word _, _, h | .string _, .number _, _, h | .string _, .array _, _, h
  | .string _, .object _, _, h | .array _, .word _, _, h | .array _, .number _, _, h
  | .array _, .string _, _, h | .array _, .object _, _, h | .object _, .word _, _, h
  | .object _, .number _, _, h | .object _, .string _, _, h | .object _, .array _, _, h => by
    simp [same] at h

theorem eq_of_sameItems : ∀ {xs ys : List Json}, RigidItems xs →
    sameItems equalNumbers xs ys = true → ys = xs
  | [], [], _, _ => rfl
  | x :: xs, y :: ys, hrigid, h => by
    simp only [sameItems, Bool.and_eq_true] at h
    rw [eq_of_same hrigid.1 h.1, eq_of_sameItems hrigid.2 h.2]
  | [], _ :: _, _, h | _ :: _, [], _, h => by simp [sameItems] at h

theorem eq_of_rigidMembers : ∀ {ms ns : Members}, RigidMembers ms →
    sameMembers equalNumbers ms ns = true → ns = ms
  | [], [], _, _ => rfl
  | (k, v) :: ms, (l, w) :: ns, hrigid, h => by
    simp only [sameMembers, Bool.and_eq_true, beq_iff_eq] at h
    rw [h.1.1, eq_of_same hrigid.1 h.1.2, eq_of_rigidMembers hrigid.2 h.2]
  | [], _ :: _, _, h | _ :: _, [], _, h => by simp [sameMembers] at h

end

theorem rigidItems_iff {items : List Json} : RigidItems items ↔ ∀ v ∈ items, Rigid v := by
  induction items with
  | nil => simp [RigidItems]
  | cons v items ih => rw [RigidItems, ih, List.forall_mem_cons]

theorem rigidMembers_iff {members : Members} : RigidMembers members ↔ ∀ m ∈ members, Rigid m.2 := by
  induction members with
  | nil => simp [RigidMembers]
  | cons m members ih => rw [RigidMembers, ih, List.forall_mem_cons]

@[simp] theorem rigid_text (s : String) : Rigid (text s) := trivial

@[simp] theorem rigid_optionalText (s : Option String) : Rigid (optionalText s) := by
  cases s <;> simp [optionalText, Rigid, none]

@[simp] theorem rigid_texts (texts : List String) : Rigid (.array (texts.map text)) := by
  rw [Rigid, rigidItems_iff]
  intro v hv
  obtain ⟨s, -, rfl⟩ := List.mem_map.mp hv
  exact rigid_text s

/-- Equal dicts are the same when each value is rigid or looked up as it is. -/
theorem eq_of_sameMembers : ∀ {ms ns : Members}, (ms.map Prod.fst).Nodup →
    sameMembers equalNumbers ms ns = true →
    (∀ item ∈ ms, Rigid item.2 ∨ getItem item.1 ns = some item.2) → ns = ms
  | [], [], _, _, _ => rfl
  | (k, v) :: ms, (l, w) :: ns, hkeys, h, hexact => by
    simp only [sameMembers, Bool.and_eq_true, beq_iff_eq] at h
    obtain ⟨⟨rfl, hsame⟩, hrest⟩ := h
    rw [List.map_cons, List.nodup_cons] at hkeys
    have hvalue : w = v := by
      rcases hexact (k, v) List.mem_cons_self with hrigid | hget
      · exact eq_of_same hrigid hsame
      · rw [getItem_cons, if_pos rfl] at hget
        exact Option.some.inj hget
    have hitems : ∀ item ∈ ms, Rigid item.2 ∨ getItem item.1 ns = some item.2 := fun item hitem => by
      have hne : ¬ k = item.1 := fun heq => hkeys.1 (List.mem_map.mpr ⟨item, hitem, heq.symm⟩)
      have hcons := hexact item (List.mem_cons_of_mem _ hitem)
      rwa [getItem_cons, if_neg hne] at hcons
    rw [hvalue, eq_of_sameMembers hkeys.2 hrest hitems]
  | [], _ :: _, _, h, _ | _ :: _, [], _, h, _ => by simp [sameMembers] at h

/-- Equal dicts that may differ at one key: one is the other with that value set. -/
theorem eq_setItem_of_sameMembers {key : Codes} : ∀ {ms ns : Members},
    (ms.map Prod.fst).Pairwise (· < ·) → sameMembers equalNumbers ms ns = true →
    key ∈ ms.map Prod.fst →
    (∀ item ∈ ms, item.1 ≠ key → Rigid item.2 ∨ getItem item.1 ns = some item.2) →
    ∃ w, getItem key ns = some w ∧ ns = setItem key w ms
  | (k, v) :: ms, (l, w) :: ns, hkeys, h, hkey, hexact => by
    simp only [sameMembers, Bool.and_eq_true, beq_iff_eq] at h
    obtain ⟨⟨rfl, hsame⟩, hrest⟩ := h
    rw [List.map_cons, List.pairwise_cons] at hkeys
    have hitems : ∀ item ∈ ms, item.1 ≠ key → Rigid item.2 ∨ getItem item.1 ns = some item.2 :=
      fun item hitem hne => by
        have hfirst : ¬ k = item.1 := (hkeys.1 _ (List.mem_map_of_mem hitem)).ne
        have hcons := hexact item (List.mem_cons_of_mem _ hitem) hne
        rwa [getItem_cons, if_neg hfirst] at hcons
    by_cases hk : k = key
    · subst hk
      have htail : ns = ms := eq_of_sameMembers (hkeys.2.imp fun hlt => hlt.ne) hrest
        fun item hitem => hitems item hitem (hkeys.1 _ (List.mem_map_of_mem hitem)).ne'
      refine ⟨w, by rw [getItem_cons, if_pos rfl], ?_⟩
      rw [setItem, if_neg (lt_irrefl k), if_pos rfl, htail]
    · have htail : key ∈ ms.map Prod.fst := by
        rw [List.map_cons, List.mem_cons] at hkey
        exact hkey.resolve_left fun heq => hk heq.symm
      have hvalue : w = v := by
        rcases hexact (k, v) List.mem_cons_self hk with hrigid | hget
        · exact eq_of_same hrigid hsame
        · rw [getItem_cons, if_pos rfl] at hget
          exact Option.some.inj hget
      obtain ⟨u, hu, hset⟩ := eq_setItem_of_sameMembers hkeys.2 hrest htail hitems
      refine ⟨u, by rw [getItem_cons, if_neg hk, hu], ?_⟩
      rw [setItem, if_neg (hkeys.1 key htail).not_gt, if_neg (Ne.symm hk), ← hset, hvalue]
  | [], _ :: _, _, h, _, _ | _ :: _, [], _, h, _, _ => by simp [sameMembers] at h
  | [], [], _, _, hkey, _ => by simp at hkey

end

/-! ## Dict displays -/

/-- A dict display whose keys are literals: a later item replaces an earlier one. -/
def display (items : List (String × Json)) : Members :=
  items.foldl (fun members item => setItem (codes item.1) item.2 members) []

section
variable {items : List (String × Json)} {name : String} {value : Json}

theorem mem_keys_foldl {key : Codes} : ∀ {members : Members},
    key ∈ (items.foldl (fun members item => setItem (codes item.1) item.2 members) members).map Prod.fst ↔
      key ∈ members.map Prod.fst ∨ ∃ name ∈ items.map Prod.fst, codes name = key := by
  induction items with
  | nil => simp
  | cons item items ih =>
    intro members
    rw [List.foldl_cons, ih, mem_keys_setItem, List.map_cons]
    simp only [List.mem_cons, exists_eq_or_imp]
    tauto

theorem getItem_foldl (hname : name ∉ items.map Prod.fst) : ∀ {members : Members},
    getItem (codes name) (items.foldl (fun members item => setItem (codes item.1) item.2 members)
      members) = getItem (codes name) members := by
  induction items with
  | nil => intro members; rfl
  | cons item items ih =>
    intro members
    rw [List.map_cons, List.mem_cons, not_or] at hname
    rw [List.foldl_cons, ih hname.2, getItem_setItem_of_ne fun h => hname.1 (codes_inj.mp h)]

/-- The keys of a display. -/
theorem mem_keys_display {key : Codes} :
    key ∈ (display items).map Prod.fst ↔ ∃ name ∈ items.map Prod.fst, codes name = key := by
  rw [display, mem_keys_foldl]
  simp

theorem mem_foldl {member : Codes × Json} : ∀ {members : Members},
    member ∈ items.foldl (fun members item => setItem (codes item.1) item.2 members) members →
      member ∈ members ∨ ∃ item ∈ items, member = (codes item.1, item.2) := by
  induction items with
  | nil => exact fun h => .inl h
  | cons item items ih =>
    intro members h
    rcases ih h with hset | ⟨later, hlater, heq⟩
    · rcases mem_setItem hset with rfl | hmem
      · exact .inr ⟨item, List.mem_cons_self, rfl⟩
      · exact .inl hmem
    · exact .inr ⟨later, List.mem_cons_of_mem _ hlater, heq⟩

/-- What a display holds is an item of it. -/
theorem mem_display {member : Codes × Json} (h : member ∈ display items) :
    ∃ item ∈ items, member = (codes item.1, item.2) :=
  (mem_foldl h).resolve_left List.not_mem_nil

/-- A display of rigid values is rigid. -/
theorem rigid_display {v : Json} (hv : v = .object (display items)) (h : ∀ item ∈ items, Rigid item.2) :
    Rigid v := by
  rw [hv, Rigid, rigidMembers_iff]
  intro member hmember
  obtain ⟨item, hitem, rfl⟩ := mem_display hmember
  exact h item hitem

/-- An item of a display is looked up. -/
theorem getItem_display (hnodup : (items.map Prod.fst).Nodup) (hmem : (name, value) ∈ items) :
    getItem (codes name) (display items) = some value := by
  obtain ⟨before, after, rfl⟩ := List.append_of_mem hmem
  rw [List.map_append, List.map_cons, List.nodup_append, List.nodup_cons] at hnodup
  rw [display, List.foldl_append, List.foldl_cons, getItem_foldl hnodup.2.1.1, getItem_setItem]

theorem get_display (hnodup : (items.map Prod.fst).Nodup) (hmem : (name, value) ∈ items) :
    get (display items) name = value := by
  rw [get, getItem_display hnodup hmem, Option.getD_some]

theorem pairwise_foldl : ∀ {members : Members}, (members.map Prod.fst).Pairwise (· < ·) →
    ((items.foldl (fun members item => setItem (codes item.1) item.2 members) members).map
      Prod.fst).Pairwise (· < ·) := by
  induction items with
  | nil => exact fun h => h
  | cons item items ih => exact fun h => ih (pairwise_setItem h)

/-- A display is in key order. -/
theorem pairwise_display : ((display items).map Prod.fst).Pairwise (· < ·) := pairwise_foldl .nil

theorem canonicalMembers_foldl (h : ∀ item ∈ items, Canonical item.2) : ∀ {members : Members},
    CanonicalMembers members →
      CanonicalMembers (items.foldl (fun members item => setItem (codes item.1) item.2 members)
        members) := by
  induction items with
  | nil => exact fun hmembers => hmembers
  | cons item items ih =>
    exact fun hmembers => ih (fun i hi => h i (List.mem_cons_of_mem _ hi))
      (canonicalMembers_setItem (h item List.mem_cons_self) hmembers)

/-- A display of canonical values is canonical. -/
theorem canonical_display (h : ∀ item ∈ items, Canonical item.2) :
    Canonical (.object (display items)) := ⟨pairwise_display, canonicalMembers_foldl h trivial⟩

end

end Json

end PortfolioManagement
