import PortfolioManagement.Lib.JsonRecords

/-!
# Indented JSON texts

The text `json.dump(value, file, ensure_ascii=False, indent=2)` writes, with the items of a dict in any
order. It is read back as the value with its dicts in key order (`loads_dump`), and no part of the text
of a dict that lacks its end is the text of a value (`loads_of_strictPart`).
-/

namespace PortfolioManagement.Indented

/-! ## Writing -/

/-- A new line at a level of indentation. -/
def newLine (level : Nat) : Codes := '\n'.toNat :: List.replicate (2 * level) ' '.toNat

mutual

/-- `json.dumps(value, ensure_ascii=False, indent=2)`, inside so many containers. -/
def dump (level : Nat) : Json → Codes
  | .word w => w.text
  | .number literal => literal
  | .string s => renderString s
  | .array [] => codes "[]"
  | .array (x :: xs) =>
    '['.toNat :: (newLine (level + 1) ++ (dump (level + 1) x ++ (dumpItems (level + 1) xs ++
      (newLine level ++ [']'.toNat]))))
  | .object [] => codes "\x7b\x7d"
  | .object ((k, v) :: ms) =>
    '{'.toNat :: (newLine (level + 1) ++ (renderString k ++ (codes ": " ++ (dump (level + 1) v ++
      (dumpMembers (level + 1) ms ++ (newLine level ++ ['}'.toNat]))))))

/-- The items of a list after the first one. -/
def dumpItems (level : Nat) : List Json → Codes
  | [] => []
  | x :: xs => ','.toNat :: (newLine level ++ (dump level x ++ dumpItems level xs))

/-- The items of a dict after the first one. -/
def dumpMembers (level : Nat) : List (Codes × Json) → Codes
  | [] => []
  | (k, v) :: ms =>
    ','.toNat :: (newLine level ++ (renderString k ++ (codes ": " ++ (dump level v ++
      dumpMembers level ms))))

end

mutual

/-- Every number inside the value is a literal. -/
def Literal : Json → Prop
  | .word _ => True
  | .number literal => IsNumeral literal
  | .string _ => True
  | .array items => LiteralItems items
  | .object members => LiteralMembers members

/-- `Literal` over the items of a list. -/
def LiteralItems : List Json → Prop
  | [] => True
  | x :: xs => Literal x ∧ LiteralItems xs

/-- `Literal` over the values of a dict. -/
def LiteralMembers : List (Codes × Json) → Prop
  | [] => True
  | (_, v) :: ms => Literal v ∧ LiteralMembers ms

end

mutual

/-- The value with every dict inside it in key order. -/
def ordered : Json → Json
  | .word w => .word w
  | .number literal => .number literal
  | .string s => .string s
  | .array items => .array (orderedItems items)
  | .object members => .object (orderedMembers members [])

/-- `ordered` over the items of a list. -/
def orderedItems : List Json → List Json
  | [] => []
  | x :: xs => ordered x :: orderedItems xs

/-- The items of a dict, set one after the other. -/
def orderedMembers : List (Codes × Json) → Members → Members
  | [], before => before
  | (k, v) :: ms, before => orderedMembers ms (setItem k (ordered v) before)

end

/-! ## Reading back -/

/-- A reader that passes spaces over passes a new line over. -/
theorem run_newLine {r : Reader} (h : ∀ c, isJsonSpace c = true → r.step c = some r) (level : Nat)
    (rest : Codes) : r.run (newLine level ++ rest) = r.run rest := by
  have hspaces : ∀ n : Nat, r.run (List.replicate n ' '.toNat ++ rest) = r.run rest := by
    intro n
    induction n with
    | zero => rfl
    | succ n ih => rw [List.replicate_succ, List.cons_append, Reader.run_cons_of_step (h _ rfl), ih]
  rw [newLine, List.cons_append, Reader.run_cons_of_step (h _ rfl), hspaces]

section
variable (stack : List Frame)

theorem step_value_space (c : Nat) (h : isJsonSpace c = true) :
    Reader.step ⟨.value, stack⟩ c = some ⟨.value, stack⟩ := if_pos h

theorem step_firstItem_space (c : Nat) (h : isJsonSpace c = true) :
    Reader.step ⟨.firstItem, stack⟩ c = some ⟨.firstItem, stack⟩ := if_pos h

theorem step_key_space (first : Bool) (members : Members) (c : Nat) (h : isJsonSpace c = true) :
    Reader.step ⟨.key first members, stack⟩ c = some ⟨.key first members, stack⟩ := if_pos h

theorem step_done_space (v : Json) (c : Nat) (h : isJsonSpace c = true) :
    Reader.step ⟨.done v, stack⟩ c = some ⟨.done v, stack⟩ := if_pos h

end

/-- What stands behind a value inside a container: a comma or a new line. -/
def Followed (text : Codes) : Prop := ∃ c t, text = c :: t ∧ (c = ','.toNat ∨ c = '\n'.toNat)

/-- What stands behind a value: a number needs a follower, other values end by themselves. -/
def EndsBefore : Json → Codes → Prop
  | .number _, rest => Followed rest
  | _, _ => True

theorem EndsBefore.of_followed (j : Json) {rest : Codes} (h : Followed rest) : EndsBefore j rest := by
  cases j with
  | number => exact h
  | word | string | array | object => exact trivial

theorem followed_items (level level' : Nat) (xs : List Json) (rest : Codes) :
    Followed (dumpItems level xs ++ (newLine level' ++ rest)) := by
  cases xs with
  | nil => exact ⟨_, _, rfl, .inr rfl⟩
  | cons => exact ⟨_, _, rfl, .inl rfl⟩

theorem followed_members (level level' : Nat) (ms : List (Codes × Json)) (rest : Codes) :
    Followed (dumpMembers level ms ++ (newLine level' ++ rest)) := by
  cases ms with
  | nil => exact ⟨_, _, rfl, .inr rfl⟩
  | cons => exact ⟨_, _, rfl, .inl rfl⟩

/-- A follower ends a number. -/
theorem step_number_followed {c : Nat} (hc : c = ','.toNat ∨ c = '\n'.toNat) {s : NumeralState}
    (hs : s.complete = true) (read : Codes) (stack : List Frame) :
    Reader.step ⟨.number read s, stack⟩ c = Reader.step ⟨.done (.number read), stack⟩ c := by
  have hnone : s.step c = none := by
    rcases hc with rfl | rfl <;> cases s <;> rfl
  simp only [Reader.step, hnone, hs, if_true]

/-- The first code point of a value is no space and ends no list. -/
theorem dump_head (level : Nat) (j : Json) (hj : Literal j) :
    ∃ c t, dump level j = c :: t ∧ isJsonSpace c = false ∧ c ≠ ']'.toNat := by
  cases j with
  | word w => cases w <;> exact ⟨_, _, rfl, rfl, by decide⟩
  | string s => exact ⟨_, _, rfl, rfl, by decide⟩
  | array items => cases items <;> exact ⟨_, _, rfl, rfl, by decide⟩
  | object members =>
    cases members with
    | nil => exact ⟨_, _, rfl, rfl, by decide⟩
    | cons m ms => exact ⟨_, _, rfl, rfl, by decide⟩
  | number text => exact render_head (.number text) hj

/-- The first item of a list is read as a value inside the list. -/
theorem run_firstItem (level : Nat) (j : Json) (hj : Literal j) (stack : List Frame) (rest : Codes) :
    Reader.run ⟨.firstItem, stack⟩ (dump level j ++ rest) =
      Reader.run ⟨.value, .array [] :: stack⟩ (dump level j ++ rest) := by
  obtain ⟨c, t, hdump, hspace, hend⟩ := dump_head level j hj
  rw [hdump, List.cons_append, Reader.run_cons, Reader.run_cons]
  simp only [Reader.step, hspace, hend, if_false, Bool.false_eq_true]

mutual

/-- A value is read back in key order, whatever stands around it. -/
theorem run_dump : ∀ (j : Json), Literal j → ∀ (level : Nat) (stack : List Frame) {rest : Codes},
    EndsBefore j rest → Reader.run ⟨.value, stack⟩ (dump level j ++ rest) =
      Reader.run ⟨.done (ordered j), stack⟩ rest
  | .word w, _, _, stack, rest, _ => run_word w stack rest
  | .string s, _, _, stack, rest, _ => run_string stack s rest
  | .number text, hj, _, stack, rest, hends => by
    obtain ⟨c, t, rfl, hc⟩ := hends
    obtain ⟨s, hrun, hcomplete⟩ := run_numeral stack hj
    rw [dump, Reader.run_append, hrun, Option.bind_some, Reader.run_cons,
      step_number_followed hc hcomplete, ← Reader.run_cons]
    rfl
  | .array [], _, _, _, _, _ => rfl
  | .array (x :: xs), hj, level, stack, rest, _ => by
    have hx : Literal x := hj.1
    have hxs : LiteralItems xs := hj.2
    rw [dump, List.cons_append, Reader.run_cons_of_step (s := ⟨.firstItem, stack⟩) rfl]
    simp only [List.append_assoc, List.singleton_append]
    rw [run_newLine (step_firstItem_space stack), run_firstItem (level + 1) x hx,
      run_dump x hx (level + 1) _ (.of_followed x (followed_items _ _ xs _))]
    exact run_dumpItems xs hxs (level + 1) level [] (ordered x) stack rest
  | .object [], _, _, _, _, _ => rfl
  | .object ((k, v) :: ms), hj, level, stack, rest, _ => by
    obtain ⟨hv, hms⟩ : Literal v ∧ LiteralMembers ms := hj
    rw [dump, List.cons_append, Reader.run_cons_of_step (s := ⟨.key true [], stack⟩) rfl]
    simp only [List.append_assoc, List.singleton_append]
    rw [run_newLine (step_key_space stack true []), run_key,
      run_dump v hv (level + 1) _ (.of_followed v (followed_members _ _ ms _))]
    exact run_dumpMembers ms hms (level + 1) level [] k (ordered v) stack rest

/-- The items of a list after the first one are read back up to the end of the list. -/
theorem run_dumpItems : ∀ (xs : List Json), LiteralItems xs → ∀ (level level' : Nat)
    (before : List Json) (x : Json) (stack : List Frame) (rest : Codes),
    Reader.run ⟨.done x, .array before :: stack⟩
        (dumpItems level xs ++ (newLine level' ++ ']'.toNat :: rest)) =
      Reader.run ⟨.done (.array (before ++ x :: orderedItems xs)), stack⟩ rest
  | [], _, _, level', before, x, stack, rest => by
    rw [dumpItems, List.nil_append, run_newLine (step_done_space _ x)]
    rfl
  | y :: ys, hxs, level, level', before, x, stack, rest => by
    have hy : Literal y := hxs.1
    have hys : LiteralItems ys := hxs.2
    rw [dumpItems, List.cons_append,
      Reader.run_cons_of_step (s := ⟨.value, .array (before ++ [x]) :: stack⟩) rfl]
    simp only [List.append_assoc]
    rw [run_newLine (step_value_space _),
      run_dump y hy level _ (.of_followed y (followed_items _ _ ys _)),
      run_dumpItems ys hys level level' (before ++ [x]) (ordered y) stack rest, List.append_assoc]
    rfl

/-- The items of a dict after the first one are read back up to the end of the dict. -/
theorem run_dumpMembers : ∀ (ms : List (Codes × Json)), LiteralMembers ms → ∀ (level level' : Nat)
    (before : Members) (k : Codes) (v : Json) (stack : List Frame) (rest : Codes),
    Reader.run ⟨.done v, .object before k :: stack⟩
        (dumpMembers level ms ++ (newLine level' ++ '}'.toNat :: rest)) =
      Reader.run ⟨.done (.object (orderedMembers ms (setItem k v before))), stack⟩ rest
  | [], _, _, level', before, k, v, stack, rest => by
    rw [dumpMembers, List.nil_append, run_newLine (step_done_space _ v)]
    rfl
  | (k', v') :: ms, hms, level, level', before, k, v, stack, rest => by
    have hv' : Literal v' := hms.1
    have hms' : LiteralMembers ms := hms.2
    rw [dumpMembers, List.cons_append,
      Reader.run_cons_of_step (s := ⟨.key false (setItem k v before), stack⟩) rfl]
    simp only [List.append_assoc]
    rw [run_newLine (step_key_space _ false _), run_key,
      run_dump v' hv' level _ (.of_followed v' (followed_members _ _ ms _)),
      run_dumpMembers ms hms' level level' (setItem k v before) k' (ordered v') stack rest]
    rfl

end

/-- What `json.dump` wrote of a dict, `json.load` reads. -/
theorem loads_dump (ms : Members) (h : Literal (.object ms)) :
    loads (dump 0 (.object ms)) = some (ordered (.object ms)) := by
  have hrun := run_dump (.object ms) h 0 [] (show EndsBefore _ [] from trivial)
  rw [List.append_nil] at hrun
  rw [loads, Reader.start, hrun]
  rfl

theorem getLast?_dump (level : Nat) (ms : Members) :
    (dump level (.object ms)).getLast? = some '}'.toNat := by
  cases ms with
  | nil => rfl
  | cons m ms =>
    obtain ⟨k, v⟩ := m
    have hconcat : dump level (.object ((k, v) :: ms)) =
        ('{'.toNat :: (newLine (level + 1) ++ (renderString k ++ (codes ": " ++
          (dump (level + 1) v ++ (dumpMembers (level + 1) ms ++ newLine level)))))) ++ ['}'.toNat] := by
      simp only [dump, List.cons_append, List.append_assoc]
    rw [hconcat, List.getLast?_concat]

/-- A part of the text of a dict that lacks some of its end is the text of no value. -/
theorem loads_of_strictPart {ms : Members} (h : Literal (.object ms)) {part rest : Codes}
    (htext : dump 0 (.object ms) = part ++ rest) (hrest : rest ≠ []) : loads part = none := by
  have hrun := run_dump (.object ms) h 0 [] (show EndsBefore _ [] from trivial)
  rw [List.append_nil] at hrun
  exact PortfolioManagement.loads_of_strictPart hrun (getLast?_dump 0 ms) htext hrest

/-! ## What is written -/

theorem notMem_newLine {c : Nat} (hc : Odd c) (hline : c ≠ '\n'.toNat) (level : Nat) :
    c ∉ newLine level := by
  intro h
  rcases List.mem_cons.mp h with rfl | h
  · exact hline rfl
  · rw [List.eq_of_mem_replicate h] at hc
    revert hc
    simp [Odd]

mutual

/-- Other than printable ASCII characters and new lines, the text of a value contains what its strings
do, and no control characters. -/
theorem mem_dump {c : Nat} (hc : Odd c) (hline : c ≠ '\n'.toNat) : ∀ (j : Json), Literal j → ∀ level : Nat,
    (c ∈ dump level j ↔ (∃ s ∈ texts j, c ∈ s) ∧ 128 ≤ c)
  | .word w, _, _ => by
    have hw : c ∉ w.text := notMem_ascii hc (by cases w <;> decide)
    simp [dump, texts, hw]
  | .number text, hj, _ => by simp [dump, texts, notMem_numeral hc hj]
  | .string s, _, _ => by simp [dump, texts, mem_renderString hc]
  | .array [], _, _ => by
    have hbrackets : c ∉ codes "[]" := notMem_ascii hc (by decide)
    simp [dump, texts, textsItems, hbrackets]
  | .array (x :: xs), hj, level => by
    have hx : Literal x := hj.1
    have hxs : LiteralItems xs := hj.2
    have hopen : c ≠ '['.toNat := by rintro rfl; revert hc; simp [Odd]
    have hclose : c ≠ ']'.toNat := by rintro rfl; revert hc; simp [Odd]
    simp only [dump, texts, textsItems, List.mem_cons, List.mem_append, hopen, hclose,
      notMem_newLine hc hline, mem_dump hc hline x hx, mem_dumpItems hc hline xs hxs, List.not_mem_nil,
      or_false, false_or]
    simp only [or_and_right, exists_or]
  | .object [], _, _ => by
    have hbraces : c ∉ codes "\x7b\x7d" := notMem_ascii hc (by decide)
    simp [dump, texts, textsMembers, hbraces]
  | .object ((k, v) :: ms), hj, level => by
    obtain ⟨hv, hms⟩ : Literal v ∧ LiteralMembers ms := hj
    have hopen : c ≠ '{'.toNat := by rintro rfl; revert hc; simp [Odd]
    have hclose : c ≠ '}'.toNat := by rintro rfl; revert hc; simp [Odd]
    have hcolon : c ∉ codes ": " := notMem_ascii hc (by decide)
    simp only [dump, texts, textsMembers, List.mem_cons, List.mem_append, hopen, hclose, hcolon,
      notMem_newLine hc hline, mem_renderString hc, mem_dump hc hline v hv,
      mem_dumpMembers hc hline ms hms, List.not_mem_nil, or_false, false_or]
    simp only [or_and_right, exists_or, exists_eq_left]

theorem mem_dumpItems {c : Nat} (hc : Odd c) (hline : c ≠ '\n'.toNat) : ∀ (xs : List Json),
    LiteralItems xs → ∀ level : Nat, (c ∈ dumpItems level xs ↔ (∃ s ∈ textsItems xs, c ∈ s) ∧ 128 ≤ c)
  | [], _, _ => by simp [dumpItems, textsItems]
  | x :: xs, hxs, level => by
    have hx : Literal x := hxs.1
    have hxs : LiteralItems xs := hxs.2
    have hcomma : c ≠ ','.toNat := by rintro rfl; revert hc; simp [Odd]
    simp only [dumpItems, textsItems, List.mem_cons, List.mem_append, hcomma, notMem_newLine hc hline,
      mem_dump hc hline x hx, mem_dumpItems hc hline xs hxs, false_or]
    simp only [or_and_right, exists_or]

theorem mem_dumpMembers {c : Nat} (hc : Odd c) (hline : c ≠ '\n'.toNat) : ∀ (ms : List (Codes × Json)),
    LiteralMembers ms → ∀ level : Nat,
    (c ∈ dumpMembers level ms ↔ (∃ s ∈ textsMembers ms, c ∈ s) ∧ 128 ≤ c)
  | [], _, _ => by simp [dumpMembers, textsMembers]
  | (k, v) :: ms, hms, level => by
    have hv : Literal v := hms.1
    have hms : LiteralMembers ms := hms.2
    have hcomma : c ≠ ','.toNat := by rintro rfl; revert hc; simp [Odd]
    have hcolon : c ∉ codes ": " := notMem_ascii hc (by decide)
    simp only [dumpMembers, textsMembers, List.mem_cons, List.mem_append, hcomma, hcolon,
      notMem_newLine hc hline, mem_renderString hc, mem_dump hc hline v hv,
      mem_dumpMembers hc hline ms hms, false_or]
    simp only [or_and_right, exists_or, exists_eq_left]

end

/-- No carriage return is written. -/
theorem return_notMem_dump {j : Json} (h : Literal j) (level : Nat) : '\r'.toNat ∉ dump level j := by
  rw [mem_dump (.inl (by decide)) (by decide) j h]
  rintro ⟨-, hhigh⟩
  exact absurd hhigh (by decide)

/-- A value whose strings are texts of characters is written. -/
theorem exists_encodeUtf8_dump {j : Json} (h : Literal j)
    (htexts : ∀ s ∈ texts j, ∀ c ∈ s, (charOf? c).isSome) (level : Nat) :
    ∃ bytes, encodeUtf8 (dump level j) = some bytes := by
  have hall : ∀ c ∈ dump level j, (charOf? c).isSome := by
    intro c hc
    by_cases hlow : c < 128
    · have hascii : ∀ d, d < 128 → (charOf? d).isSome := by decide
      exact hascii c hlow
    · have hodd : Odd c := .inr (by omega)
      have hline : c ≠ '\n'.toNat := by
        rintro rfl
        exact hlow (by decide)
      obtain ⟨⟨s, hs, hcs⟩, -⟩ := (mem_dump hodd hline j h level).mp hc
      exact htexts s hs c hcs
  have hmap : ∀ text : Codes, (∀ c ∈ text, (charOf? c).isSome) → ∃ cs, text.mapM charOf? = some cs := by
    intro text
    induction text with
    | nil => exact fun _ => ⟨[], rfl⟩
    | cons c text ih =>
      intro hsome
      obtain ⟨d, hd⟩ := Option.isSome_iff_exists.mp (hsome c List.mem_cons_self)
      obtain ⟨cs, hcs⟩ := ih fun e he => hsome e (List.mem_cons_of_mem c he)
      exact ⟨d :: cs, by rw [List.mapM_cons, hd, hcs]; rfl⟩
  obtain ⟨cs, hcs⟩ := hmap _ hall
  exact ⟨_, by rw [encodeUtf8, hcs]; rfl⟩

/-! ## Values in key order -/

mutual

/-- A value that is kept in key order is in key order. -/
theorem ordered_of_canonical : ∀ j : Json, Canonical j → ordered j = j ∧ Literal j
  | .word w, _ => ⟨rfl, trivial⟩
  | .number text, h => ⟨rfl, h⟩
  | .string s, _ => ⟨rfl, trivial⟩
  | .array items, h => by
    obtain ⟨hitems, hliteral⟩ := orderedItems_of_canonical items h
    exact ⟨by rw [ordered, hitems], hliteral⟩
  | .object members, h => by
    obtain ⟨hmembers, hliteral⟩ := orderedMembers_of_canonical members h.2 [] (by rw [List.nil_append]; exact h.1)
    rw [List.nil_append] at hmembers
    exact ⟨by rw [ordered, hmembers], hliteral⟩

theorem orderedItems_of_canonical : ∀ items : List Json, CanonicalItems items →
    orderedItems items = items ∧ LiteralItems items
  | [], _ => ⟨rfl, trivial⟩
  | x :: xs, h => by
    obtain ⟨hx, hliteral⟩ := ordered_of_canonical x h.1
    obtain ⟨hxs, hliterals⟩ := orderedItems_of_canonical xs h.2
    exact ⟨by rw [orderedItems, hx, hxs], hliteral, hliterals⟩

theorem orderedMembers_of_canonical : ∀ ms : Members, CanonicalMembers ms → ∀ before : Members,
    ((before ++ ms).map Prod.fst).Pairwise (· < ·) →
    orderedMembers ms before = before ++ ms ∧ LiteralMembers ms
  | [], _, before, _ => ⟨(List.append_nil before).symm, trivial⟩
  | (k, v) :: ms, h, before, hsorted => by
    obtain ⟨hv, hliteral⟩ := ordered_of_canonical v h.1
    have hset : setItem k (ordered v) before = before ++ [(k, v)] := by
      rw [hv, setItem_of_lt v (lt_of_pairwise hsorted)]
    have hsorted' : (((before ++ [(k, v)]) ++ ms).map Prod.fst).Pairwise (· < ·) := by
      rwa [List.append_assoc]
    obtain ⟨hms, hliterals⟩ := orderedMembers_of_canonical ms h.2 (before ++ [(k, v)]) hsorted'
    exact ⟨by rw [orderedMembers, hset, hms, List.append_assoc]; rfl, hliteral, hliterals⟩

end

end PortfolioManagement.Indented
