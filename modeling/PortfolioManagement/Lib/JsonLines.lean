import Mathlib.Data.List.Induction
import PortfolioManagement.Lib.JsonReader

/-!
# Dicts, one a line

Texts made of the texts of JSON dicts, each closed by a newline, and read by splitting into lines.
`str.splitlines` splits at more than newlines. JSON escapes the control characters, but not
`U+0085`, `U+2028` and `U+2029`, so a line may break inside a string of the dict it holds; and a
text that was cut short runs on into the one written after it.

Only a whole text on a line of its own is read as a dict whose keys contain an underscore
(`read_part`, `read_whole`). Everything else is a part of a text in front of a break, behind one,
or behind something unfinished.
-/

namespace PortfolioManagement

/-! ## Lines -/

/-- Where `str.splitlines` splits. -/
def isLineBreak (c : Nat) : Bool :=
  (10 ≤ c && c ≤ 13) || (0x1c ≤ c && c ≤ 0x1e) || c == 0x85 || c == 0x2028 || c == 0x2029

/-- A text that is being split: the lines that are closed, and the open one. -/
structure Lines where
  /-- the closed lines -/
  closed : List Codes
  /-- what follows the last line break -/
  current : Codes

namespace Lines

/-- No line yet. -/
def empty : Lines := ⟨[], []⟩

/-- One code point. -/
def step (l : Lines) (c : Nat) : Lines :=
  if isLineBreak c then ⟨l.closed ++ [l.current], []⟩ else ⟨l.closed, l.current ++ [c]⟩

/-- A text. -/
def read (l : Lines) (text : Codes) : Lines := text.foldl step l

/-- The lines of the whole text. -/
def all (l : Lines) : List Codes := if l.current = [] then l.closed else l.closed ++ [l.current]

theorem read_append (l : Lines) (s t : Codes) : l.read (s ++ t) = (l.read s).read t :=
  List.foldl_append

theorem read_concat (l : Lines) (s : Codes) (c : Nat) : l.read (s ++ [c]) = (l.read s).step c := by
  rw [read_append]
  rfl

/-- A text without line breaks stays on the open line. -/
theorem read_of_clean {text : Codes} (l : Lines) (h : ∀ c ∈ text, isLineBreak c = false) :
    l.read text = ⟨l.closed, l.current ++ text⟩ := by
  induction text generalizing l with
  | nil => simp [read]
  | cons c text ih =>
    have hc : l.step c = ⟨l.closed, l.current ++ [c]⟩ := if_neg (by simp [h c])
    have hread : l.read (c :: text) = (l.step c).read text := rfl
    rw [hread, hc, ih _ fun d hd => h d (List.mem_cons_of_mem _ hd), List.append_assoc]
    rfl

end Lines

/-- `str.splitlines`. -/
def splitlines (text : Codes) : List Codes := (Lines.empty.read text).all

/-- The text mode of `open` reads `\r\n` and `\r` as `\n`; `returned` says that a `\r` came just
before. -/
def universalNewlines (returned : Bool) : Codes → Codes
  | [] => []
  | c :: text =>
    if c = '\r'.toNat then '\n'.toNat :: universalNewlines true text
    else if returned = true ∧ c = '\n'.toNat then universalNewlines false text
    else c :: universalNewlines false text

theorem universalNewlines_of_notMem {text : Codes} (h : '\r'.toNat ∉ text) :
    universalNewlines false text = text := by
  induction text with
  | nil => rfl
  | cons c text ih =>
    rw [List.mem_cons, not_or] at h
    rw [universalNewlines, if_neg (Ne.symm h.1), if_neg (by simp), ih h.2]

/-! ## Where the text of a value breaks -/

mutual

/-- The strings inside a value, keys among them. -/
def texts : Json → List Codes
  | .word _ => []
  | .number _ => []
  | .string s => [s]
  | .array items => textsItems items
  | .object members => textsMembers members

/-- `texts` over the items of a list. -/
def textsItems : List Json → List Codes
  | [] => []
  | x :: xs => texts x ++ textsItems xs

/-- `texts` over the items of a dict. -/
def textsMembers : List (Codes × Json) → List Codes
  | [] => []
  | (k, v) :: ms => k :: (texts v ++ textsMembers ms)

end

/-- A line break that JSON does not escape. -/
def isUnescapedBreak (c : Nat) : Bool := c == 0x85 || c == 0x2028 || c == 0x2029

/-- No string inside the value contains an unescaped line break. -/
def BreakFree (j : Json) : Prop := ∀ s ∈ texts j, ∀ c ∈ s, isUnescapedBreak c = false

instance (j : Json) : Decidable (BreakFree j) :=
  inferInstanceAs (Decidable (∀ s ∈ texts j, ∀ c ∈ s, isUnescapedBreak c = false))

/-- A code point that is not a printable ASCII character. -/
def Odd (c : Nat) : Prop := c < 32 ∨ 128 ≤ c

theorem notMem_ascii {c : Nat} (hc : Odd c) {text : Codes} (h : ∀ d ∈ text, 32 ≤ d ∧ d < 128) :
    c ∉ text := by
  intro hmem
  have := h c hmem
  unfold Odd at hc
  omega

theorem mem_escape {c : Nat} (hc : Odd c) (d : Nat) : c ∈ escape d ↔ c = d ∧ 128 ≤ c := by
  by_cases hd : d < 128
  · have hascii : ∀ e ∈ escape d, 32 ≤ e ∧ e < 128 := by
      interval_cases d <;> decide
    have hne : ¬ (c = d ∧ 128 ≤ c) := by omega
    exact iff_of_false (notMem_ascii hc hascii) hne
  · have hescape : escape d = [d] := by
      unfold escape
      simp only [Char.reduceToNat]
      grind
    rw [hescape, List.mem_singleton]
    exact ⟨fun h => ⟨h, by omega⟩, And.left⟩

theorem mem_renderString {c : Nat} (hc : Odd c) (s : Codes) :
    c ∈ renderString s ↔ c ∈ s ∧ 128 ≤ c := by
  have hquote : c ∉ ['"'.toNat] := notMem_ascii hc (by decide)
  have hquote' : c ≠ '"'.toNat := by simpa using hquote
  simp only [renderString, List.mem_cons, List.mem_append, List.mem_flatMap, mem_escape hc,
    List.not_mem_nil, or_false, hquote', false_or]
  constructor
  · rintro ⟨d, hd, rfl, hhigh⟩
    exact ⟨hd, hhigh⟩
  · rintro ⟨hmem, hhigh⟩
    exact ⟨c, hmem, rfl, hhigh⟩

theorem notMem_numeral {c : Nat} (hc : Odd c) {text : Codes} (h : IsNumeral text) : c ∉ text := by
  obtain ⟨t, ht, -⟩ := h
  have hall : ∀ {text : Codes} {s t : NumeralState}, text.foldlM NumeralState.step s = some t →
      ∀ d ∈ text, 32 ≤ d ∧ d < 128 := by
    intro text
    induction text with
    | nil => simp
    | cons d text ih =>
      intro s t h
      rw [List.foldlM_cons, Option.bind_eq_bind, Option.bind_eq_some_iff] at h
      obtain ⟨s', hs', h⟩ := h
      exact List.forall_mem_cons.mpr ⟨numeral_printable hs', ih h⟩
  exact notMem_ascii hc (hall ht)

mutual

/-- Other than printable ASCII characters, the text of a value contains what its strings do, and no
control characters. -/
theorem mem_render {c : Nat} (hc : Odd c) : ∀ (j : Json), Canonical j →
    (c ∈ render j ↔ (∃ s ∈ texts j, c ∈ s) ∧ 128 ≤ c)
  | .word w, _ => by
    have hw : c ∉ w.text := notMem_ascii hc (by cases w <;> decide)
    simp [render, texts, hw]
  | .number text, hj => by simp [render, texts, notMem_numeral hc hj]
  | .string s, _ => by simp [render, texts, mem_renderString hc]
  | .array [], _ => by
    have hbrackets : c ∉ codes "[]" := notMem_ascii hc (by decide)
    simp [render, texts, textsItems, hbrackets]
  | .array (x :: xs), hj => by
    have hx : Canonical x := hj.1
    have hxs : CanonicalItems xs := hj.2
    have hopen : c ≠ '['.toNat := by rintro rfl; revert hc; simp [Odd]
    have hclose : c ≠ ']'.toNat := by rintro rfl; revert hc; simp [Odd]
    simp only [render, texts, textsItems, List.mem_cons, List.mem_append, hopen, hclose,
      mem_render hc x hx, mem_renderItems hc xs hxs, List.not_mem_nil, or_false, false_or]
    simp only [or_and_right, exists_or]
  | .object [], _ => by
    have hbraces : c ∉ codes "\x7b\x7d" := notMem_ascii hc (by decide)
    simp [render, texts, textsMembers, hbraces]
  | .object ((k, v) :: ms), hj => by
    obtain ⟨-, hv, hms⟩ : _ ∧ Canonical v ∧ CanonicalMembers ms := hj
    have hopen : c ≠ '{'.toNat := by rintro rfl; revert hc; simp [Odd]
    have hclose : c ≠ '}'.toNat := by rintro rfl; revert hc; simp [Odd]
    have hcolon : c ∉ codes ": " := notMem_ascii hc (by decide)
    simp only [render, texts, textsMembers, List.mem_cons, List.mem_append, hopen, hclose, hcolon,
      mem_renderString hc, mem_render hc v hv, mem_renderMembers hc ms hms, List.not_mem_nil,
      or_false, false_or]
    simp only [or_and_right, exists_or, exists_eq_left]

theorem mem_renderItems {c : Nat} (hc : Odd c) : ∀ (xs : List Json), CanonicalItems xs →
    (c ∈ renderItems xs ↔ (∃ s ∈ textsItems xs, c ∈ s) ∧ 128 ≤ c)
  | [], _ => by simp [renderItems, textsItems]
  | x :: xs, hxs => by
    have hx : Canonical x := hxs.1
    have hxs : CanonicalItems xs := hxs.2
    have hcomma : c ∉ codes ", " := notMem_ascii hc (by decide)
    simp only [renderItems, textsItems, List.mem_append, hcomma, mem_render hc x hx,
      mem_renderItems hc xs hxs, false_or]
    simp only [or_and_right, exists_or]

theorem mem_renderMembers {c : Nat} (hc : Odd c) : ∀ (ms : List (Codes × Json)),
    CanonicalMembers ms → (c ∈ renderMembers ms ↔ (∃ s ∈ textsMembers ms, c ∈ s) ∧ 128 ≤ c)
  | [], _ => by simp [renderMembers, textsMembers]
  | (k, v) :: ms, hms => by
    have hv : Canonical v := hms.1
    have hms : CanonicalMembers ms := hms.2
    have hcomma : c ∉ codes ", " := notMem_ascii hc (by decide)
    have hcolon : c ∉ codes ": " := notMem_ascii hc (by decide)
    simp only [renderMembers, textsMembers, List.mem_cons, List.mem_append, hcomma, hcolon,
      mem_renderString hc, mem_render hc v hv, mem_renderMembers hc ms hms, false_or]
    simp only [or_and_right, exists_or, exists_eq_left]

end

/-- A line breaks inside the text of a value exactly where a string of the value contains an
unescaped line break. -/
theorem isLineBreak_render {j : Json} (hj : Canonical j) {c : Nat} (hc : c ∈ render j) :
    isLineBreak c = true ↔ isUnescapedBreak c = true := by
  have hprintable : 32 ≤ c := by
    by_contra hlow
    have := ((mem_render (c := c) (.inl (by omega)) j hj).mp hc).2
    omega
  simp only [isLineBreak, isUnescapedBreak, Bool.or_eq_true, Bool.and_eq_true, decide_eq_true_eq,
    beq_iff_eq]
  omega

theorem breakFree_iff {j : Json} (hj : Canonical j) :
    BreakFree j ↔ ∀ c ∈ render j, isLineBreak c = false := by
  constructor
  · intro h c hc
    by_contra hbreak
    have hbreak : isUnescapedBreak c = true := by
      rw [← isLineBreak_render hj hc]
      simpa using hbreak
    have hhigh : 128 ≤ c := by
      simp only [isUnescapedBreak, Bool.or_eq_true, beq_iff_eq] at hbreak
      omega
    obtain ⟨⟨s, hs, hcs⟩, -⟩ := (mem_render (.inr hhigh) j hj).mp hc
    rw [h s hs c hcs] at hbreak
    cases hbreak
  · intro h s hs c hcs
    by_contra hbreak
    have hbreak : isUnescapedBreak c = true := by simpa using hbreak
    have hhigh : 128 ≤ c := by
      simp only [isUnescapedBreak, Bool.or_eq_true, beq_iff_eq] at hbreak
      omega
    have hmem := (mem_render (.inr hhigh) j hj).mpr ⟨⟨s, hs, hcs⟩, hhigh⟩
    have hline := (isLineBreak_render hj hmem).mpr hbreak
    rw [h c hmem] at hline
    cases hline

/-! ## Dicts, one a line -/

/-- The text of a dict that has an item: the reader takes it whole, it ends with a brace, and where
a line could break in it there is a code point that is only read inside strings. -/
structure DictText (text : Codes) : Prop where
  /-- how it begins -/
  opening : Opening text
  /-- it is read as a dict -/
  reads : ∃ items, Reader.start.run text = some ⟨.done (.object items), []⟩
  /-- how it ends -/
  closing : ∃ t, text = t ++ ['}'.toNat]
  /-- where it could break -/
  breaks : ∀ c ∈ text, isLineBreak c = true → Foreign c

/-- Nothing but space. -/
def Blank (text : Codes) : Prop := ∀ c ∈ text, isJsonSpace c = true

instance (text : Codes) : Decidable (Blank text) :=
  inferInstanceAs (Decidable (∀ c ∈ text, isJsonSpace c = true))

/-- The line is read as a dict with a key that contains `m`. -/
def Entry (m : Nat) (line : Codes) : Prop :=
  ∃ items, loads line = some (.object items) ∧ ¬ KeysFree m items

theorem loads_eq_some {text : Codes} {v : Json} (h : loads text = some v) :
    ∃ r, Reader.start.run text = some r ∧ r.result = some v :=
  Option.bind_eq_some_iff.mp h

theorem loads_append {s t : Codes} {v : Json} (h : loads (s ++ t) = some v) :
    ∃ q r, Reader.start.run s = some q ∧ q.run t = some r ∧ r.result = some v := by
  obtain ⟨r, hrun, hr⟩ := loads_eq_some h
  rw [Reader.run_append, Option.bind_eq_some_iff] at hrun
  obtain ⟨q, hq, hrun⟩ := hrun
  exact ⟨q, r, hq, hrun, hr⟩

/-- Space in front of a text is skipped. -/
theorem loads_blank_append {s : Codes} (hs : Blank s) (t : Codes) : loads (s ++ t) = loads t := by
  rw [loads, Reader.run_append, Reader.run_start_of_space hs]
  rfl

/-- The first code point of a written one closes a string no more than that one does. -/
theorem escape_head {c : Nat} (hc : ¬ IsCloser c) : ∃ x t, escape c = x :: t ∧ ¬ IsCloser x := by
  have hback : ¬ IsCloser '\\'.toNat := by decide
  unfold escape
  iterate 7
    split
    · exact ⟨_, _, rfl, hback⟩
  split
  · exact ⟨_, _, rfl, hback⟩
  · exact ⟨c, [], rfl, hc⟩

/-- The text of a dict whose first key starts with something that closes nothing. -/
theorem dictText_render {c : Nat} {k : Codes} {v : Json} {ms : Members} (hc : ¬ IsCloser c)
    (h : Canonical (.object ((c :: k, v) :: ms))) :
    DictText (render (.object ((c :: k, v) :: ms))) := by
  refine ⟨?_, ⟨_, run_object _ h⟩, ?_, fun d hd hbreak => ?_⟩
  · obtain ⟨x, t, hescape, hx⟩ := escape_head hc
    have htext : render (.object ((c :: k, v) :: ms)) = '{'.toNat :: '"'.toNat :: x ::
        (t ++ (k.flatMap escape ++ '"'.toNat ::
          (codes ": " ++ (render v ++ (renderMembers ms ++ ['}'.toNat]))))) := by
      simp only [render, renderString, List.flatMap_cons, hescape, List.cons_append,
        List.append_assoc, List.nil_append]
    exact ⟨x, _, htext, hx⟩
  · refine ⟨'{'.toNat :: (renderString (c :: k) ++ (codes ": " ++ (render v ++ renderMembers ms))), ?_⟩
    simp only [render, List.cons_append, List.append_assoc]
  · have hd : isUnescapedBreak d = true := (isLineBreak_render h hd).mp hbreak
    have hcases : (d = 0x85 ∨ d = 0x2028) ∨ d = 0x2029 := by simpa [isUnescapedBreak] using hd
    rcases hcases with (rfl | rfl) | rfl <;> decide

namespace DictText

variable {text : Codes}

/-- Every part of the text from its beginning is accepted. -/
theorem run_part (h : DictText text) {part : Codes} (hpart : part <+: text) :
    ∃ r, Reader.start.run part = some r := by
  obtain ⟨rest, rfl⟩ := hpart
  obtain ⟨items, hreads⟩ := h.reads
  rw [Reader.run_append, Option.bind_eq_some_iff] at hreads
  obtain ⟨r, hr, -⟩ := hreads
  exact ⟨r, hr⟩

/-- Only the whole text is finished. -/
theorem eq_of_result (h : DictText text) {part : Codes} {r : Reader} {v : Json}
    (hpart : part <+: text) (hrun : Reader.start.run part = some r) (hr : r.result = some v) :
    part = text := by
  obtain ⟨rest, rfl⟩ := hpart
  obtain ⟨items, hreads⟩ := h.reads
  rw [Reader.run_append, hrun, Option.bind_some] at hreads
  have hspace := Reader.space_of_result hr hreads rfl
  obtain ⟨t, ht⟩ := h.closing
  rcases List.eq_nil_or_concat rest with rfl | ⟨front, c, rfl⟩
  · exact (List.append_nil part).symm
  · rw [List.concat_eq_append, ← List.append_assoc] at ht
    obtain ⟨-, hc⟩ := List.append_inj' ht rfl
    obtain rfl : c = '}'.toNat := by simpa using hc
    exact absurd (hspace '}'.toNat (by simp)) (by decide)

/-- The reader stands inside a string where a line breaks, and after the break too. -/
theorem plain_of_break (h : DictText text) {part : Codes} {c : Nat} {r : Reader}
    (hpart : part ++ [c] <+: text) (hc : isLineBreak c = true)
    (hrun : Reader.start.run part = some r) :
    r.Plain ∧ ∃ s, Reader.start.run (part ++ [c]) = some s ∧ s.Plain := by
  obtain ⟨s, hs⟩ := h.run_part hpart
  have hforeign : Foreign c := h.breaks c (hpart.subset (by simp)) hc
  have hstep : r.step c = some s := by
    rw [Reader.run_append, hrun, Option.bind_some, Reader.run_cons] at hs
    cases hstep : r.step c with
    | none => rw [hstep] at hs; cases hs
    | some q => rw [hstep] at hs; exact hs
  have hrange : (10 ≤ c ∧ c ≤ 13) ∨ (28 ≤ c ∧ c ≤ 30) ∨ 133 ≤ c := by
    simp only [isLineBreak, Bool.or_eq_true, Bool.and_eq_true, decide_eq_true_eq,
      beq_iff_eq] at hc
    omega
  have hplain : r.Plain := by
    by_contra hnot
    obtain ⟨mode, stack⟩ := r
    cases mode with
    | value | firstItem | key | colon | number | word | done =>
      exact Reader.not_foreign (fun _ _ _ hm => by cases hm) hstep hforeign
    | string place read state =>
      cases state with
      | plain high => exact hnot ⟨place, read, high, rfl⟩
      | escape high =>
        have hnone : unescape c = none := by
          simp only [unescape, Char.reduceToNat]
          grind
        have hu : c ≠ 117 := by omega
        simp [Reader.step, Reader.stepString, hnone, hu] at hstep
      | hex high digits value =>
        have hnone : hexValue c = none := by
          simp only [hexValue, isDigit, Char.reduceToNat]
          grind
        simp [Reader.step, Reader.stepString, hnone] at hstep
  refine ⟨hplain, s, hs, ?_⟩
  rcases Reader.step_plain hplain hstep with ⟨hquote, -⟩ | hback | ⟨-, hs⟩
  · exact absurd hquote hforeign.1
  · rw [hback] at hc
    cases hc
  · exact hs

variable {m : Nat}

/-- A piece of the text that starts inside a string is no entry. -/
theorem not_entry_piece (h : DictText text) (hm : Foreign m) {before piece : Codes} {r : Reader}
    (hpart : before ++ piece <+: text) (hrun : Reader.start.run before = some r) (hr : r.Plain) :
    ¬ Entry m piece := by
  rintro ⟨items, hloads, hkeys⟩
  obtain ⟨s, hs, hresult⟩ := loads_eq_some hloads
  obtain ⟨t, ht⟩ := h.run_part hpart
  rw [Reader.run_append, hrun, Option.bind_some] at ht
  obtain ⟨-, hclean⟩ := Reader.Opposite.run (.inl ⟨hr, Reader.start_outside⟩) ht hs
  have hfree : s.Free m := (Reader.Free.start m).run
    (fun c hc => ⟨fun heq => hclean c hc (heq ▸ hm), fun heq => hclean c hc (heq ▸ foreign_backslash)⟩)
    hs
  rcases Reader.mode_of_result hresult with rfl | ⟨read, state, rfl⟩
  · exact hkeys hfree.1
  · simp [Reader.result] at hresult

/-- A part of the text behind something unfinished is no entry together with it. -/
theorem not_entry_behind (h : DictText text) {before part : Codes} (hpart : part <+: text)
    (hne : part ≠ []) (hbefore : ¬ Blank before) : ¬ Entry m (before ++ part) := by
  rintro ⟨items, hloads, -⟩
  obtain ⟨q, r, hq, hr, hresult⟩ := loads_append hloads
  obtain ⟨t, ht⟩ := h.run_part hpart
  have hstart : q ≠ Reader.start := by
    rintro rfl
    exact hbefore (Reader.run_eq_start hq).2
  exact Reader.result_behind h.opening hpart hne hstart ht hr items hresult

/-- A proper part of the text on its own line is no entry. -/
theorem eq_of_entry (h : DictText text) {before part : Codes} (hpart : part <+: text)
    (hbefore : Blank before) (hentry : Entry m (before ++ part)) : part = text := by
  obtain ⟨items, hloads, -⟩ := hentry
  rw [loads_blank_append hbefore] at hloads
  obtain ⟨r, hrun, hr⟩ := loads_eq_some hloads
  exact h.eq_of_result hpart hrun hr

/-- How far a part of the text has been split into lines, from an open line `before`: no line that
was closed is an entry, and the open line is all of the part behind `before` or starts inside a
string of the text. -/
structure Split (m : Nat) (before part : Codes) (l l' : Lines) : Prop where
  /-- the lines that were closed -/
  closed : ∃ new, l'.closed = l.closed ++ new ∧ ∀ line ∈ new, ¬ Entry m line
  /-- the open line -/
  current : ((∀ c ∈ part, isLineBreak c = false) ∧ l'.closed = l.closed ∧
      l'.current = before ++ part) ∨
    ∃ front r, part = front ++ l'.current ∧ Reader.start.run front = some r ∧ r.Plain

/-- Splitting a part of the text closes no entry. -/
theorem read_part (h : DictText text) (hm : Foreign m) (l : Lines) {part : Codes} :
    part <+: text → Split m l.current part l (l.read part) := by
  induction part using List.reverseRecOn with
  | nil =>
    intro _
    exact ⟨⟨[], by simp [Lines.read], by simp⟩, .inl ⟨by simp, rfl, by simp [Lines.read]⟩⟩
  | append_singleton part c ih =>
    intro hpart
    have hshort : part <+: text := (List.prefix_append part [c]).trans hpart
    obtain ⟨⟨new, hnew, hentries⟩, hcurrent⟩ := ih hshort
    rw [Lines.read_concat]
    by_cases hc : isLineBreak c = true
    · obtain ⟨r, hr⟩ := h.run_part hshort
      obtain ⟨hplain, s, hs, hplain'⟩ := h.plain_of_break hpart hc hr
      have hopen : ¬ Entry m (l.read part).current := by
        rcases hcurrent with ⟨-, -, hcur⟩ | ⟨front, q, hfront, hq, hqplain⟩
        · rw [hcur]
          have hne : part ≠ [] := by
            rintro rfl
            cases hr
            obtain ⟨_, _, _, hmode⟩ := hplain
            cases hmode
          by_cases hbefore : Blank l.current
          · rintro ⟨items, hloads, -⟩
            rw [loads_blank_append hbefore] at hloads
            obtain ⟨q, hq, hresult⟩ := loads_eq_some hloads
            rw [hr] at hq
            cases hq
            rw [hplain.result] at hresult
            cases hresult
          · exact h.not_entry_behind hshort hne hbefore
        · have hpiece : front ++ (l.read part).current <+: text := hfront ▸ hshort
          exact h.not_entry_piece hm hpiece hq hqplain
      have hstep : (l.read part).step c =
          ⟨(l.read part).closed ++ [(l.read part).current], []⟩ := if_pos hc
      rw [hstep]
      refine ⟨⟨new ++ [(l.read part).current], by rw [hnew, List.append_assoc], ?_⟩,
        .inr ⟨part ++ [c], s, by simp, hs, hplain'⟩⟩
      intro line hline
      rcases List.mem_append.mp hline with hline | hline
      · exact hentries line hline
      · rw [List.mem_singleton.mp hline]
        exact hopen
    · have hstep : (l.read part).step c =
          ⟨(l.read part).closed, (l.read part).current ++ [c]⟩ := if_neg hc
      rw [hstep]
      refine ⟨⟨new, hnew, hentries⟩, ?_⟩
      rcases hcurrent with ⟨hclean, hclosed, hcur⟩ | ⟨front, r, hfront, hr, hplain⟩
      · refine .inl ⟨fun d hd => ?_, hclosed, by rw [hcur, List.append_assoc]⟩
        rcases List.mem_append.mp hd with hd | hd
        · exact hclean d hd
        · rw [List.mem_singleton.mp hd]
          simpa using hc
      · exact .inr ⟨front, r, by rw [hfront, List.append_assoc, ← hfront], hr, hplain⟩

/-- The open line behind a part of the text is an entry only if it was one before, or if the whole
text stands on it alone. -/
theorem current_of_entry (h : DictText text) (hm : Foreign m) (l : Lines) {part : Codes}
    (hpart : part <+: text) (hentry : Entry m (l.read part).current) :
    part = [] ∨ (part = text ∧ Blank l.current ∧ (∀ c ∈ text, isLineBreak c = false) ∧
      (l.read part).closed = l.closed ∧ (l.read part).current = l.current ++ text) := by
  rcases (h.read_part hm l hpart).current with ⟨hclean, hclosed, hcur⟩ | ⟨front, r, hfront, hr, hplain⟩
  · by_cases hne : part = []
    · exact .inl hne
    · rw [hcur] at hentry
      have hblank : Blank l.current := by
        by_contra hnot
        exact h.not_entry_behind hpart hne hnot hentry
      obtain rfl := h.eq_of_entry hpart hblank hentry
      exact .inr ⟨rfl, hblank, hclean, hclosed, hcur⟩
  · exact absurd hentry (h.not_entry_piece hm (hfront ▸ hpart) hr hplain)

/-- A line with the whole text and its newline: it closes the text as a line of its own where that
is possible, and closes no entry otherwise. -/
theorem read_line (h : DictText text) (hm : Foreign m) (l : Lines) :
    (l.read (text ++ ['\n'.toNat])).current = [] ∧
    (((∀ c ∈ text, isLineBreak c = false) ∧ Blank l.current ∧
        (l.read (text ++ ['\n'.toNat])).closed = l.closed ++ [l.current ++ text]) ∨
      (¬ ((∀ c ∈ text, isLineBreak c = false) ∧ Blank l.current) ∧
        ∃ new, (l.read (text ++ ['\n'.toNat])).closed = l.closed ++ new ∧
          ∀ line ∈ new, ¬ Entry m line)) := by
  have hstep : l.read (text ++ ['\n'.toNat]) =
      ⟨(l.read text).closed ++ [(l.read text).current], []⟩ := by
    rw [Lines.read_concat]
    rfl
  rw [hstep]
  refine ⟨rfl, ?_⟩
  have hsplit := h.read_part hm l (List.prefix_refl text)
  obtain ⟨new, hnew, hentries⟩ := hsplit.closed
  have hne : text ≠ [] := by
    obtain ⟨x, t, rfl, -⟩ := h.opening
    exact List.cons_ne_nil _ _
  by_cases hgood : (∀ c ∈ text, isLineBreak c = false) ∧ Blank l.current
  · exact .inl ⟨hgood.1, hgood.2, by rw [Lines.read_of_clean l hgood.1]⟩
  · refine .inr ⟨hgood, new ++ [(l.read text).current], by rw [hnew, List.append_assoc], ?_⟩
    intro line hline
    rcases List.mem_append.mp hline with hline | hline
    · exact hentries line hline
    · rw [List.mem_singleton.mp hline]
      intro hentry
      rcases h.current_of_entry hm l (List.prefix_refl text) hentry with hnil | ⟨-, hb, hc, -⟩
      · exact hne hnil
      · exact hgood ⟨hc, hb⟩

end DictText

end PortfolioManagement
