import PortfolioManagement.Lib.Json

/-!
# What is written is read back

`loads_render`: a canonical value is read back from its text. The reader is run over the text of a
value from the state in which a value has to start, with any containers around it, and stands after
the value at its end (`run_render`). A number ends only at the delimiter behind it.
-/

namespace PortfolioManagement

namespace Reader

@[simp] theorem run_nil (r : Reader) : r.run [] = some r := rfl

theorem run_cons (r : Reader) (c : Nat) (text : Codes) :
    r.run (c :: text) = (r.step c).bind fun s => s.run text := rfl

/-- A text in two parts is read one part after the other. -/
theorem run_append (r : Reader) (s t : Codes) :
    r.run (s ++ t) = (r.run s).bind fun q => q.run t := by
  unfold run
  rw [List.foldlM_append]
  rfl

/-- Reading a text whose first code point is read in one known step. -/
theorem run_cons_of_step {r s : Reader} {c : Nat} (h : r.step c = some s) (text : Codes) :
    r.run (c :: text) = s.run text := by
  rw [run_cons, h, Option.bind_some]

end Reader

/-! ## Strings -/

/-- An escaped code point is read back inside a string. -/
theorem run_escape (place : Place) (read : Codes) (stack : List Frame) (c : Nat) (rest : Codes) :
    Reader.run ⟨.string place read (.plain false), stack⟩ (escape c ++ rest) =
      Reader.run ⟨.string place (read ++ [c]) (.plain false), stack⟩ rest := by
  unfold escape
  split
  next h => subst h; rfl
  split
  next h => subst h; rfl
  split
  next h => subst h; rfl
  split
  next h => subst h; rfl
  split
  next h => subst h; rfl
  split
  next h => subst h; rfl
  split
  next h => subst h; rfl
  split
  next h => interval_cases c <;> rfl
  next hquote hback _ _ _ _ _ hcontrol =>
    refine Reader.run_cons_of_step ?_ rest
    simp only [Reader.step, Reader.stepString, if_neg hquote, if_neg hback, if_neg hcontrol]

theorem run_escapes (place : Place) (stack : List Frame) (s rest : Codes) :
    ∀ read : Codes, Reader.run ⟨.string place read (.plain false), stack⟩
        (s.flatMap escape ++ rest) =
      Reader.run ⟨.string place (read ++ s) (.plain false), stack⟩ rest := by
  induction s with
  | nil => simp
  | cons c s ih =>
    intro read
    rw [List.flatMap_cons, List.append_assoc, run_escape, ih, List.append_assoc]
    rfl

/-- After the opening quote a written string is read back and closed. -/
theorem run_renderString (place : Place) (stack : List Frame) (s rest : Codes) :
    Reader.run ⟨.string place [] (.plain false), stack⟩ (s.flatMap escape ++ '"'.toNat :: rest) =
      Reader.run (Reader.closeString place s stack) rest := by
  rw [run_escapes]
  exact Reader.run_cons_of_step rfl rest

/-- A string is read back as a value. -/
theorem run_string (stack : List Frame) (s rest : Codes) :
    Reader.run ⟨.value, stack⟩ (renderString s ++ rest) =
      Reader.run ⟨.done (.string s), stack⟩ rest := by
  rw [renderString, List.cons_append, List.append_assoc, List.singleton_append,
    Reader.run_cons_of_step (s := ⟨.string .value [] (.plain false), stack⟩) rfl,
    run_renderString]
  rfl

/-- A string is read back as a key, with the colon behind it. -/
theorem run_key (first : Bool) (members : Members) (stack : List Frame) (k rest : Codes) :
    Reader.run ⟨.key first members, stack⟩ (renderString k ++ (codes ": " ++ rest)) =
      Reader.run ⟨.value, .object members k :: stack⟩ rest := by
  rw [renderString, List.cons_append, List.append_assoc, List.singleton_append,
    Reader.run_cons_of_step (s := ⟨.string (.key members) [] (.plain false), stack⟩) rfl,
    run_renderString]
  rfl

/-! ## Words and numbers -/

/-- A word is read back. -/
theorem run_word (w : Word) (stack : List Frame) (rest : Codes) :
    Reader.run ⟨.value, stack⟩ (w.text ++ rest) = Reader.run ⟨.done (.word w), stack⟩ rest := by
  cases w <;> rfl

/-- A code point that starts a number starts no other value. -/
theorem step_numeral {c : Nat} {s : NumeralState} (stack : List Frame)
    (h : NumeralState.start.step c = some s) :
    Reader.step ⟨.value, stack⟩ c = some ⟨.number [c] s, stack⟩ := by
  have hc : c = '-'.toNat ∨ isDigit c = true := by
    simp only [NumeralState.step] at h
    split at h
    · exact .inl ‹_›
    · split at h
      · subst c; exact .inr rfl
      · split at h
        · exact .inr ‹_›
        · cases h
  have hrange : c = 45 ∨ (48 ≤ c ∧ c ≤ 57) := by simpa [isDigit] using hc
  have hspace : isJsonSpace c = false := by
    simp [isJsonSpace]
    omega
  have hother : c ≠ 34 ∧ c ≠ 123 ∧ c ≠ 91 ∧ c ≠ 110 ∧ c ≠ 116 ∧ c ≠ 102 ∧ c ≠ 78 ∧ c ≠ 73 := by
    omega
  simp [Reader.step, hspace, Reader.startValue, Reader.startMode, h, hother]

theorem run_digits (stack : List Frame) (text : Codes) :
    ∀ {read : Codes} {s t : NumeralState}, text.foldlM NumeralState.step s = some t →
      Reader.run ⟨.number read s, stack⟩ text = some ⟨.number (read ++ text) t, stack⟩ := by
  induction text with
  | nil =>
    intro read s t h
    cases h
    simp
  | cons c text ih =>
    intro read s t h
    rw [List.foldlM_cons, Option.bind_eq_bind, Option.bind_eq_some_iff] at h
    obtain ⟨s', hs', ht⟩ := h
    rw [Reader.run_cons_of_step (s := ⟨.number (read ++ [c]) s', stack⟩) (by simp [Reader.step, hs']),
      ih ht, List.append_assoc]
    rfl

/-- A number is read to its end, where it may stop. -/
theorem run_numeral (stack : List Frame) {text : Codes} (h : IsNumeral text) :
    ∃ s, Reader.run ⟨.value, stack⟩ text = some ⟨.number text s, stack⟩ ∧ s.complete = true := by
  obtain ⟨t, ht, hcomplete⟩ := h
  cases text with
  | nil => cases ht; cases hcomplete
  | cons c text =>
    rw [List.foldlM_cons, Option.bind_eq_bind, Option.bind_eq_some_iff] at ht
    obtain ⟨s, hs, ht⟩ := ht
    exact ⟨t, by rw [Reader.run_cons_of_step (step_numeral stack hs), run_digits stack text ht]; rfl,
      hcomplete⟩

/-- The code points behind a value inside a container. -/
def IsDelimiter (c : Nat) : Prop := c = ','.toNat ∨ c = ']'.toNat ∨ c = '}'.toNat

/-- A delimiter ends a number. -/
theorem step_number_delimiter {c : Nat} (hc : IsDelimiter c) {s : NumeralState}
    (hs : s.complete = true) (read : Codes) (stack : List Frame) :
    Reader.step ⟨.number read s, stack⟩ c = Reader.step ⟨.done (.number read), stack⟩ c := by
  have hnone : s.step c = none := by
    rcases hc with rfl | rfl | rfl <;> cases s <;> rfl
  simp only [Reader.step, hnone, hs, if_true]

/-! ## Values -/

/-- The text begins with a delimiter. -/
def Delimited (text : Codes) : Prop := ∃ c t, text = c :: t ∧ IsDelimiter c

/-- What stands behind a value: a number needs a delimiter, other values end by themselves. -/
def Ends : Json → Codes → Prop
  | .number _, rest => Delimited rest
  | _, _ => True

theorem Ends.of_delimited (j : Json) {rest : Codes} (h : Delimited rest) : Ends j rest := by
  cases j with
  | number => exact h
  | word | string | array | object => exact trivial

theorem delimited_items (xs : List Json) (rest : Codes) :
    Delimited (renderItems xs ++ ']'.toNat :: rest) := by
  cases xs with
  | nil => exact ⟨_, _, rfl, .inr (.inl rfl)⟩
  | cons => exact ⟨_, _, rfl, .inl rfl⟩

theorem delimited_members (ms : Members) (rest : Codes) :
    Delimited (renderMembers ms ++ '}'.toNat :: rest) := by
  cases ms with
  | nil => exact ⟨_, _, rfl, .inr (.inr rfl)⟩
  | cons => exact ⟨_, _, rfl, .inl rfl⟩

/-- In a dict the keys before an item are below its key. -/
theorem lt_of_pairwise {before ms : Members} {k : Codes} {v : Json}
    (h : ((before ++ (k, v) :: ms).map Prod.fst).Pairwise (· < ·)) :
    ∀ k' ∈ before.map Prod.fst, k' < k := by
  rw [List.map_append, List.pairwise_append] at h
  exact fun k' hk' => h.2.2 k' hk' k (by simp)

/-- The first code point of a value is no space and ends no list. -/
theorem render_head (j : Json) (hj : Canonical j) :
    ∃ c t, render j = c :: t ∧ isJsonSpace c = false ∧ c ≠ ']'.toNat := by
  cases j with
  | word w => cases w <;> exact ⟨_, _, rfl, rfl, by decide⟩
  | string s => exact ⟨_, _, rfl, rfl, by decide⟩
  | array items => cases items <;> exact ⟨_, _, rfl, rfl, by decide⟩
  | object members =>
    cases members with
    | nil => exact ⟨_, _, rfl, rfl, by decide⟩
    | cons m ms => exact ⟨_, _, rfl, rfl, by decide⟩
  | number text =>
    obtain ⟨t, ht, hcomplete⟩ := hj
    cases text with
    | nil => cases ht; cases hcomplete
    | cons c text =>
      rw [List.foldlM_cons, Option.bind_eq_bind, Option.bind_eq_some_iff] at ht
      obtain ⟨s, hs, -⟩ := ht
      have hstep := step_numeral [] hs
      refine ⟨c, text, rfl, ?_, ?_⟩
      · by_contra hspace
        have hspace : isJsonSpace c = true := by simpa using hspace
        simp [Reader.step, hspace] at hstep
      · rintro rfl
        cases hs

/-- The first item of a list is read as a value inside the list. -/
theorem run_firstItem (j : Json) (hj : Canonical j) (stack : List Frame) (rest : Codes) :
    Reader.run ⟨.firstItem, stack⟩ (render j ++ rest) =
      Reader.run ⟨.value, .array [] :: stack⟩ (render j ++ rest) := by
  obtain ⟨c, t, hrender, hspace, hend⟩ := render_head j hj
  rw [hrender, List.cons_append, Reader.run_cons, Reader.run_cons]
  simp only [Reader.step, hspace, hend, if_false, Bool.false_eq_true]

mutual

/-- A value is read back, whatever stands around it. -/
theorem run_render : ∀ (j : Json), Canonical j → ∀ (stack : List Frame) {rest : Codes},
    Ends j rest → Reader.run ⟨.value, stack⟩ (render j ++ rest) =
      Reader.run ⟨.done j, stack⟩ rest
  | .word w, _, stack, rest, _ => run_word w stack rest
  | .string s, _, stack, rest, _ => run_string stack s rest
  | .number text, hj, stack, rest, hends => by
    obtain ⟨c, t, rfl, hc⟩ := hends
    obtain ⟨s, hrun, hcomplete⟩ := run_numeral stack hj
    rw [render, Reader.run_append, hrun, Option.bind_some, Reader.run_cons,
      step_number_delimiter hc hcomplete, ← Reader.run_cons]
  | .array [], _, _, _, _ => rfl
  | .array (x :: xs), hj, stack, rest, _ => by
    have hx : Canonical x := hj.1
    have hxs : CanonicalItems xs := hj.2
    rw [render, List.cons_append, Reader.run_cons_of_step (s := ⟨.firstItem, stack⟩) rfl,
      List.append_assoc, List.append_assoc, run_firstItem x hx]
    rw [List.singleton_append, run_render x hx _ (.of_delimited x (delimited_items xs rest))]
    exact run_items xs hxs [] x stack rest
  | .object [], _, _, _, _ => rfl
  | .object ((k, v) :: ms), hj, stack, rest, _ => by
    obtain ⟨hsorted, hv, hms⟩ : _ ∧ Canonical v ∧ CanonicalMembers ms := hj
    rw [render, List.cons_append, Reader.run_cons_of_step (s := ⟨.key true [], stack⟩) rfl]
    simp only [List.append_assoc, List.singleton_append]
    rw [run_key, run_render v hv _ (.of_delimited v (delimited_members ms rest))]
    exact run_members ms hms [] k v hsorted stack rest

/-- The items of a list after the first one are read back up to the end of the list. -/
theorem run_items : ∀ (xs : List Json), CanonicalItems xs → ∀ (before : List Json) (x : Json)
    (stack : List Frame) (rest : Codes),
    Reader.run ⟨.done x, .array before :: stack⟩ (renderItems xs ++ ']'.toNat :: rest) =
      Reader.run ⟨.done (.array (before ++ x :: xs)), stack⟩ rest
  | [], _, _, _, _, _ => rfl
  | y :: ys, hxs, before, x, stack, rest => by
    have hy : Canonical y := hxs.1
    have hys : CanonicalItems ys := hxs.2
    rw [renderItems, List.append_assoc, List.append_assoc]
    have hcomma : Reader.run ⟨.done x, .array before :: stack⟩
        (codes ", " ++ (render y ++ (renderItems ys ++ ']'.toNat :: rest))) =
        Reader.run ⟨.value, .array (before ++ [x]) :: stack⟩
          (render y ++ (renderItems ys ++ ']'.toNat :: rest)) := rfl
    rw [hcomma, run_render y hy _ (.of_delimited y (delimited_items ys rest)),
      run_items ys hys (before ++ [x]) y stack rest, List.append_assoc]
    rfl

/-- The items of a dict after the first one are read back up to the end of the dict. -/
theorem run_members : ∀ (ms : List (Codes × Json)), CanonicalMembers ms →
    ∀ (before : Members) (k : Codes) (v : Json),
    ((before ++ (k, v) :: ms).map Prod.fst).Pairwise (· < ·) → ∀ (stack : List Frame) (rest : Codes),
    Reader.run ⟨.done v, .object before k :: stack⟩ (renderMembers ms ++ '}'.toNat :: rest) =
      Reader.run ⟨.done (.object (before ++ (k, v) :: ms)), stack⟩ rest
  | [], _, before, k, v, hsorted, stack, rest => by
    have hclose : Reader.run ⟨.done v, .object before k :: stack⟩
        (renderMembers [] ++ '}'.toNat :: rest) =
        Reader.run ⟨.done (.object (setItem k v before)), stack⟩ rest := rfl
    rw [hclose, setItem_of_lt v (lt_of_pairwise hsorted)]
  | (k', v') :: ms, hms, before, k, v, hsorted, stack, rest => by
    have hv' : Canonical v' := hms.1
    have hms' : CanonicalMembers ms := hms.2
    simp only [renderMembers, List.append_assoc]
    have hcomma : Reader.run ⟨.done v, .object before k :: stack⟩
        (codes ", " ++ (renderString k' ++ (codes ": " ++ (render v' ++
          (renderMembers ms ++ '}'.toNat :: rest))))) =
        Reader.run ⟨.key false (setItem k v before), stack⟩
          (renderString k' ++ (codes ": " ++ (render v' ++
            (renderMembers ms ++ '}'.toNat :: rest)))) := rfl
    rw [hcomma, run_key, run_render v' hv' _ (.of_delimited v' (delimited_members ms rest)),
      setItem_of_lt v (lt_of_pairwise hsorted)]
    have hsorted' : (((before ++ [(k, v)]) ++ (k', v') :: ms).map Prod.fst).Pairwise (· < ·) := by
      rwa [List.append_assoc]
    rw [run_members ms hms' (before ++ [(k, v)]) k' v' hsorted' stack rest, List.append_assoc]
    rfl

end

/-- A value other than a number is read back from its text alone. -/
theorem run_object (ms : Members) (h : Canonical (.object ms)) :
    Reader.start.run (render (.object ms)) = some ⟨.done (.object ms), []⟩ := by
  have hrun := run_render (.object ms) h [] (show Ends _ [] from trivial)
  rwa [List.append_nil] at hrun

/-- What `json.dumps` wrote, `json.loads` reads. -/
theorem loads_render (j : Json) (h : Canonical j) : loads (render j) = some j := by
  cases j with
  | number text =>
    obtain ⟨s, hrun, hcomplete⟩ := run_numeral [] h
    rw [loads, Reader.start, render, hrun, Option.bind_some]
    simp [Reader.result, hcomplete]
  | word | string | array | object =>
    have hrun := run_render _ h [] (show Ends _ [] from trivial)
    rw [List.append_nil] at hrun
    rw [loads, Reader.start, hrun]
    rfl

end PortfolioManagement
