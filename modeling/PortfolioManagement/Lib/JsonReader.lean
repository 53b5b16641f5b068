import PortfolioManagement.Lib.JsonRoundTrip

/-!
# What the reader can make of a text

Facts about the reader of JSON texts that no round trip gives: what it does with a text that is cut
off, that starts in the middle or that stands behind something unfinished.

Outside a string the reader accepts no underscore, no backslash and no code point above the ASCII
range (`Foreign`). A reader that starts inside a string of a text reads it with the inside and the
outside of strings exchanged (`Opposite`), so it never gets past a foreign code point, whichever
side that stands on. What stands inside a container leaves the container open (`run_within`), and a
dict that is written inside a string closes the string and is refused (`result_behind`).
-/

namespace PortfolioManagement

/-! ## Inside and outside strings -/

namespace Reader

/-- The reader is not inside a string. -/
def Outside (r : Reader) : Prop := ∀ place read state, r.mode ≠ .string place read state

/-- The reader is inside a string and not inside an escape. -/
def Plain (r : Reader) : Prop := ∃ place read high, r.mode = .string place read (.plain high)

theorem start_outside : start.Outside := fun _ _ _ h => by cases h

end Reader

/-- The code points the reader accepts outside strings are among these, apart from the quotes. -/
def IsToken (c : Nat) : Prop := c < 128 ∧ c ≠ '"'.toNat ∧ c ≠ '\\'.toNat ∧ c ≠ '_'.toNat

instance (c : Nat) : Decidable (IsToken c) := inferInstanceAs (Decidable (_ ∧ _))

theorem isToken_of_isJsonSpace {c : Nat} (h : isJsonSpace c = true) : IsToken c := by
  have hc : ((c = 32 ∨ c = 9) ∨ c = 10) ∨ c = 13 := by simpa [isJsonSpace] using h
  rcases hc with ((rfl | rfl) | rfl) | rfl <;> decide

theorem isToken_of_isDigit {c : Nat} (h : isDigit c = true) : IsToken c := by
  have hc : 48 ≤ c ∧ c ≤ 57 := by simpa [isDigit] using h
  exact ⟨by omega, by simp; omega, by simp; omega, by simp; omega⟩

/-- The code points of a number literal. -/
theorem numeral_cases {s t : NumeralState} {c : Nat} (h : s.step c = some t) :
    isDigit c = true ∨ c = '-'.toNat ∨ c = '+'.toNat ∨ c = '.'.toNat ∨ c = 'e'.toNat ∨
      c = 'E'.toNat := by
  by_cases hdigit : isDigit c = true
  · exact .inl hdigit
  · have hzero : c ≠ '0'.toNat := by
      rintro rfl
      exact hdigit rfl
    cases s <;> simp [NumeralState.step, hdigit] at h <;> grind

theorem isToken_of_numeral {s t : NumeralState} {c : Nat} (h : s.step c = some t) : IsToken c := by
  rcases numeral_cases h with hc | rfl | rfl | rfl | rfl | rfl
  · exact isToken_of_isDigit hc
  all_goals decide

theorem numeral_printable {s t : NumeralState} {c : Nat} (h : s.step c = some t) :
    32 ≤ c ∧ c < 128 := by
  rcases numeral_cases h with hc | rfl | rfl | rfl | rfl | rfl
  · have hc : 48 ≤ c ∧ c ≤ 57 := by simpa [isDigit] using hc
    omega
  all_goals decide

theorem isToken_of_word {w : Word} {n c : Nat} (h : w.text[n]? = some c) : IsToken c := by
  have hall : ∀ c ∈ w.text, IsToken c := by cases w <;> decide
  exact hall c (List.mem_of_getElem? h)

namespace Reader

/-- What a step outside strings can do: open a string, or read a token and stay outside. -/
def OutsideStep (c : Nat) (r : Reader) : Prop :=
  (c = '"'.toNat ∧ r.Plain) ∨ (IsToken c ∧ r.Outside)

theorem startValue_cases {stack : List Frame} {c : Nat} {r : Reader}
    (h : startValue stack c = some r) : OutsideStep c r := by
  obtain ⟨mode, hmode, rfl⟩ := Option.map_eq_some_iff.mp h
  unfold startMode at hmode
  split at hmode
  next hc => cases hmode; exact .inl ⟨hc, _, _, _, rfl⟩
  all_goals right
  iterate 7
    split at hmode
    next hc => subst hc; cases hmode; exact ⟨by decide, fun _ _ _ hm => by cases hm⟩
  obtain ⟨s, hs, rfl⟩ := Option.map_eq_some_iff.mp hmode
  exact ⟨isToken_of_numeral hs, fun _ _ _ hm => by cases hm⟩

theorem afterValue_cases {v : Json} {stack : List Frame} {c : Nat} {r : Reader}
    (h : afterValue v stack c = some r) : IsToken c ∧ r.Outside := by
  unfold afterValue at h
  split at h
  next hspace => cases h; exact ⟨isToken_of_isJsonSpace hspace, fun _ _ _ hm => by cases hm⟩
  split at h
  · cases h
  all_goals
    split at h
    next hc => subst hc; cases h; exact ⟨by decide, fun _ _ _ hm => by cases hm⟩
    split at h
    next hc => subst hc; cases h; exact ⟨by decide, fun _ _ _ hm => by cases hm⟩
    cases h

theorem step_outside {r s : Reader} {c : Nat} (hr : r.Outside) (h : r.step c = some s) :
    OutsideStep c s := by
  obtain ⟨mode, stack⟩ := r
  cases mode with
  | string place read state => exact absurd rfl (hr place read state)
  | value =>
    simp only [step] at h
    split at h
    next hspace => cases h; exact .inr ⟨isToken_of_isJsonSpace hspace, hr⟩
    exact startValue_cases h
  | firstItem =>
    simp only [step] at h
    split at h
    next hspace => cases h; exact .inr ⟨isToken_of_isJsonSpace hspace, hr⟩
    split at h
    next hc => subst hc; cases h; exact .inr ⟨by decide, fun _ _ _ hm => by cases hm⟩
    exact startValue_cases h
  | key first members =>
    simp only [step] at h
    split at h
    next hspace => cases h; exact .inr ⟨isToken_of_isJsonSpace hspace, hr⟩
    split at h
    next hc => cases h; exact .inl ⟨hc, _, _, _, rfl⟩
    split at h
    next hc =>
      obtain ⟨-, rfl⟩ := hc
      cases h
      exact .inr ⟨by decide, fun _ _ _ hm => by cases hm⟩
    cases h
  | colon members key =>
    simp only [step] at h
    split at h
    next hspace => cases h; exact .inr ⟨isToken_of_isJsonSpace hspace, hr⟩
    split at h
    next hc => subst hc; cases h; exact .inr ⟨by decide, fun _ _ _ hm => by cases hm⟩
    cases h
  | number read state =>
    simp only [step] at h
    split at h
    next t ht => cases h; exact .inr ⟨isToken_of_numeral ht, fun _ _ _ hm => by cases hm⟩
    split at h
    · exact .inr (afterValue_cases h)
    split at h
    next hc =>
      obtain ⟨-, rfl⟩ := hc
      cases h
      exact .inr ⟨by decide, fun _ _ _ hm => by cases hm⟩
    cases h
  | word w read =>
    simp only [step] at h
    split at h
    next hc =>
      refine .inr ⟨isToken_of_word hc, ?_⟩
      cases h
      split <;> exact fun _ _ _ hm => by cases hm
    cases h
  | done v => exact .inr (afterValue_cases h)

/-- What a step inside a string can do: close it, start an escape or read a code point. -/
theorem step_plain {r s : Reader} {c : Nat} (hr : r.Plain) (h : r.step c = some s) :
    (c = '"'.toNat ∧ s.Outside) ∨ c = '\\'.toNat ∨ (c ≠ '"'.toNat ∧ s.Plain) := by
  obtain ⟨place, read, high, hmode⟩ := hr
  simp only [step, hmode, stepString] at h
  split at h
  next hc =>
    refine .inl ⟨hc, ?_⟩
    cases h
    cases place <;> exact fun _ _ _ hm => by cases hm
  split at h
  next hc => exact .inr (.inl hc)
  split at h
  · cases h
  next hquote _ _ => cases h; exact .inr (.inr ⟨hquote, _, _, _, rfl⟩)

end Reader

/-- A code point that no reader accepts outside strings. -/
def Foreign (c : Nat) : Prop := c ≠ '"'.toNat ∧ ¬ IsToken c

instance (c : Nat) : Decidable (Foreign c) := inferInstanceAs (Decidable (_ ∧ _))

theorem foreign_backslash : Foreign '\\'.toNat := by decide

theorem foreign_underscore : Foreign '_'.toNat := by decide

namespace Reader

/-- Outside strings a foreign code point is refused. -/
theorem not_foreign {r s : Reader} {c : Nat} (hr : r.Outside) (h : r.step c = some s) :
    ¬ Foreign c := by
  rintro ⟨hquote, htoken⟩
  rcases step_outside hr h with ⟨hc, -⟩ | ⟨hc, -⟩
  · exact hquote hc
  · exact htoken hc

/-! ## Reading with inside and outside exchanged -/

/-- One reader is inside a string where the other is outside. -/
def Opposite (r s : Reader) : Prop := (r.Plain ∧ s.Outside) ∨ (r.Outside ∧ s.Plain)

theorem Opposite.symm {r s : Reader} (h : Opposite r s) : Opposite s r :=
  h.elim (fun h => .inr ⟨h.2, h.1⟩) fun h => .inl ⟨h.2, h.1⟩

theorem Opposite.step_of_plain {r s r' s' : Reader} {c : Nat} (hr : r.Plain) (hs : s.Outside)
    (hr' : r.step c = some r') (hs' : s.step c = some s') : Opposite r' s' := by
  rcases step_outside hs hs' with ⟨rfl, hplain⟩ | ⟨htoken, houtside⟩
  · rcases step_plain hr hr' with ⟨-, hout⟩ | hback | ⟨hquote, -⟩
    · exact .inr ⟨hout, hplain⟩
    · cases hback
    · exact absurd rfl hquote
  · rcases step_plain hr hr' with ⟨hquote, -⟩ | hback | ⟨-, hplain⟩
    · exact absurd hquote htoken.2.1
    · exact absurd hback htoken.2.2.1
    · exact .inl ⟨hplain, houtside⟩

/-- While both readers accept, they stay opposite and no foreign code point comes. -/
theorem Opposite.step {r s r' s' : Reader} {c : Nat} (h : Opposite r s)
    (hr' : r.step c = some r') (hs' : s.step c = some s') : Opposite r' s' ∧ ¬ Foreign c := by
  rcases h with ⟨hr, hs⟩ | ⟨hr, hs⟩
  · exact ⟨Opposite.step_of_plain hr hs hr' hs', not_foreign hs hs'⟩
  · exact ⟨(Opposite.step_of_plain hs hr hs' hr').symm, not_foreign hr hr'⟩

theorem Opposite.run {text : Codes} : ∀ {r s r' s' : Reader}, Opposite r s →
    r.run text = some r' → s.run text = some s' →
    Opposite r' s' ∧ ∀ c ∈ text, ¬ Foreign c := by
  induction text with
  | nil =>
    intro r s r' s' h hr hs
    cases hr
    cases hs
    exact ⟨h, by simp⟩
  | cons c text ih =>
    intro r s r' s' h hr hs
    rw [run_cons, Option.bind_eq_some_iff] at hr hs
    obtain ⟨r₁, hr₁, hr⟩ := hr
    obtain ⟨s₁, hs₁, hs⟩ := hs
    obtain ⟨hopp, hc⟩ := h.step hr₁ hs₁
    obtain ⟨hopp', htext⟩ := ih hopp hr hs
    exact ⟨hopp', List.forall_mem_cons.mpr ⟨hc, htext⟩⟩

end Reader

/-! ## Keys come from the text -/

/-- No key of the dict contains `m`. -/
def KeysFree (m : Nat) (items : Members) : Prop := ∀ k ∈ items.map Prod.fst, m ∉ k

theorem KeysFree.setItem {m : Nat} {key : Codes} {items : Members} (v : Json)
    (h : KeysFree m items) (hkey : m ∉ key) : KeysFree m (setItem key v items) := by
  intro k hk
  rcases mem_keys_setItem.mp hk with rfl | hk
  · exact hkey
  · exact h k hk

/-- No key read so far contains `m`, and the reader is in no escape. -/
def Mode.Free (m : Nat) : Mode → Prop
  | .value | .firstItem | .number .. | .word .. => True
  | .key _ items => KeysFree m items
  | .string .value _ (.plain _) => True
  | .string (.key items) read (.plain _) => KeysFree m items ∧ m ∉ read
  | .string .. => False
  | .colon items k => KeysFree m items ∧ m ∉ k
  | .done (.object items) => KeysFree m items
  | .done _ => True

/-- No key of the container contains `m`. -/
def Frame.Free (m : Nat) : Frame → Prop
  | .array _ => True
  | .object items key => KeysFree m items ∧ m ∉ key

namespace Reader

/-- No key of what is being read contains `m`. -/
def Free (m : Nat) (r : Reader) : Prop := r.mode.Free m ∧ ∀ f ∈ r.stack, f.Free m

theorem Free.start (m : Nat) : Free m start := ⟨trivial, by simp [Reader.start]⟩

theorem Free.startValue {m c : Nat} {stack : List Frame} {s : Reader}
    (hstack : ∀ f ∈ stack, f.Free m) (h : startValue stack c = some s) : Free m s := by
  obtain ⟨mode, hmode, rfl⟩ := Option.map_eq_some_iff.mp h
  refine ⟨?_, hstack⟩
  unfold startMode at hmode
  iterate 8
    split at hmode
    next =>
      cases hmode
      first
      | exact trivial
      | exact fun k hk => by simp at hk
  obtain ⟨t, -, rfl⟩ := Option.map_eq_some_iff.mp hmode
  exact trivial

theorem Free.afterValue {m c : Nat} {v : Json} {stack : List Frame} {s : Reader}
    (hv : (Mode.done v).Free m) (hstack : ∀ f ∈ stack, f.Free m)
    (h : afterValue v stack c = some s) : Free m s := by
  unfold Reader.afterValue at h
  split at h
  next => cases h; exact ⟨hv, hstack⟩
  split at h
  next => cases h
  next items stack =>
    have hrest : ∀ f ∈ stack, f.Free m := fun f hf => hstack f (List.mem_cons_of_mem _ hf)
    split at h
    next =>
      cases h
      refine ⟨trivial, fun f hf => ?_⟩
      rcases List.mem_cons.mp hf with rfl | hf
      · exact trivial
      · exact hrest f hf
    split at h
    next => cases h; exact ⟨trivial, hrest⟩
    cases h
  next items key stack =>
    have hrest : ∀ f ∈ stack, f.Free m := fun f hf => hstack f (List.mem_cons_of_mem _ hf)
    obtain ⟨hitems, hkey⟩ : KeysFree m items ∧ m ∉ key := hstack _ List.mem_cons_self
    split at h
    next => cases h; exact ⟨hitems.setItem v hkey, hrest⟩
    split at h
    next => cases h; exact ⟨hitems.setItem v hkey, hrest⟩
    cases h

theorem Free.step {m c : Nat} {r s : Reader} (h : Free m r) (hm : c ≠ m) (hback : c ≠ '\\'.toNat)
    (hstep : r.step c = some s) : Free m s := by
  obtain ⟨mode, stack⟩ := r
  obtain ⟨hmode, hstack⟩ := h
  cases mode with
  | value =>
    simp only [Reader.step] at hstep
    split at hstep
    next => cases hstep; exact ⟨hmode, hstack⟩
    exact .startValue hstack hstep
  | firstItem =>
    simp only [Reader.step] at hstep
    split at hstep
    next => cases hstep; exact ⟨hmode, hstack⟩
    split at hstep
    next => cases hstep; exact ⟨trivial, hstack⟩
    refine .startValue (fun f hf => ?_) hstep
    rcases List.mem_cons.mp hf with rfl | hf
    · exact trivial
    · exact hstack f hf
  | key first items =>
    simp only [Reader.step] at hstep
    split at hstep
    next => cases hstep; exact ⟨hmode, hstack⟩
    split at hstep
    next => cases hstep; exact ⟨⟨hmode, by simp⟩, hstack⟩
    split at hstep
    next => cases hstep; exact ⟨hmode, hstack⟩
    cases hstep
  | colon items key =>
    simp only [Reader.step] at hstep
    split at hstep
    next => cases hstep; exact ⟨hmode, hstack⟩
    split at hstep
    next =>
      cases hstep
      refine ⟨trivial, fun f hf => ?_⟩
      rcases List.mem_cons.mp hf with rfl | hf
      · exact hmode
      · exact hstack f hf
    cases hstep
  | number read state =>
    simp only [Reader.step] at hstep
    split at hstep
    next => cases hstep; exact ⟨trivial, hstack⟩
    split at hstep
    · exact .afterValue (v := .number read) trivial hstack hstep
    split at hstep
    next => cases hstep; exact ⟨trivial, hstack⟩
    cases hstep
  | word w read =>
    simp only [Reader.step] at hstep
    split at hstep
    next => cases hstep; split <;> exact ⟨trivial, hstack⟩
    cases hstep
  | done v => exact .afterValue hmode hstack hstep
  | string place read state =>
    cases state with
    | escape high => cases place <;> exact hmode.elim
    | hex high digits value => cases place <;> exact hmode.elim
    | plain high =>
      simp only [Reader.step, stepString, if_neg hback] at hstep
      split at hstep
      next => cases hstep; cases place <;> exact ⟨hmode, hstack⟩
      split at hstep
      next => cases hstep
      next =>
        cases hstep
        cases place with
        | value => exact ⟨trivial, hstack⟩
        | key items =>
          refine ⟨⟨hmode.1, fun hmem => ?_⟩, hstack⟩
          rcases List.mem_append.mp hmem with hread | hlast
          · exact hmode.2 hread
          · exact hm (List.mem_singleton.mp hlast).symm

theorem Free.run {m : Nat} {text : Codes} : ∀ {r s : Reader}, Free m r →
    (∀ c ∈ text, c ≠ m ∧ c ≠ '\\'.toNat) → r.run text = some s → Free m s := by
  induction text with
  | nil =>
    intro r s h _ hrun
    cases hrun
    exact h
  | cons c text ih =>
    intro r s h htext hrun
    rw [run_cons, Option.bind_eq_some_iff] at hrun
    obtain ⟨r₁, hstep, hrun⟩ := hrun
    have hc := htext c List.mem_cons_self
    exact ih (h.step hc.1 hc.2 hstep) (fun d hd => htext d (List.mem_cons_of_mem _ hd)) hrun

/-! ## Containers below -/

/-- The same state with more containers around it. -/
def within (stack : List Frame) (r : Reader) : Reader := ⟨r.mode, r.stack ++ stack⟩

theorem startValue_within {c : Nat} {inner : List Frame} {s : Reader} (stack : List Frame)
    (h : startValue inner c = some s) : startValue (inner ++ stack) c = some (s.within stack) := by
  obtain ⟨mode, hmode, rfl⟩ := Option.map_eq_some_iff.mp h
  rw [startValue, hmode]
  rfl

theorem afterValue_within {c : Nat} {v : Json} {inner : List Frame} {s : Reader}
    (stack : List Frame) (h : afterValue v inner c = some s) :
    afterValue v (inner ++ stack) c = some (s.within stack) := by
  cases inner with
  | nil =>
    unfold afterValue at h ⊢
    split at h
    next hspace => cases h; rw [if_pos hspace]; rfl
    next => cases h
  | cons f inner =>
    unfold afterValue at h ⊢
    cases f <;> simp only [List.cons_append] at h ⊢ <;> grind [within]

theorem stepString_within {place : Place} {read : Codes} {state : StringState} {inner : List Frame}
    {c : Nat} {s : Reader} (stack : List Frame)
    (h : stepString place read state inner c = some s) :
    stepString place read state (inner ++ stack) c = some (s.within stack) := by
  cases state with
  | plain high =>
    simp only [stepString] at h ⊢
    cases place <;> grind [within, closeString]
  | escape high =>
    simp only [stepString] at h ⊢
    cases hu : unescape c <;> grind [within]
  | hex high digits value =>
    simp only [stepString] at h ⊢
    obtain ⟨d, hd, rfl⟩ := Option.map_eq_some_iff.mp h
    rw [hd, Option.map_some]
    split
    · unfold pushUnit
      split <;> rfl
    · rfl

/-- More containers around what is read change nothing while the inner ones last. -/
theorem step_within {r s : Reader} {c : Nat} (stack : List Frame) (h : r.step c = some s) :
    (r.within stack).step c = some (s.within stack) := by
  obtain ⟨mode, inner⟩ := r
  cases mode with
  | value =>
    simp only [step, within] at h ⊢
    split at h
    next hspace => cases h; rw [if_pos hspace]
    next hspace => rw [if_neg hspace]; exact startValue_within stack h
  | firstItem =>
    simp only [step, within] at h ⊢
    split at h
    next hspace => cases h; rw [if_pos hspace]
    next hspace =>
      rw [if_neg hspace]
      split at h
      next hc => cases h; rw [if_pos hc]
      next hc => rw [if_neg hc]; exact startValue_within stack h
  | key first members => simp only [step, within] at h ⊢; grind
  | string place read state => exact stepString_within stack h
  | colon members key => simp only [step, within] at h ⊢; grind
  | number read state =>
    simp only [step, within] at h ⊢
    cases ht : state.step c with
    | some t => rw [ht] at h; cases h; rfl
    | none =>
      rw [ht] at h
      simp only at h ⊢
      split at h
      next hcomplete => rw [if_pos hcomplete]; exact afterValue_within stack h
      next hcomplete =>
        rw [if_neg hcomplete]
        split at h
        next hc => cases h; rw [if_pos hc]
        next => cases h
  | word w read =>
    simp only [step, within] at h ⊢
    split at h
    next hc => cases h; rw [if_pos hc]; split <;> rfl
    next => cases h
  | done v => exact afterValue_within stack h

theorem run_within {text : Codes} (stack : List Frame) : ∀ {r s : Reader}, r.run text = some s →
    (r.within stack).run text = some (s.within stack) := by
  induction text with
  | nil =>
    intro r s h
    cases h
    rfl
  | cons c text ih =>
    intro r s h
    rw [run_cons, Option.bind_eq_some_iff] at h
    obtain ⟨r₁, hstep, h⟩ := h
    rw [run_cons_of_step (step_within stack hstep), ih h]

/-- Inside a container nothing is finished. -/
theorem result_within {r : Reader} {stack : List Frame} (h : stack ≠ []) :
    (r.within stack).result = none := by
  obtain ⟨f, stack, rfl⟩ := List.exists_cons_of_ne_nil h
  obtain ⟨mode, inner⟩ := r
  cases mode <;> cases inner <;> rfl

/-! ## Finished readers -/

/-- What is inside a string is not finished. -/
theorem Plain.result {r : Reader} (h : r.Plain) : r.result = none := by
  obtain ⟨place, read, high, hmode⟩ := h
  simp [Reader.result, hmode]

theorem afterValue_nil {v : Json} {c : Nat} {s : Reader} (h : afterValue v [] c = some s) :
    isJsonSpace c = true ∧ s = ⟨.done v, []⟩ := by
  unfold afterValue at h
  split at h
  next hspace => cases h; exact ⟨hspace, rfl⟩
  · cases h

/-- A finished reader is at its value or at the end of a number. -/
theorem mode_of_result {r : Reader} {v : Json} (h : r.result = some v) :
    r = ⟨.done v, []⟩ ∨ ∃ read state, r = ⟨.number read state, []⟩ := by
  obtain ⟨mode, stack⟩ := r
  unfold Reader.result at h
  split at h
  next hmode hstack => cases h; exact .inl (by rw [← hmode, ← hstack])
  next read state hmode hstack => exact .inr ⟨read, state, by rw [← hmode, ← hstack]⟩
  · cases h

/-- A number or a word, with nothing around it. -/
def Scalar (r : Reader) : Prop :=
  r.stack = [] ∧ match r.mode with
    | .number .. | .word .. | .done (.number _) | .done (.word _) => True
    | _ => False

theorem Scalar.step {r s : Reader} {c : Nat} (hr : r.Scalar) (h : r.step c = some s) :
    s.Scalar := by
  obtain ⟨mode, stack⟩ := r
  obtain ⟨rfl, hmode⟩ : stack = [] ∧ _ := hr
  cases mode with
  | value | firstItem | key | string | colon => exact hmode.elim
  | number read state =>
    simp only [Reader.step] at h
    split at h
    next => cases h; exact ⟨rfl, trivial⟩
    split at h
    next => rw [(afterValue_nil h).2]; exact ⟨rfl, trivial⟩
    split at h
    next => cases h; exact ⟨rfl, trivial⟩
    cases h
  | word w read =>
    simp only [Reader.step] at h
    split at h
    next => cases h; split <;> exact ⟨rfl, trivial⟩
    cases h
  | done v =>
    obtain rfl := (afterValue_nil h).2
    exact ⟨rfl, hmode⟩

/-- A number or a word never becomes a dict. -/
theorem Scalar.result {r : Reader} (h : r.Scalar) (items : Members) :
    r.result ≠ some (.object items) := by
  obtain ⟨mode, stack⟩ := r
  obtain ⟨rfl, hmode⟩ : stack = [] ∧ _ := h
  intro hresult
  rcases mode_of_result hresult with h | ⟨read, state, h⟩
  · cases h
    exact hmode
  · cases h
    simp [Reader.result] at hresult

theorem Scalar.run {text : Codes} : ∀ {r s : Reader}, r.Scalar → r.run text = some s →
    s.Scalar := by
  induction text with
  | nil =>
    intro r s hr h
    cases h
    exact hr
  | cons c text ih =>
    intro r s hr h
    rw [run_cons, Option.bind_eq_some_iff] at h
    obtain ⟨r₁, hstep, h⟩ := h
    exact ih (hr.step hstep) h

/-- After a finished dict comes only space. -/
theorem space_of_result {text : Codes} : ∀ {r s : Reader} {v : Json} {items : Members},
    r.result = some v → r.run text = some s → s.result = some (.object items) →
    ∀ c ∈ text, isJsonSpace c = true := by
  induction text with
  | nil => simp
  | cons c text ih =>
    intro r s v items hr hrun hs
    rcases mode_of_result hr with rfl | ⟨read, state, rfl⟩
    · rw [run_cons, Option.bind_eq_some_iff] at hrun
      obtain ⟨r₁, hstep, hrun⟩ := hrun
      obtain ⟨hspace, rfl⟩ := afterValue_nil hstep
      exact List.forall_mem_cons.mpr ⟨hspace, ih rfl hrun hs⟩
    · have hscalar : Scalar ⟨.number read state, []⟩ := ⟨rfl, trivial⟩
      exact absurd hs ((hscalar.run hrun).result items)

end Reader

/-! ## The start of a text -/

/-- What may follow a string outside strings. -/
def IsCloser (c : Nat) : Prop :=
  isJsonSpace c = true ∨ c = ':'.toNat ∨ c = ','.toNat ∨ c = ']'.toNat ∨ c = '}'.toNat

instance (c : Nat) : Decidable (IsCloser c) := inferInstanceAs (Decidable (_ ∨ _))

/-- The text of a dict opens it, opens its first key and goes on with something that closes
nothing. -/
def Opening (text : Codes) : Prop :=
  ∃ x t, text = '{'.toNat :: '"'.toNat :: x :: t ∧ ¬ IsCloser x

namespace Reader

theorem startMode_ne_value (c : Nat) : startMode c ≠ some .value := by
  intro h
  unfold startMode at h
  iterate 8
    split at h
    · cases h
  obtain ⟨t, -, ht⟩ := Option.map_eq_some_iff.mp h
  cases ht

theorem startValue_ne_start (stack : List Frame) (c : Nat) : startValue stack c ≠ some start := by
  intro h
  obtain ⟨mode, hmode, hr⟩ := Option.map_eq_some_iff.mp h
  cases hr
  exact startMode_ne_value c hmode

theorem afterValue_ne_start (v : Json) (stack : List Frame) (c : Nat) :
    afterValue v stack c ≠ some start := by
  intro h
  unfold afterValue at h
  grind [start]

/-- Only space leads back to the start. -/
theorem step_eq_start {r : Reader} {c : Nat} (h : r.step c = some start) :
    r = start ∧ isJsonSpace c = true := by
  obtain ⟨mode, stack⟩ := r
  cases mode with
  | value =>
    simp only [step] at h
    split at h
    next hspace => exact ⟨Option.some.inj h, hspace⟩
    next => exact absurd h (startValue_ne_start stack c)
  | firstItem =>
    simp only [step] at h
    split at h
    · cases h
    split at h
    · cases h
    exact absurd h (startValue_ne_start _ c)
  | key first members => simp only [step] at h; grind [start]
  | colon members key => simp only [step] at h; grind [start]
  | string place read state =>
    cases state with
    | plain high => simp only [step, stepString, closeString] at h; cases place <;> grind [start]
    | escape high => simp only [step, stepString] at h; grind [start]
    | hex high digits value =>
      obtain ⟨d, -, hd⟩ := Option.map_eq_some_iff.mp h
      unfold pushUnit at hd
      grind [start]
  | number read state =>
    simp only [step] at h
    split at h
    · cases h
    split at h
    · exact absurd h (afterValue_ne_start _ _ _)
    split at h <;> cases h
  | word w read => simp only [step] at h; grind [start]
  | done v => exact absurd h (afterValue_ne_start v stack c)

theorem run_eq_start {text : Codes} : ∀ {r : Reader}, r.run text = some start →
    r = start ∧ ∀ c ∈ text, isJsonSpace c = true := by
  induction text with
  | nil =>
    intro r h
    cases h
    exact ⟨rfl, by simp⟩
  | cons c text ih =>
    intro r h
    rw [run_cons, Option.bind_eq_some_iff] at h
    obtain ⟨r₁, hstep, h⟩ := h
    obtain ⟨rfl, htext⟩ := ih h
    obtain ⟨rfl, hc⟩ := step_eq_start hstep
    exact ⟨rfl, List.forall_mem_cons.mpr ⟨hc, htext⟩⟩

/-- Space before a value is skipped. -/
theorem run_start_of_space {text : Codes} (h : ∀ c ∈ text, isJsonSpace c = true) :
    start.run text = some start := by
  induction text with
  | nil => rfl
  | cons c text ih =>
    have hc : start.step c = some start := if_pos (h c List.mem_cons_self)
    rw [run_cons_of_step hc, ih fun d hd => h d (List.mem_cons_of_mem _ hd)]

theorem step_closeString {place : Place} {read : Codes} {stack : List Frame} {c : Nat}
    (hc : ¬ IsCloser c) : (closeString place read stack).step c = none := by
  simp only [IsCloser, not_or] at hc
  obtain ⟨hspace, hcolon, hcomma, hbracket, hbrace⟩ := hc
  cases place with
  | key members => simp only [closeString, step, if_neg hspace, if_neg hcolon]
  | value =>
    simp only [closeString, step, afterValue, if_neg hspace]
    cases stack with
    | nil => rfl
    | cons f stack =>
      cases f with
      | array items => simp only [if_neg hcomma, if_neg hbracket]
      | object items key => simp only [if_neg hcomma, if_neg hbrace]

theorem afterValue_brace (v : Json) (stack : List Frame) : afterValue v stack '{'.toNat = none := by
  cases stack with
  | nil => rfl
  | cons f stack => cases f <;> rfl

/-- An opening brace is read where a value may start or inside a string. -/
theorem mode_of_brace {r s : Reader} (h : r.step '{'.toNat = some s) :
    r.mode = .value ∨ r.mode = .firstItem ∨ r.Plain := by
  obtain ⟨mode, stack⟩ := r
  cases mode with
  | value => exact .inl rfl
  | firstItem => exact .inr (.inl rfl)
  | key first members => cases first <;> cases h
  | colon members key => cases h
  | string place read state =>
    cases state with
    | plain high => exact .inr (.inr ⟨place, read, high, rfl⟩)
    | escape high => cases h
    | hex high digits value => cases h
  | number read state =>
    have hnumeral : state.step '{'.toNat = none := by cases state <;> rfl
    simp only [step, hnumeral, afterValue_brace] at h
    cases state <;> cases h
  | word w read =>
    have hword : ∀ c ∈ w.text, c ≠ '{'.toNat := by cases w <;> decide
    simp only [step] at h
    split at h
    next hc => exact absurd rfl (hword _ (List.mem_of_getElem? hc))
    next => cases h
  | done v =>
    have hnone := afterValue_brace v stack
    cases hnone.symm.trans h

/-- A text that is read from the start is read inside a container and finishes nothing there. -/
theorem result_inside {part : Codes} {s t : Reader} {stack : List Frame} (hstack : stack ≠ [])
    (hown : start.run part = some t) (hs : run ⟨.value, stack⟩ part = some s) : s.result = none := by
  have hwithin : run ⟨.value, stack⟩ part = some (t.within stack) := run_within stack hown
  rw [Option.some.inj (hs.symm.trans hwithin)]
  exact result_within hstack

/-- Inside a string the opening of a dict closes the string, and what follows is refused. -/
theorem result_exchanged {r s : Reader} {text part : Codes} (hr : r.Plain) (hopen : Opening text)
    (hpart : part <+: text) (hne : part ≠ []) (hs : r.run part = some s) (items : Members) :
    s.result ≠ some (.object items) := by
  obtain ⟨x, rest, rfl, hx⟩ := hopen
  obtain ⟨place, read, high, hmode⟩ := hr
  obtain ⟨mode, stack⟩ := r
  cases hmode
  match part, hne with
  | [c], _ =>
    obtain ⟨rfl, -⟩ := List.cons_prefix_cons.mp hpart
    cases hs
    simp [Reader.result]
  | [c, d], _ =>
    obtain ⟨rfl, htail⟩ := List.cons_prefix_cons.mp hpart
    obtain ⟨rfl, -⟩ := List.cons_prefix_cons.mp htail
    cases hs
    cases place <;> cases stack <;> simp [Reader.result, closeString]
  | c :: d :: e :: part, _ =>
    obtain ⟨rfl, htail⟩ := List.cons_prefix_cons.mp hpart
    obtain ⟨rfl, hrest⟩ := List.cons_prefix_cons.mp htail
    obtain ⟨rfl, -⟩ := List.cons_prefix_cons.mp hrest
    have hrun : run ⟨.string place read (.plain high), stack⟩
        ('{'.toNat :: '"'.toNat :: e :: part) =
        run (closeString place (read ++ ['{'.toNat]) stack) (e :: part) := rfl
    rw [hrun, run_cons, step_closeString hx] at hs
    cases hs

/-- What is written behind something unfinished, up to any point, is no dict together with it. -/
theorem result_behind {r s t : Reader} {text part : Codes} (hopen : Opening text)
    (hpart : part <+: text) (hne : part ≠ []) (hr : r ≠ start) (hown : start.run part = some t)
    (hs : r.run part = some s) (items : Members) : s.result ≠ some (.object items) := by
  obtain ⟨c, part', rfl⟩ := List.exists_cons_of_ne_nil hne
  have hbrace : c = '{'.toNat := by
    obtain ⟨x, rest, rfl, -⟩ := hopen
    exact (List.cons_prefix_cons.mp hpart).1
  have hsteps := hs
  rw [run_cons, Option.bind_eq_some_iff] at hsteps
  obtain ⟨r₁, hstep, -⟩ := hsteps
  rw [hbrace] at hstep
  obtain ⟨mode, stack⟩ := r
  rcases mode_of_brace hstep with hmode | hmode | hplain
  · cases hmode
    have hstack : stack ≠ [] := by rintro rfl; exact hr rfl
    rw [result_inside hstack hown hs]
    exact (nomatch ·)
  · cases hmode
    have hsame : run ⟨.firstItem, stack⟩ (c :: part') =
        run ⟨.value, .array [] :: stack⟩ (c :: part') := by rw [hbrace]; rfl
    rw [hsame] at hs
    rw [result_inside (by simp) hown hs]
    exact (nomatch ·)
  · exact result_exchanged hplain hopen hpart hne hs items

end Reader

end PortfolioManagement
