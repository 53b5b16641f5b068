import Mathlib.Data.List.Basic

/-!
# Reading a joined text

Names are joined with a delimiter that they may contain themselves. A name is not empty and has no
blank at its ends, so a joined text can be cut at a delimiter only where a name may end and another
one may begin: at a seam. The text has one reading as that many names exactly when no field has a
seam of its own, where a field between two others may be the delimiter alone.
-/

namespace PortfolioManagement.Joined

section
variable {α : Type} (d : α) (blank : α → Prop)

/-- A text that a name may begin with. -/
def StartsOk (xs : List α) : Prop := ∀ c ∈ xs.head?, ¬ blank c

/-- A text that a name may end with. -/
def EndsOk (xs : List α) : Prop := ∀ c ∈ xs.getLast?, ¬ blank c

/-- A text without blanks at its ends, and not empty. -/
structure IsName (xs : List α) : Prop where
  ne_nil : xs ≠ []
  starts : StartsOk blank xs
  ends : EndsOk blank xs

/-- The names with a delimiter between any two. -/
def join : List (List α) → List α
  | [] => []
  | [x] => x
  | x :: y :: rest => x ++ d :: join (y :: rest)

/-- A field at the front has no seam. -/
def NoSeamFirst (f : List α) : Prop :=
  ∀ p q, f = p ++ d :: q → p ≠ [] → EndsOk blank p → ¬ StartsOk blank q

/-- A field between two others has no seam, unless it is the delimiter. -/
def NoSeamMiddle (f : List α) : Prop :=
  ∀ p q, f = p ++ d :: q → EndsOk blank p → StartsOk blank q → p = [] ∧ q = []

/-- A field at the end has no seam. -/
def NoSeamLast (f : List α) : Prop :=
  ∀ p q, f = p ++ d :: q → EndsOk blank p → q ≠ [] → ¬ StartsOk blank q

/-- The fields after the first one have no seam. -/
def NoSeamInner : List (List α) → Prop
  | [] => True
  | [f] => NoSeamLast d blank f
  | f :: g :: rest => NoSeamMiddle d blank f ∧ NoSeamInner (g :: rest)

/-- No field has a seam. -/
def Seamless : List (List α) → Prop
  | [] => True
  | [_] => True
  | f :: g :: rest => NoSeamFirst d blank f ∧ NoSeamInner d blank (g :: rest)

end

section
variable {α : Type} {d : α} {blank : α → Prop}

theorem startsOk_append {xs ys : List α} (h : xs ≠ []) :
    StartsOk blank (xs ++ ys) ↔ StartsOk blank xs := by
  cases xs with
  | nil => exact absurd rfl h
  | cons c xs => exact Iff.rfl

theorem endsOk_append {xs ys : List α} (h : ys ≠ []) :
    EndsOk blank (xs ++ ys) ↔ EndsOk blank ys := by
  unfold EndsOk
  rw [List.getLast?_append_of_ne_nil _ h]

theorem endsOk_cons {c : α} {ys : List α} (h : ys ≠ []) :
    EndsOk blank (c :: ys) ↔ EndsOk blank ys :=
  @endsOk_append α blank [c] ys h

theorem startsOk_nil : StartsOk blank ([] : List α) := fun _ h => absurd h (by simp)

theorem endsOk_nil : EndsOk blank ([] : List α) := fun _ h => absurd h (by simp)

/-- A front of a text with a good start has a good start. -/
theorem startsOk_front {xs ys : List α} (h : StartsOk blank (xs ++ ys)) : StartsOk blank xs := by
  by_cases hxs : xs = []
  · exact hxs ▸ startsOk_nil
  · exact (startsOk_append hxs).mp h

/-- A back of a text with a good end has a good end. -/
theorem endsOk_back {xs ys : List α} (h : EndsOk blank (xs ++ ys)) : EndsOk blank ys := by
  by_cases hys : ys = []
  · exact hys ▸ endsOk_nil
  · exact (endsOk_append hys).mp h

theorem endsOk_tail {c : α} {ys : List α} (h : EndsOk blank (c :: ys)) : EndsOk blank ys :=
  @endsOk_back α blank [c] ys h

theorem join_cons {x : List α} {rest : List (List α)} (h : rest ≠ []) :
    join d (x :: rest) = x ++ d :: join d rest := by
  cases rest with
  | nil => exact absurd rfl h
  | cons y rest => rfl

/-- A joined text begins like its first name. -/
theorem join_starts {names : List (List α)} (hne : names ≠ [])
    (h : ∀ x ∈ names, IsName blank x) : join d names ≠ [] ∧ StartsOk blank (join d names) := by
  cases names with
  | nil => exact absurd rfl hne
  | cons x rest =>
    have hx := h x List.mem_cons_self
    cases rest with
    | nil => exact ⟨hx.ne_nil, hx.starts⟩
    | cons y rest =>
      rw [join_cons (List.cons_ne_nil y rest)]
      exact ⟨List.append_ne_nil_of_left_ne_nil hx.ne_nil _, (startsOk_append hx.ne_nil).mpr hx.starts⟩

/-- Two ways to cut one text at a delimiter: at the same place, or one before the other. -/
theorem cut_cases {f g x y : List α} (h : f ++ d :: x = g ++ d :: y) :
    (f = g ∧ x = y) ∨ (∃ q, f = g ++ d :: q ∧ y = q ++ d :: x) ∨
      ∃ r, g = f ++ d :: r ∧ x = r ++ d :: y := by
  rcases List.append_eq_append_iff.mp h with ⟨t, hg, hx⟩ | ⟨t, hf, hy⟩
  · cases t with
    | nil =>
      rw [List.append_nil] at hg
      exact .inl ⟨hg.symm, (List.cons.inj hx).2⟩
    | cons c r =>
      obtain ⟨rfl, hx'⟩ := List.cons.inj hx
      exact .inr (.inr ⟨r, hg, hx'⟩)
  · cases t with
    | nil =>
      rw [List.append_nil] at hf
      exact .inl ⟨hf, (List.cons.inj hy).2.symm⟩
    | cons c q =>
      obtain ⟨rfl, hy'⟩ := List.cons.inj hy
      exact .inr (.inl ⟨q, hf, hy'⟩)

/-- Fronts without the delimiter are cut at the same place. -/
theorem cut_front {f g x y : List α} (hf : d ∉ f) (hg : d ∉ g) (h : f ++ d :: x = g ++ d :: y) :
    f = g ∧ x = y := by
  rcases cut_cases h with heq | ⟨q, rfl, -⟩ | ⟨r, rfl, -⟩
  · exact heq
  · exact absurd (by simp) hf
  · exact absurd (by simp) hg

/-- Backs without the delimiter are cut at the same place. -/
theorem cut_back {f g x y : List α} (hx : d ∉ x) (hy : d ∉ y) (h : f ++ d :: x = g ++ d :: y) :
    f = g ∧ x = y := by
  rcases cut_cases h with heq | ⟨q, -, rfl⟩ | ⟨r, -, rfl⟩
  · exact heq
  · exact absurd (by simp) hy
  · exact absurd (by simp) hx

theorem NoSeamMiddle.first {f : List α} (h : NoSeamMiddle d blank f) : NoSeamFirst d blank f :=
  fun p q hf hp hends hstarts => hp (h p q hf hends hstarts).1

theorem NoSeamInner.seamless {fields : List (List α)} (h : NoSeamInner d blank fields) :
    Seamless d blank fields := by
  match fields, h with
  | [], _ => trivial
  | [_], _ => trivial
  | f :: g :: rest, ⟨hf, hrest⟩ => exact ⟨hf.first, hrest⟩

/-- Fields without the delimiter have no seam. -/
theorem seamless_of_not_mem {fields : List (List α)} (h : ∀ f ∈ fields, d ∉ f) :
    Seamless d blank fields := by
  have hcut : ∀ f ∈ fields, ∀ p q, f ≠ p ++ d :: q := by
    rintro f hf p q rfl
    exact h _ hf (by simp)
  refine NoSeamInner.seamless ?_
  induction fields with
  | nil => trivial
  | cons f rest ih =>
    have hrest := ih (fun x hx => h x (List.mem_cons_of_mem _ hx))
      fun x hx => hcut x (List.mem_cons_of_mem _ hx)
    have hf := hcut f List.mem_cons_self
    cases rest with
    | nil => exact fun p q hpq => absurd hpq (hf p q)
    | cons g rest => exact ⟨fun p q hpq => absurd hpq (hf p q), hrest⟩

/-! ## One reading -/

/-- Fields without a seam, after another one, cannot be read as more names than they are, nor as as
many after the end of a name that began before them. -/
theorem no_more_names {fields : List (List α)} (hne : fields ≠ [])
    (hseam : NoSeamInner d blank fields) :
    (∀ r names, EndsOk blank r → (∀ x ∈ names, IsName blank x) → fields.length ≤ names.length →
      join d fields ≠ r ++ d :: join d names) ∧
    ∀ names, (∀ x ∈ names, IsName blank x) → fields.length < names.length →
      join d fields ≠ join d names := by
  induction fields with
  | nil => exact absurd rfl hne
  | cons f rest ih =>
    by_cases hrest : rest = []
    · subst hrest
      have hlast : NoSeamLast d blank f := hseam
      constructor
      · intro r names hr hnames hlen h
        have hjoin := join_starts (d := d) (List.ne_nil_of_length_pos hlen) hnames
        exact hlast r _ h hr hjoin.1 hjoin.2
      · intro names hnames hlen h
        cases names with
        | nil => exact absurd hlen (Nat.not_lt_zero _)
        | cons g more =>
          have hmore : more ≠ [] := List.ne_nil_of_length_pos (Nat.lt_of_succ_lt_succ hlen)
          rw [join_cons hmore] at h
          have hjoin := join_starts (d := d) hmore fun x hx => hnames x (List.mem_cons_of_mem _ hx)
          exact hlast g _ h (hnames g List.mem_cons_self).ends hjoin.1 hjoin.2
    · obtain ⟨f', rest', rfl⟩ := List.exists_cons_of_ne_nil hrest
      obtain ⟨hmiddle, hinner⟩ : NoSeamMiddle d blank f ∧ NoSeamInner d blank (f' :: rest') := hseam
      obtain ⟨ihCont, ihMore⟩ := ih hrest hinner
      constructor
      · intro r names hr hnames hlen h
        rw [join_cons hrest] at h
        rcases cut_cases h with ⟨-, heq⟩ | ⟨q, hf, hjoin⟩ | ⟨r', rfl, hjoin⟩
        · exact ihMore names hnames hlen heq
        · -- the name that began before ends inside the field, which is then the delimiter alone
          have hstart := (join_starts (d := d)
            (List.ne_nil_of_length_pos (Nat.lt_of_lt_of_le (Nat.succ_pos _) hlen)) hnames).2
          obtain ⟨-, rfl⟩ := hmiddle r q hf hr (startsOk_front (hjoin ▸ hstart))
          cases names with
          | nil => exact absurd hlen (Nat.not_succ_le_zero _)
          | cons g more =>
            have hg := hnames g List.mem_cons_self
            have hmore : more ≠ [] := by
              rintro rfl
              exact absurd hlen (by simp)
            rw [join_cons hmore, List.nil_append] at hjoin
            rcases @cut_cases _ _ g [] _ _ hjoin with ⟨hnil, -⟩ | ⟨r', hg', hjoin'⟩ | ⟨_, hnil, -⟩
            · exact hg.ne_nil hnil
            · rw [List.nil_append] at hg'
              exact ihCont r' more (endsOk_tail (hg' ▸ hg.ends))
                (fun x hx => hnames x (List.mem_cons_of_mem _ hx)) (Nat.le_of_succ_le_succ hlen) hjoin'
            · exact absurd hnil (by simp)
        · exact ihCont r' names (endsOk_tail (endsOk_back hr)) hnames
            (Nat.le_trans (Nat.le_succ _) hlen) hjoin
      · intro names hnames hlen h
        cases names with
        | nil => exact absurd hlen (Nat.not_lt_zero _)
        | cons g more =>
          have hg := hnames g List.mem_cons_self
          have hmoreNames : ∀ x ∈ more, IsName blank x :=
            fun x hx => hnames x (List.mem_cons_of_mem _ hx)
          have hmore : more ≠ [] :=
            List.ne_nil_of_length_pos (Nat.lt_trans (Nat.succ_pos _) (Nat.lt_of_succ_lt_succ hlen))
          rw [join_cons hrest, join_cons hmore] at h
          rcases cut_cases h with ⟨-, heq⟩ | ⟨q, hf, hjoin⟩ | ⟨r, hg', hjoin⟩
          · exact ihMore more hmoreNames (Nat.lt_of_succ_lt_succ hlen) heq
          · have hstart := (join_starts (d := d) hmore hmoreNames).2
            exact hg.ne_nil (hmiddle g q hf hg.ends (startsOk_front (hjoin ▸ hstart))).1
          · exact ihCont r more (endsOk_tail (endsOk_back (hg' ▸ hg.ends))) hmoreNames
              (Nat.le_of_succ_le_succ (Nat.le_of_lt hlen)) hjoin

/-- Fields without a seam are the only reading of their joined text. -/
theorem reading_unique {fields names : List (List α)} (hseam : Seamless d blank fields)
    (hnames : ∀ x ∈ names, IsName blank x) (hlen : names.length = fields.length)
    (h : join d names = join d fields) : names = fields := by
  induction fields generalizing names with
  | nil => exact List.length_eq_zero_iff.mp hlen
  | cons f rest ih =>
    cases names with
    | nil => exact absurd hlen (by simp)
    | cons g more =>
      rw [List.length_cons, List.length_cons, Nat.succ.injEq] at hlen
      by_cases hrest : rest = []
      · subst hrest
        obtain rfl := List.length_eq_zero_iff.mp hlen
        exact congrArg (fun x => [x]) h
      · have hmore : more ≠ [] := fun hnil => hrest (List.length_eq_zero_iff.mp (by simp [← hlen, hnil]))
        obtain ⟨f', rest', rfl⟩ := List.exists_cons_of_ne_nil hrest
        obtain ⟨hfirst, hinner⟩ : NoSeamFirst d blank f ∧ NoSeamInner d blank (f' :: rest') := hseam
        have hmoreNames : ∀ x ∈ more, IsName blank x :=
          fun x hx => hnames x (List.mem_cons_of_mem _ hx)
        have hg := hnames g List.mem_cons_self
        rw [join_cons hrest, join_cons hmore] at h
        rcases cut_cases h with ⟨rfl, heq⟩ | ⟨r, hg', hjoin⟩ | ⟨q, hf, hjoin⟩
        · rw [ih hinner.seamless hmoreNames hlen heq]
        · exact absurd hjoin ((no_more_names hrest hinner).1 r more
            (endsOk_tail (endsOk_back (hg' ▸ hg.ends))) hmoreNames (Nat.le_of_eq hlen.symm))
        · have hstart := (join_starts (d := d) hmore hmoreNames).2
          exact absurd (startsOk_front (hjoin ▸ hstart)) (hfirst g q hf hg.ne_nil hg.ends)

/-! ## Another reading -/

/-- Another reading of a joined text. -/
def OtherReading (d : α) (blank : α → Prop) (fields : List (List α)) : Prop :=
  ∃ names, names.length = fields.length ∧ (∀ x ∈ names, IsName blank x) ∧
    join d names = join d fields ∧ names ≠ fields

section
variable (hd : ¬ blank d)
include hd

theorem startsOk_delimiter (xs : List α) : StartsOk blank (d :: xs) := by
  intro c hc
  cases hc
  exact hd

theorem endsOk_delimiter {xs : List α} (h : EndsOk blank xs) : EndsOk blank (d :: xs) := by
  by_cases hxs : xs = []
  · subst hxs
    intro c hc
    cases hc
    exact hd
  · exact (endsOk_cons hxs).mpr h

/-- A name that goes on after a delimiter. -/
theorem isName_append {x p : List α} (hx : IsName blank x) (hp : EndsOk blank p) :
    IsName blank (x ++ d :: p) where
  ne_nil := by simp
  starts := (startsOk_append hx.ne_nil).mpr hx.starts
  ends := (endsOk_append (List.cons_ne_nil d p)).mpr (endsOk_delimiter hd hp)

/-- A name that begins before a delimiter. -/
theorem isName_prepend {q x : List α} (hq : StartsOk blank q) (hx : IsName blank x) :
    IsName blank (q ++ d :: x) where
  ne_nil := by simp
  starts := by
    by_cases hnil : q = []
    · subst hnil
      exact startsOk_delimiter hd x
    · exact (startsOk_append hnil).mpr hq
  ends := (endsOk_append (List.cons_ne_nil d x)).mpr ((endsOk_cons hx.ne_nil).mpr hx.ends)

/-- A seam after the first field gives another reading. -/
theorem otherReading_inner {fields : List (List α)} {e : List α} (he : IsName blank e)
    (hfields : ∀ x ∈ fields, IsName blank x) (h : ¬ NoSeamInner d blank fields) :
    OtherReading d blank (e :: fields) := by
  induction fields generalizing e with
  | nil => exact absurd trivial h
  | cons f rest ih =>
    have hf := hfields f List.mem_cons_self
    have hrestNames : ∀ x ∈ rest, IsName blank x := fun x hx => hfields x (List.mem_cons_of_mem _ hx)
    have hlengthen : ∀ p : List α, e ++ d :: p ≠ e := fun p heq => by simp at heq
    cases rest with
    | nil =>
      simp only [NoSeamInner, NoSeamLast, not_forall, not_not, exists_prop] at h
      obtain ⟨p, q, rfl, hp, hq, hstarts⟩ := h
      refine ⟨[e ++ d :: p, q], rfl, ?_, by simp [join], fun heq => hlengthen p (List.cons.inj heq).1⟩
      intro x hx
      rcases List.mem_pair.mp hx with rfl | rfl
      · exact isName_append hd he hp
      · exact ⟨hq, hstarts, endsOk_tail (endsOk_back hf.ends)⟩
    | cons g rest =>
      by_cases hmiddle : NoSeamMiddle d blank f
      · have hinner : ¬ NoSeamInner d blank (g :: rest) := fun hin => h ⟨hmiddle, hin⟩
        obtain ⟨names, hlen, hnames, hjoin, hne⟩ := ih hf hrestNames hinner
        have hnil : names ≠ [] := by
          rintro rfl
          exact absurd hlen (by simp)
        refine ⟨e :: names, by simp [hlen], List.forall_mem_cons.mpr ⟨he, hnames⟩, ?_,
          fun heq => hne (List.cons.inj heq).2⟩
        rw [join_cons hnil, join_cons (List.cons_ne_nil f _), hjoin]
      · simp only [NoSeamMiddle, not_forall, exists_prop] at hmiddle
        obtain ⟨p, q, rfl, hp, hstarts, hne⟩ := hmiddle
        by_cases hq : q = []
        · -- the field ends with the delimiter, which goes to the next field
          subst hq
          have hpne : p ≠ [] := fun hnil => hne ⟨hnil, rfl⟩
          have hg := hrestNames g List.mem_cons_self
          refine ⟨e :: p :: ([] ++ d :: g) :: rest, rfl, ?_, ?_, fun heq => ?_⟩
          · intro x hx
            rcases List.mem_cons.mp hx with rfl | hx
            · exact he
            rcases List.mem_cons.mp hx with rfl | hx
            · exact ⟨hpne, (startsOk_append hpne).mp hf.starts, hp⟩
            rcases List.mem_cons.mp hx with rfl | hx
            · exact isName_prepend hd startsOk_nil hg
            · exact hrestNames x (List.mem_cons_of_mem _ hx)
          · cases rest <;> simp [join]
          · have := (List.cons.inj (List.cons.inj heq).2).1
            simp at this
        · refine ⟨(e ++ d :: p) :: q :: g :: rest, rfl, ?_, ?_,
            fun heq => hlengthen p (List.cons.inj heq).1⟩
          · intro x hx
            rcases List.mem_cons.mp hx with rfl | hx
            · exact isName_append hd he hp
            rcases List.mem_cons.mp hx with rfl | hx
            · exact ⟨hq, hstarts, endsOk_tail (endsOk_back hf.ends)⟩
            · exact hrestNames x hx
          · simp [join]

/-- A joined text has no other reading exactly when no field has a seam. -/
theorem seamless_iff {fields : List (List α)} (hfields : ∀ x ∈ fields, IsName blank x) :
    Seamless d blank fields ↔ ¬ OtherReading d blank fields := by
  constructor
  · rintro hseam ⟨names, hlen, hnames, hjoin, hne⟩
    exact hne (reading_unique hseam hnames hlen hjoin)
  · intro hother
    match fields, hfields, hother with
    | [], _, _ => trivial
    | [_], _, _ => trivial
    | f :: g :: rest, hfields, hother =>
      have hf := hfields f List.mem_cons_self
      have hrest : ∀ x ∈ g :: rest, IsName blank x := fun x hx => hfields x (List.mem_cons_of_mem _ hx)
      refine ⟨fun p q hpq hp hends hstarts => hother ?_,
        by_contra fun hinner => hother (otherReading_inner hd hf hrest hinner)⟩
      subst hpq
      refine ⟨p :: (q ++ d :: g) :: rest, rfl, ?_, ?_, fun heq => ?_⟩
      · intro x hx
        rcases List.mem_cons.mp hx with rfl | hx
        · exact ⟨hp, (startsOk_append hp).mp hf.starts, hends⟩
        rcases List.mem_cons.mp hx with rfl | hx
        · exact isName_prepend hd hstarts (hrest g List.mem_cons_self)
        · exact hrest x (List.mem_cons_of_mem _ hx)
      · cases rest <;> simp [join]
      · have := (List.cons.inj heq).1
        simp at this

end

end

end PortfolioManagement.Joined
