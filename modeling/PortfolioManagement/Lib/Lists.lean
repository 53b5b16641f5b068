import Mathlib.Data.List.Forall2

/-!
# Lists

Facts about searches and pairings of lists that the table and the plans of the workflow rest on.
-/

namespace PortfolioManagement

section
variable {α β : Type} {R : α → β → Prop}

/-- Searches with predicates that agree on the list find the same element. -/
theorem find?_congr_mem {l : List α} {p q : α → Bool} (h : ∀ a ∈ l, p a = q a) :
    l.find? p = l.find? q := by
  induction l with
  | nil => rfl
  | cons a l ih =>
    rw [List.find?_cons, List.find?_cons, h a List.mem_cons_self,
      ih fun b hb => h b (List.mem_cons_of_mem _ hb)]

/-- Every element on the right of a pairing has a partner. -/
theorem forall₂_mem_right {as : List α} {bs : List β} (h : List.Forall₂ R as bs) {b : β}
    (hb : b ∈ bs) : ∃ a ∈ as, R a b := by
  induction h with
  | nil => cases hb
  | cons hab _ ih =>
    rcases List.mem_cons.mp hb with rfl | hb
    · exact ⟨_, List.mem_cons_self, hab⟩
    · obtain ⟨a, ha, h⟩ := ih hb
      exact ⟨a, List.mem_cons_of_mem _ ha, h⟩

/-- Every element on the left of a pairing has a partner. -/
theorem forall₂_mem_left {as : List α} {bs : List β} (h : List.Forall₂ R as bs) {a : α}
    (ha : a ∈ as) : ∃ b ∈ bs, R a b :=
  forall₂_mem_right h.flip ha

/-- What paired elements agree on agrees along a pairing. -/
theorem map_eq_of_forall₂ {γ : Type} {as : List α} {bs : List β} {f : α → γ} {g : β → γ}
    (h : List.Forall₂ R as bs) (hR : ∀ a b, R a b → f a = g b) : as.map f = bs.map g := by
  induction h with
  | nil => rfl
  | cons hab _ ih => rw [List.map_cons, List.map_cons, hR _ _ hab, ih]

end

/-! ## Loops that may raise -/

section
variable {α β ε : Type}

theorem except_bind_ok {x : Except ε α} {f : α → Except ε β} {b : β} (h : x >>= f = .ok b) :
    ∃ a, x = .ok a ∧ f a = .ok b := by
  cases x with
  | error e => cases h
  | ok a => exact ⟨a, rfl, h⟩

/-- What goes on after a guard went on because the guard held. -/
theorem except_guard_ok {c : Prop} [Decidable c] {e : ε} {f : PUnit → Except ε α} {x : Except ε α} {a : α}
    (h : (if c then (throw e : Except ε PUnit) >>= f else x) = .ok a) : ¬ c ∧ x = .ok a := by
  by_cases hc : c
  · rw [if_pos hc] at h
    cases h
  · rw [if_neg hc] at h
    exact ⟨hc, h⟩

theorem mapError_ok {ε' : Type} {f : ε → ε'} {x : Except ε α} {a : α} (h : x.mapError f = .ok a) :
    x = .ok a := by
  cases x with
  | error e => cases h
  | ok b =>
    cases h
    rfl

/-- A loop that does not raise pairs its elements with its results. -/
theorem forall₂_of_mapM_ok {f : α → Except ε β} {as : List α} {bs : List β} (h : as.mapM f = .ok bs) :
    List.Forall₂ (fun a b => f a = .ok b) as bs := by
  induction as generalizing bs with
  | nil =>
    cases h
    exact .nil
  | cons a as ih =>
    rw [List.mapM_cons] at h
    obtain ⟨b, hb, h⟩ := except_bind_ok h
    obtain ⟨rest, hrest, h⟩ := except_bind_ok h
    cases h
    exact .cons hb (ih hrest)

theorem mapM_ok_of_forall₂ {f : α → Except ε β} {as : List α} {bs : List β}
    (h : List.Forall₂ (fun a b => f a = .ok b) as bs) : as.mapM f = .ok bs := by
  induction h with
  | nil => rfl
  | cons hab _ ih =>
    rw [List.mapM_cons, hab, ih]
    rfl

/-- A loop whose body, where it does not raise, has a known result. -/
theorem mapM_ok_iff {f : α → Except ε β} {P : α → Prop} {g : α → β} {as : List α} {bs : List β}
    (h : ∀ a ∈ as, ∀ b, f a = .ok b ↔ P a ∧ b = g a) :
    as.mapM f = .ok bs ↔ (∀ a ∈ as, P a) ∧ bs = as.map g := by
  induction as generalizing bs with
  | nil => exact ⟨fun hok => ⟨nofun, (Except.ok.inj hok).symm⟩, fun ⟨_, hbs⟩ => hbs ▸ rfl⟩
  | cons a as ih =>
    have hrest : ∀ bs, as.mapM f = .ok bs ↔ (∀ a ∈ as, P a) ∧ bs = as.map g :=
      fun _ => ih fun a' ha' => h a' (List.mem_cons_of_mem _ ha')
    rw [List.mapM_cons]
    constructor
    · intro hok
      obtain ⟨b, hb, hok⟩ := except_bind_ok hok
      obtain ⟨rest, hmap, hok⟩ := except_bind_ok hok
      cases hok
      obtain ⟨hP, rfl⟩ := (h a List.mem_cons_self b).mp hb
      obtain ⟨hall, rfl⟩ := (hrest rest).mp hmap
      exact ⟨List.forall_mem_cons.mpr ⟨hP, hall⟩, rfl⟩
    · rintro ⟨hall, rfl⟩
      obtain ⟨hP, hall⟩ := List.forall_mem_cons.mp hall
      rw [(h a List.mem_cons_self (g a)).mpr ⟨hP, rfl⟩, (hrest (as.map g)).mpr ⟨hall, rfl⟩]
      rfl

/-- A loop none of whose elements raises. -/
theorem mapM_ok_of_forall {f : α → Except ε β} {as : List α} (h : ∀ a ∈ as, ∃ b, f a = .ok b) :
    ∃ bs, as.mapM f = .ok bs := by
  induction as with
  | nil => exact ⟨[], rfl⟩
  | cons a as ih =>
    obtain ⟨b, hb⟩ := h a List.mem_cons_self
    obtain ⟨bs, hbs⟩ := ih fun a' ha' => h a' (List.mem_cons_of_mem _ ha')
    refine ⟨b :: bs, ?_⟩
    rw [List.mapM_cons, hb, hbs]
    rfl

end

end PortfolioManagement
