import Mathlib.Order.Interval.Set.Basic

/-!
# Unions of half-open intervals

A family of intervals `[opens i, closes i)` in a dense order. A window `(a, b]` meets it when it starts inside
of it or one of the intervals opens in the window, and after a point outside it is met first where one of
them opens.
-/

namespace PortfolioManagement.HalfOpen

variable {ι α : Type*} [LinearOrder α] {p : ι → Prop} {opens closes : ι → α}

/-- A point of one of the intervals. -/
def Covers (p : ι → Prop) (opens closes : ι → α) (u : α) : Prop :=
  ∃ i, p i ∧ opens i ≤ u ∧ u < closes i

/-- A point is past an interval, in it, or before it opens. -/
theorem covers_or_lt {a u : α} (h : Covers p opens closes u) (hau : a ≤ u) :
    Covers p opens closes a ∨ ∃ i, p i ∧ a < opens i ∧ opens i ≤ u := by
  obtain ⟨i, hi, hopen, hclose⟩ := h
  rcases le_or_gt (opens i) a with hle | hlt
  · exact .inl ⟨i, hi, hle, lt_of_le_of_lt hau hclose⟩
  · exact .inr ⟨i, hi, hlt, hopen⟩

/-- A window meets the intervals when it starts in one, or one opens in it. -/
theorem window_iff [DenselyOrdered α] (hopens : ∀ i, p i → opens i < closes i) {a b : α} :
    (∃ u, a < u ∧ u ≤ b ∧ Covers p opens closes u) ↔
      (a < b ∧ Covers p opens closes a) ∨ ∃ i, p i ∧ a < opens i ∧ opens i ≤ b := by
  constructor
  · rintro ⟨u, hau, hub, hu⟩
    rcases covers_or_lt hu hau.le with ha | ⟨i, hi, hlt, hle⟩
    · exact .inl ⟨lt_of_lt_of_le hau hub, ha⟩
    · exact .inr ⟨i, hi, hlt, hle.trans hub⟩
  · rintro (⟨hab, i, hi, hopen, hclose⟩ | ⟨i, hi, hlt, hle⟩)
    · -- the interval is open to the right of the start of the window
      obtain ⟨u, hau, hu⟩ := exists_between (lt_min hab hclose)
      exact ⟨u, hau, (hu.trans_le (min_le_left _ _)).le, i, hi, hopen.trans hau.le,
        hu.trans_le (min_le_right _ _)⟩
    · exact ⟨opens i, hlt, hle, i, hi, le_rfl, hopens i hi⟩

end PortfolioManagement.HalfOpen
