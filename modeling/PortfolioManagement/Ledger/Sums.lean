import Mathlib.Data.List.Induction
import Mathlib.Algebra.Order.BigOperators.Group.List
import Mathlib.Algebra.Order.Group.Unbundled.Int
import PortfolioManagement.Ledger.Dataset

/-!
# The sums of a window

Adding rounds to 28 digits. As long as the absolute amounts of a window stay below that, no sum of
it is rounded, and every entry of a dict of sums is the plain sum of the amounts under its key.
-/

namespace PortfolioManagement.Ledger

/-- `start ≤ flow_date ≤ stop`. -/
def inWindow (start stop : CivilDate) (facts : CompletedCashFlowFacts) : Bool :=
  start ≤ facts.flowDate ∧ facts.flowDate ≤ stop

/-- The rows of a window. -/
def windowRows (rows : List CompletedCashFlowFacts) (start stop : CivilDate) :
    List CompletedCashFlowFacts :=
  rows.filter (inWindow start stop)

/-- The plain sum of the CNY amounts of some rows. -/
def total (rows : List CompletedCashFlowFacts) : Cents := (rows.map (·.cnyAmount)).sum

/-- The sum of the absolute CNY amounts of some rows. -/
def absTotal (rows : List CompletedCashFlowFacts) : Nat := (rows.map (·.cnyAmount.natAbs)).sum

/-- No sum over the rows needs more digits than the context has. -/
def Representable (rows : List CompletedCashFlowFacts) : Prop :=
  absTotal rows < 10 ^ Decimal.precision

instance (rows : List CompletedCashFlowFacts) : Decidable (Representable rows) :=
  inferInstanceAs (Decidable (_ < _))

@[simp] theorem total_nil : total [] = 0 := rfl

@[simp] theorem total_append (a b : List CompletedCashFlowFacts) :
    total (a ++ b) = total a + total b := by
  simp [total]

@[simp] theorem total_singleton (facts : CompletedCashFlowFacts) :
    total [facts] = facts.cnyAmount := by
  simp [total]

@[simp] theorem absTotal_append (a b : List CompletedCashFlowFacts) :
    absTotal (a ++ b) = absTotal a + absTotal b := by
  simp [absTotal]

@[simp] theorem absTotal_singleton (facts : CompletedCashFlowFacts) :
    absTotal [facts] = facts.cnyAmount.natAbs := by
  simp [absTotal]

theorem total_perm {a b : List CompletedCashFlowFacts} (h : a.Perm b) : total a = total b :=
  (h.map _).sum_eq

theorem absTotal_perm {a b : List CompletedCashFlowFacts} (h : a.Perm b) :
    absTotal a = absTotal b :=
  (h.map _).sum_eq

/-- A sum is bounded by the absolute amounts of all rows, also a sum over some of them. -/
theorem natAbs_total_filter_le (rows : List CompletedCashFlowFacts)
    (p : CompletedCashFlowFacts → Bool) : (total (rows.filter p)).natAbs ≤ absTotal rows := by
  induction rows with
  | nil => simp [absTotal]
  | cons facts rows ih =>
    have hcons : absTotal (facts :: rows) = facts.cnyAmount.natAbs + absTotal rows := by
      simp [absTotal]
    rw [hcons, List.filter_cons]
    split
    · have hstep : total (facts :: rows.filter p) = facts.cnyAmount + total (rows.filter p) := by
        simp [total]
      rw [hstep]
      have := Int.natAbs_add_le facts.cnyAmount (total (rows.filter p))
      omega
    · omega

/-! ## Dicts of sums -/

section
variable {κ : Type} [DecidableEq κ] (key : CompletedCashFlowFacts → κ)

/-- The dict of sums of some rows under a key. -/
def sumsBy (rows : List CompletedCashFlowFacts) : Items κ Cents :=
  rows.foldl (fun sums facts => addTo (key facts) facts.cnyAmount sums) []

/-- An entry of the dict is the plain sum of its rows, as long as nothing is rounded. -/
theorem lookup_sumsBy {rows : List CompletedCashFlowFacts} (hfits : Representable rows) (k : κ) :
    ((sumsBy key rows).lookup k).getD 0 = total (rows.filter fun facts => key facts = k) := by
  induction rows using List.reverseRecOn with
  | nil => rfl
  | append_singleton rows facts ih =>
    have hbound : absTotal rows + facts.cnyAmount.natAbs < 10 ^ Decimal.precision := by
      simpa [Representable] using hfits
    have ih := ih (lt_of_le_of_lt (Nat.le_add_right _ _) hbound)
    rw [sumsBy, List.foldl_append, List.foldl_cons, List.foldl_nil, addTo, Items.lookup_update,
      List.filter_append, total_append]
    by_cases hk : k = key facts
    · subst hk
      rw [if_pos rfl, Option.getD_some]
      have hprev : ((sumsBy key rows).lookup (key facts)).getD 0 =
          total (rows.filter fun f => key f = key facts) := ih
      have hsmall : (total (rows.filter fun f => key f = key facts) + facts.cnyAmount).natAbs <
          10 ^ Decimal.precision := by
        have h1 := Int.natAbs_add_le (total (rows.filter fun f => key f = key facts))
          facts.cnyAmount
        have h2 := natAbs_total_filter_le rows fun f => key f = key facts
        omega
      rw [← sumsBy, hprev, addMoney_of_lt hsmall]
      simp
    · rw [if_neg hk, ← sumsBy, ih]
      simp [Ne.symm hk]

/-- Summing over the entries of the dict whose keys satisfy something sums the rows that do. -/
theorem sum_filter_sumsBy {rows : List CompletedCashFlowFacts} (hfits : Representable rows)
    (p : κ → Bool) :
    (((sumsBy key rows).filter fun item => p item.1).map Prod.snd).sum =
      total (rows.filter fun facts => p (key facts)) := by
  induction rows using List.reverseRecOn with
  | nil => rfl
  | append_singleton rows facts ih =>
    have hbound : absTotal rows + facts.cnyAmount.natAbs < 10 ^ Decimal.precision := by
      simpa [Representable] using hfits
    have hrows : Representable rows := lt_of_le_of_lt (Nat.le_add_right _ _) hbound
    have hentry : addMoney (((sumsBy key rows).lookup (key facts)).getD 0) facts.cnyAmount =
        ((sumsBy key rows).lookup (key facts)).getD 0 + facts.cnyAmount := by
      rw [lookup_sumsBy key hrows]
      refine addMoney_of_lt ?_
      have h1 := Int.natAbs_add_le (total (rows.filter fun f => key f = key facts))
        facts.cnyAmount
      have h2 := natAbs_total_filter_le rows fun f => key f = key facts
      omega
    have hstep : ∀ sums : Items κ Cents,
        addMoney ((sums.lookup (key facts)).getD 0) facts.cnyAmount =
          (sums.lookup (key facts)).getD 0 + facts.cnyAmount →
        (((addTo (key facts) facts.cnyAmount sums).filter fun item => p item.1).map Prod.snd).sum =
          ((sums.filter fun item => p item.1).map Prod.snd).sum +
            if p (key facts) then facts.cnyAmount else 0 := by
      intro sums
      induction sums with
      | nil =>
        intro h
        simp only [List.lookup_nil, Option.getD_none] at h
        simp only [addTo, Items.update, List.filter_cons, List.filter_nil]
        split <;> simp [h]
      | cons item sums ihs =>
        obtain ⟨k, v⟩ := item
        intro h
        rw [Items.lookup_cons] at h
        simp only [addTo, Items.update] at ihs ⊢
        by_cases hk : k = key facts
        · rw [if_pos hk] at h ⊢
          simp only [Option.getD_some] at h
          rw [h]
          simp only [List.filter_cons, hk]
          split
          · simp only [List.map_cons, List.sum_cons]
            ring
          · simp
        · rw [if_neg hk] at h ⊢
          simp only [List.filter_cons]
          split
          · simp only [List.map_cons, List.sum_cons, ihs h, add_assoc]
          · exact ihs h
    rw [sumsBy, List.foldl_append, List.foldl_cons, List.foldl_nil, ← sumsBy,
      hstep (sumsBy key rows) hentry, ih hrows, List.filter_append, total_append]
    congr 1
    by_cases hp : p (key facts) <;> simp [hp]

/-- The entries of the dict need no more digits than the rows. -/
theorem natAbs_sumsBy_le {rows : List CompletedCashFlowFacts} (hfits : Representable rows) :
    ((sumsBy key rows).map fun item => item.2.natAbs).sum ≤ absTotal rows := by
  induction rows using List.reverseRecOn with
  | nil => exact le_rfl
  | append_singleton rows facts ih =>
    have hbound : absTotal rows + facts.cnyAmount.natAbs < 10 ^ Decimal.precision := by
      simpa [Representable] using hfits
    have hrows : Representable rows := lt_of_le_of_lt (Nat.le_add_right _ _) hbound
    have hentry : addMoney (((sumsBy key rows).lookup (key facts)).getD 0) facts.cnyAmount =
        ((sumsBy key rows).lookup (key facts)).getD 0 + facts.cnyAmount := by
      rw [lookup_sumsBy key hrows]
      refine addMoney_of_lt ?_
      have h1 := Int.natAbs_add_le (total (rows.filter fun f => key f = key facts))
        facts.cnyAmount
      have h2 := natAbs_total_filter_le rows fun f => key f = key facts
      omega
    have hstep : ∀ sums : Items κ Cents,
        addMoney ((sums.lookup (key facts)).getD 0) facts.cnyAmount =
          (sums.lookup (key facts)).getD 0 + facts.cnyAmount →
        ((addTo (key facts) facts.cnyAmount sums).map fun item => item.2.natAbs).sum ≤
          (sums.map fun item => item.2.natAbs).sum + facts.cnyAmount.natAbs := by
      intro sums
      induction sums with
      | nil =>
        intro h
        simp only [List.lookup_nil, Option.getD_none] at h
        simp [addTo, Items.update, h]
      | cons item sums ihs =>
        obtain ⟨k, v⟩ := item
        intro h
        rw [Items.lookup_cons] at h
        simp only [addTo, Items.update] at ihs ⊢
        by_cases hk : k = key facts
        · rw [if_pos hk] at h ⊢
          simp only [Option.getD_some] at h
          rw [h]
          simp only [List.map_cons, List.sum_cons]
          have := Int.natAbs_add_le v facts.cnyAmount
          omega
        · rw [if_neg hk] at h ⊢
          simp only [List.map_cons, List.sum_cons]
          have := ihs h
          omega
    rw [sumsBy, List.foldl_append, List.foldl_cons, List.foldl_nil, ← sumsBy, absTotal_append,
      absTotal_singleton]
    exact (hstep (sumsBy key rows) hentry).trans (Nat.add_le_add_right (ih hrows) _)

end

/-- The running total is the plain sum, as long as nothing is rounded. -/
theorem foldl_addMoney {α : Type} (amount : α → Cents) {items : List α}
    (hfits : (items.map fun item => (amount item).natAbs).sum < 10 ^ Decimal.precision) :
    items.foldl (fun acc item => addMoney acc (amount item)) 0 = (items.map amount).sum := by
  have hle : ∀ l : List α,
      ((l.map amount).sum).natAbs ≤ (l.map fun item => (amount item).natAbs).sum := by
    intro l
    induction l with
    | nil => simp
    | cons a l ih =>
      simp only [List.map_cons, List.sum_cons]
      have := Int.natAbs_add_le (amount a) (l.map amount).sum
      omega
  induction items using List.reverseRecOn with
  | nil => rfl
  | append_singleton items item ih =>
    simp only [List.map_append, List.sum_append, List.map_cons, List.map_nil, List.sum_cons,
      List.sum_nil, add_zero] at hfits ⊢
    rw [List.foldl_append, List.foldl_cons, List.foldl_nil, ih (by omega)]
    refine addMoney_of_lt ?_
    have h1 := Int.natAbs_add_le (items.map amount).sum (amount item)
    have h2 := hle items
    omega

/-! ## The aggregates of a window -/

section
variable (rows : List CompletedCashFlowFacts) (start stop : CivilDate)

/-- The aggregates are the dicts of sums of the window's rows. -/
theorem aggregate_eq :
    aggregateCompletedCashFlows rows start stop =
      { daily := sumsBy (·.flowDate) (windowRows rows start stop)
        monthly := sumsBy (fun facts => monthKey facts.flowDate) (windowRows rows start stop)
        yearly := sumsBy (fun facts => facts.flowDate.year) (windowRows rows start stop)
        cumulative := (windowRows rows start stop).foldl
          (fun acc facts => addMoney acc facts.cnyAmount) 0 } := by
  induction rows using List.reverseRecOn with
  | nil => rfl
  | append_singleton rows facts ih =>
    have hwindow : windowRows (rows ++ [facts]) start stop =
        windowRows rows start stop ++ [facts].filter (inWindow start stop) :=
      List.filter_append _ _
    rw [aggregateCompletedCashFlows, List.foldl_append, ← aggregateCompletedCashFlows, ih,
      List.foldl_cons, List.foldl_nil, aggregateRow, hwindow]
    by_cases h : start ≤ facts.flowDate ∧ facts.flowDate ≤ stop
    · have hin : [facts].filter (inWindow start stop) = [facts] := by simp [inWindow, h]
      rw [if_pos h, hin]
      simp [sumsBy]
    · have hout : [facts].filter (inWindow start stop) = [] := by
        simpa [inWindow] using h
      rw [if_neg h, hout, List.append_nil]

/-- Every aggregate of a window is the plain sum of the CNY amounts of its rows. -/
structure ExactSums (sums : Aggregates) : Prop where
  /-- by day -/
  daily : ∀ day, (sums.daily.lookup day).getD 0 =
    total ((windowRows rows start stop).filter fun facts => facts.flowDate = day)
  /-- by month -/
  monthly : ∀ month, (sums.monthly.lookup month).getD 0 =
    total ((windowRows rows start stop).filter fun facts => monthKey facts.flowDate = month)
  /-- by year -/
  yearly : ∀ year, (sums.yearly.lookup year).getD 0 =
    total ((windowRows rows start stop).filter fun facts => facts.flowDate.year = year)
  /-- in total -/
  cumulative : sums.cumulative = total (windowRows rows start stop)

variable {rows start stop}

/-- `aggregate_completed_cash_flows` is exact on rows whose sums fit the context. -/
theorem exactSums_aggregate (hfits : Representable (windowRows rows start stop)) :
    ExactSums rows start stop (aggregateCompletedCashFlows rows start stop) := by
  rw [aggregate_eq]
  exact
    { daily := lookup_sumsBy _ hfits
      monthly := lookup_sumsBy _ hfits
      yearly := lookup_sumsBy _ hfits
      cumulative := foldl_addMoney _ hfits }

end

end PortfolioManagement.Ledger
