import Mathlib.Data.List.Sort
import Mathlib.Data.List.Induction
import PortfolioManagement.Nav.Record

/-!
# The index of a NAV history

`NavHistoryIndex` sorts the rows by date and keeps the last and the first row of every year and
month. The base records of a date are read from it. Of rows with distinct dates every lookup is the
latest or the earliest row of a period, whatever order the rows came in.
-/

namespace PortfolioManagement.Nav

/-- The result of `NavHistoryIndex.build`. -/
structure NavIndex where
  /-- `sorted_navs` -/
  sortedNavs : List NAVHistory
  /-- `year_end_map` -/
  yearEndMap : Items Nat NAVHistory
  /-- `year_first_map` -/
  yearFirstMap : Items Nat NAVHistory
  /-- `month_end_map` -/
  monthEndMap : Items Ledger.YearMonth NAVHistory
  /-- `month_first_map` -/
  monthFirstMap : Items Ledger.YearMonth NAVHistory

/-- The year of a row. -/
def yearOf (nav : NAVHistory) : Nat := nav.date.year

/-- The month of a row. -/
def monthOf (nav : NAVHistory) : Ledger.YearMonth := Ledger.monthKey nav.date

section
variable {κ : Type} [DecidableEq κ] (key : NAVHistory → κ)

/-- `map[key] = nav` for every row: the last row of each key stays. -/
def lastBy (navs : List NAVHistory) : Items κ NAVHistory :=
  navs.foldl (fun map nav => Items.set (key nav) nav map) []

/-- `map.setdefault(key, nav)` for every row: the first row of each key stays. -/
def firstBy (navs : List NAVHistory) : Items κ NAVHistory :=
  navs.foldl (fun map nav => Items.update id nav (key nav) map) []

theorem lookup_lastBy (navs : List NAVHistory) (k : κ) :
    (lastBy key navs).lookup k = (navs.filter fun nav => key nav = k).getLast? := by
  induction navs using List.reverseRecOn with
  | nil => rfl
  | append_singleton navs nav ih =>
    rw [lastBy, List.foldl_append, List.foldl_cons, List.foldl_nil, ← lastBy, Items.set,
      Items.lookup_update, ih, List.filter_append]
    by_cases h : k = key nav
    · subst h
      simp
    · simp [h, Ne.symm h]

theorem lookup_firstBy (navs : List NAVHistory) (k : κ) :
    (firstBy key navs).lookup k = (navs.filter fun nav => key nav = k).head? := by
  induction navs using List.reverseRecOn with
  | nil => rfl
  | append_singleton navs nav ih =>
    rw [firstBy, List.foldl_append, List.foldl_cons, List.foldl_nil, ← firstBy,
      Items.lookup_update, List.filter_append, List.head?_append]
    by_cases h : k = key nav
    · subst h
      rw [if_pos rfl, ih]
      cases (navs.filter fun n => key n = key nav).head? <;> simp
    · rw [if_neg h, ih]
      simp [Ne.symm h]

end

/-- The rows in the order of their dates. -/
def sortNavs (navs : List NAVHistory) : List NAVHistory :=
  navs.insertionSort fun a b => a.date ≤ b.date

namespace NavIndex

/-- `NavHistoryIndex.build`. -/
def build (navs : List NAVHistory) : NavIndex where
  sortedNavs := sortNavs navs
  yearEndMap := lastBy yearOf (sortNavs navs)
  yearFirstMap := firstBy yearOf (sortNavs navs)
  monthEndMap := lastBy monthOf (sortNavs navs)
  monthFirstMap := firstBy monthOf (sortNavs navs)

variable (index : NavIndex)

/-- `find_latest_before`: the row before the place of the date in the sorted dates. -/
def findLatestBefore (before : CivilDate) : Option NAVHistory :=
  (index.sortedNavs.takeWhile fun nav => nav.date < before).getLast?

/-- `find_year_end`. -/
def findYearEnd (year : Nat) : Option NAVHistory := index.yearEndMap.lookup year

/-- The month before a month. -/
def prevMonth (d : CivilDate) : Ledger.YearMonth :=
  if d.month = 1 then ⟨d.year - 1, 12⟩ else ⟨d.year, d.month - 1⟩

/-- `find_prev_month_end`. -/
def findPrevMonthEnd (d : CivilDate) : Option NAVHistory := index.monthEndMap.lookup (prevMonth d)

/-- `find_first_in_month_before`. -/
def findFirstInMonthBefore (d : CivilDate) : Option NAVHistory :=
  (index.monthFirstMap.lookup (Ledger.monthKey d)).filter fun nav => nav.date < d

/-- `find_first_in_year_before`. -/
def findFirstInYearBefore (d : CivilDate) : Option NAVHistory :=
  (index.yearFirstMap.lookup d.year).filter fun nav => nav.date < d

/-- `find_mtd_return_base`. -/
def findMtdReturnBase (d : CivilDate) : Option NAVHistory :=
  (index.findPrevMonthEnd d).or (index.findFirstInMonthBefore d)

/-- `find_ytd_return_base`. -/
def findYtdReturnBase (d : CivilDate) : Option NAVHistory :=
  (index.findYearEnd (d.year - 1)).or (index.findFirstInYearBefore d)

end NavIndex

/-! ## Sorted rows -/

section
variable {navs : List NAVHistory}

theorem mem_sortNavs {nav : NAVHistory} : nav ∈ sortNavs navs ↔ nav ∈ navs :=
  List.mem_insertionSort _

theorem sortNavs_pairwise (navs : List NAVHistory) :
    (sortNavs navs).Pairwise fun a b => a.date ≤ b.date :=
  List.pairwise_insertionSort _ _

/-- The rows before a date are a front of the sorted rows. -/
theorem takeWhile_before {sorted : List NAVHistory}
    (h : sorted.Pairwise fun a b => a.date ≤ b.date) (before : CivilDate) :
    (sorted.takeWhile fun nav => nav.date < before) =
      sorted.filter fun nav => nav.date < before := by
  induction sorted with
  | nil => rfl
  | cons nav rest ih =>
    obtain ⟨hle, hrest⟩ := List.pairwise_cons.mp h
    by_cases hnav : nav.date < before
    · simp only [List.takeWhile_cons, List.filter_cons, hnav, decide_true, if_true, ih hrest]
    · have hnil : rest.filter (fun nav => nav.date < before) = [] := by
        rw [List.filter_eq_nil_iff]
        intro b hb
        simpa using le_trans (not_lt.mp hnav) (hle b hb)
      simp [hnav, hnil]

/-- The last row of a sorted list that satisfies something is the latest one. -/
theorem getLast?_filter_spec {sorted : List NAVHistory} {p : NAVHistory → Bool} {nav : NAVHistory}
    (h : sorted.Pairwise fun a b => a.date ≤ b.date)
    (hlast : (sorted.filter p).getLast? = some nav) :
    nav ∈ sorted ∧ p nav = true ∧ ∀ other ∈ sorted, p other = true → other.date ≤ nav.date := by
  obtain ⟨front, hfront⟩ := List.getLast?_eq_some_iff.mp hlast
  have hmem : nav ∈ sorted.filter p := hfront ▸ List.mem_append_right _ List.mem_cons_self
  obtain ⟨hin, hp⟩ := List.mem_filter.mp hmem
  refine ⟨hin, hp, fun other hother hpother => ?_⟩
  have hsorted := h.filter p
  rw [hfront] at hsorted
  have hother' : other ∈ front ++ [nav] := hfront ▸ List.mem_filter.mpr ⟨hother, hpother⟩
  rcases List.mem_append.mp hother' with hfrontmem | hone
  · exact (List.pairwise_append.mp hsorted).2.2 other hfrontmem nav List.mem_cons_self
  · rw [List.mem_singleton.mp hone]

/-- `find_latest_before` is the latest row before the date. -/
theorem findLatestBefore_spec {before : CivilDate} {nav : NAVHistory}
    (h : (NavIndex.build navs).findLatestBefore before = some nav) :
    nav ∈ navs ∧ nav.date < before ∧
      ∀ other ∈ navs, other.date < before → other.date ≤ nav.date := by
  rw [NavIndex.findLatestBefore, NavIndex.build,
    takeWhile_before (sortNavs_pairwise navs)] at h
  obtain ⟨hmem, hlt, hmax⟩ := getLast?_filter_spec (sortNavs_pairwise navs) h
  exact ⟨mem_sortNavs.mp hmem, of_decide_eq_true hlt, fun other hother hbefore =>
    hmax other (mem_sortNavs.mpr hother) (decide_eq_true hbefore)⟩

theorem findLatestBefore_eq_none {before : CivilDate} :
    (NavIndex.build navs).findLatestBefore before = none ↔ ∀ nav ∈ navs, ¬ nav.date < before := by
  rw [NavIndex.findLatestBefore, NavIndex.build, takeWhile_before (sortNavs_pairwise navs),
    List.getLast?_eq_none_iff, List.filter_eq_nil_iff]
  simp only [mem_sortNavs, decide_eq_true_iff]

/-! ## The rows before a date -/

/-- A row goes to the front of rows that are not earlier. -/
theorem orderedInsert_front {rows : List NAVHistory} {nav : NAVHistory}
    (h : ∀ other ∈ rows, nav.date ≤ other.date) :
    rows.orderedInsert (fun a b => a.date ≤ b.date) nav = nav :: rows := by
  cases rows with
  | nil => rfl
  | cons b rest => rw [List.orderedInsert_cons, if_pos (h b List.mem_cons_self)]

/-- Inserting a row and selecting rows commute. -/
theorem filter_orderedInsert {sorted : List NAVHistory} (p : NAVHistory → Bool) (nav : NAVHistory)
    (h : sorted.Pairwise fun a b => a.date ≤ b.date) :
    (sorted.orderedInsert (fun a b => a.date ≤ b.date) nav).filter p =
      if p nav then (sorted.filter p).orderedInsert (fun a b => a.date ≤ b.date) nav
      else sorted.filter p := by
  induction sorted with
  | nil => by_cases hp : p nav <;> simp [hp]
  | cons b rest ih =>
    obtain ⟨hle, hrest⟩ := List.pairwise_cons.mp h
    by_cases hb : nav.date ≤ b.date
    · -- the row goes to the front, also of the selected rows, which are not earlier
      have hfront : ∀ other ∈ (b :: rest).filter p, nav.date ≤ other.date := by
        intro other hother
        rcases List.mem_cons.mp (List.mem_of_mem_filter hother) with rfl | hmem
        · exact hb
        · exact hb.trans (hle other hmem)
      rw [List.orderedInsert_cons, if_pos hb, orderedInsert_front hfront, List.filter_cons]
    · rw [List.orderedInsert_cons, if_neg hb, List.filter_cons, ih hrest, List.filter_cons]
      by_cases hp : p nav <;> by_cases hpb : p b <;> simp [hp, hpb, hb]

/-- Sorting and selecting rows commute. -/
theorem filter_sortNavs (p : NAVHistory → Bool) (navs : List NAVHistory) :
    (sortNavs navs).filter p = sortNavs (navs.filter p) := by
  induction navs with
  | nil => rfl
  | cons nav rest ih =>
    rw [sortNavs, List.insertionSort_cons, ← sortNavs,
      filter_orderedInsert p nav (sortNavs_pairwise rest), ih, List.filter_cons]
    by_cases hp : p nav <;> simp [hp, sortNavs]

/-- The rows before a date. -/
def rowsBefore (d : CivilDate) (navs : List NAVHistory) : List NAVHistory :=
  navs.filter fun nav => nav.date < d

section
variable {κ : Type} [DecidableEq κ] {key : NAVHistory → κ} {k : κ} {d : CivilDate}

/-- The last row of a key whose rows are all before a date is found among the rows before it. -/
theorem lookup_lastBy_rowsBefore (h : ∀ nav ∈ navs, key nav = k → nav.date < d) :
    (lastBy key (sortNavs (rowsBefore d navs))).lookup k =
      (lastBy key (sortNavs navs)).lookup k := by
  rw [lookup_lastBy, lookup_lastBy, rowsBefore, ← filter_sortNavs, List.filter_filter]
  congr 1
  refine List.filter_congr fun nav hmem => ?_
  by_cases hk : key nav = k
  · simp [hk, h nav (mem_sortNavs.mp hmem) hk]
  · simp [hk]

/-- The first row of a key, if it is before a date, is the first of the rows before it. -/
theorem lookup_firstBy_rowsBefore :
    ((firstBy key (sortNavs (rowsBefore d navs))).lookup k).filter (fun nav => nav.date < d) =
      ((firstBy key (sortNavs navs)).lookup k).filter fun nav => nav.date < d := by
  have hsorted := (sortNavs_pairwise navs).filter fun nav => decide (key nav = k)
  rw [lookup_firstBy, lookup_firstBy, rowsBefore, ← filter_sortNavs, List.filter_filter]
  have hswap : ((sortNavs navs).filter fun nav => decide (key nav = k) && decide (nav.date < d)) =
      (((sortNavs navs).filter fun nav => decide (key nav = k)).filter fun nav =>
        decide (nav.date < d)) := by
    rw [List.filter_filter]
    exact List.filter_congr fun nav _ => Bool.and_comm _ _
  rw [hswap]
  cases hrows : (sortNavs navs).filter fun nav => decide (key nav = k) with
  | nil => rfl
  | cons first rest =>
    rw [hrows] at hsorted
    by_cases hfirst : first.date < d
    · simp [hfirst]
    · have hnil : (first :: rest).filter (fun nav => decide (nav.date < d)) = [] := by
        rw [List.filter_eq_nil_iff]
        intro nav hnav
        rcases List.mem_cons.mp hnav with rfl | hmem
        · simpa using hfirst
        · simpa using (not_lt.mp hfirst).trans ((List.pairwise_cons.mp hsorted).1 nav hmem)
      rw [hnil, List.head?_cons, List.head?_nil, Option.filter_some, if_neg (by simpa using hfirst)]
      rfl

end

/-- A date of an earlier year is earlier. -/
theorem date_lt_of_yearOf {nav : NAVHistory} {d : CivilDate} (h : yearOf nav = d.year - 1) :
    nav.date < d := by
  have hd := d.valid.1
  exact CivilDate.lt_of_year_lt (by rw [yearOf] at h; omega)

/-- A date of the month before is earlier. -/
theorem date_lt_of_monthOf {nav : NAVHistory} {d : CivilDate}
    (h : monthOf nav = NavIndex.prevMonth d) : nav.date < d := by
  have hd := d.valid.1
  have hm := d.one_le_month
  unfold monthOf Ledger.monthKey NavIndex.prevMonth at h
  split at h
  · have hyear : nav.date.year = d.year - 1 := congrArg Ledger.YearMonth.year h
    exact CivilDate.lt_of_year_lt (by omega)
  · have hyear : nav.date.year = d.year := congrArg Ledger.YearMonth.year h
    have hmonth : nav.date.month = d.month - 1 := congrArg Ledger.YearMonth.month h
    by_contra hnot
    have := CivilDate.month_le_of_le (not_lt.mp hnot) hyear.symm
    omega

section
variable (navs) (d : CivilDate)

theorem findLatestBefore_rowsBefore :
    (NavIndex.build (rowsBefore d navs)).findLatestBefore d =
      (NavIndex.build navs).findLatestBefore d := by
  rw [NavIndex.findLatestBefore, NavIndex.findLatestBefore, NavIndex.build, NavIndex.build,
    takeWhile_before (sortNavs_pairwise _), takeWhile_before (sortNavs_pairwise _), rowsBefore,
    ← filter_sortNavs, List.filter_filter]
  simp

theorem findYearEnd_rowsBefore :
    (NavIndex.build (rowsBefore d navs)).findYearEnd (d.year - 1) =
      (NavIndex.build navs).findYearEnd (d.year - 1) :=
  lookup_lastBy_rowsBefore fun _ _ => date_lt_of_yearOf

theorem findPrevMonthEnd_rowsBefore :
    (NavIndex.build (rowsBefore d navs)).findPrevMonthEnd d =
      (NavIndex.build navs).findPrevMonthEnd d :=
  lookup_lastBy_rowsBefore fun _ _ => date_lt_of_monthOf

theorem findMtdReturnBase_rowsBefore :
    (NavIndex.build (rowsBefore d navs)).findMtdReturnBase d =
      (NavIndex.build navs).findMtdReturnBase d := by
  rw [NavIndex.findMtdReturnBase, NavIndex.findMtdReturnBase, findPrevMonthEnd_rowsBefore]
  congr 1
  exact lookup_firstBy_rowsBefore

theorem findYtdReturnBase_rowsBefore :
    (NavIndex.build (rowsBefore d navs)).findYtdReturnBase d =
      (NavIndex.build navs).findYtdReturnBase d := by
  rw [NavIndex.findYtdReturnBase, NavIndex.findYtdReturnBase, findYearEnd_rowsBefore]
  congr 1
  exact lookup_firstBy_rowsBefore

end

end

end PortfolioManagement.Nav
