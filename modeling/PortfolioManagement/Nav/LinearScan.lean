import PortfolioManagement.Lib.Keyed
import PortfolioManagement.Nav.HistoryIndex
import PortfolioManagement.Nav.SelfCheck
import PortfolioManagement.Ledger.DatasetLaws

/-!
# The index and the scan

Without an index every lookup of `NavHistoryIndex` filters the rows and takes the latest or the earliest
of them. Of rows with distinct dates both ways give the same row, and none exactly when the filter leaves
none.
-/

namespace PortfolioManagement.Nav

/-! ## Scans -/

/-- `max(candidates, key=date)`, if there are candidates: the first of several. -/
def maxByDate : List NAVHistory → Option NAVHistory
  | [] => none
  | nav :: rest => some (rest.foldl (fun best other => if best.date < other.date then other else best) nav)

/-- `min(candidates, key=date)`, if there are candidates: the first of several. -/
def minByDate : List NAVHistory → Option NAVHistory
  | [] => none
  | nav :: rest => some (rest.foldl (fun best other => if other.date < best.date then other else best) nav)

/-- The month before a month. -/
def monthBefore (year month : Nat) : Ledger.YearMonth :=
  if month = 1 then ⟨year - 1, 12⟩ else ⟨year, month - 1⟩

section
variable (navs : List NAVHistory)

/-- `find_latest_before` without an index. -/
def scanLatestBefore (before : CivilDate) : Option NAVHistory :=
  maxByDate (navs.filter fun nav => nav.date < before)

/-- `find_year_end` without an index. -/
def scanYearEnd (year : Nat) : Option NAVHistory := maxByDate (navs.filter fun nav => yearOf nav = year)

/-- `find_prev_month_end` without an index. -/
def scanPrevMonthEnd (year month : Nat) : Option NAVHistory :=
  maxByDate (navs.filter fun nav => monthOf nav = monthBefore year month)

/-- `find_first_in_month_before` without an index. -/
def scanFirstInMonthBefore (year month : Nat) (before : CivilDate) : Option NAVHistory :=
  minByDate (navs.filter fun nav => nav.date < before ∧ monthOf nav = ⟨year, month⟩)

/-- `find_first_in_year_before` without an index. -/
def scanFirstInYearBefore (year : Nat) (before : CivilDate) : Option NAVHistory :=
  minByDate (navs.filter fun nav => nav.date < before ∧ yearOf nav = year)

/-- `find_mtd_return_base` without an index. -/
def scanMtdReturnBase (d : CivilDate) : Option NAVHistory :=
  (scanPrevMonthEnd navs d.year d.month).or (scanFirstInMonthBefore navs d.year d.month d)

/-- `find_ytd_return_base` without an index. -/
def scanYtdReturnBase (d : CivilDate) : Option NAVHistory :=
  (scanYearEnd navs (d.year - 1)).or (scanFirstInYearBefore navs d.year d)

end

namespace NavIndex

variable (index : NavIndex)

/-- `find_prev_month_end` of a year and a month. -/
def findMonthEndBefore (year month : Nat) : Option NAVHistory :=
  index.monthEndMap.lookup (monthBefore year month)

/-- `find_first_in_month_before` of a year, a month and a date. -/
def findFirstOfMonthBefore (year month : Nat) (before : CivilDate) : Option NAVHistory :=
  (index.monthFirstMap.lookup ⟨year, month⟩).filter fun nav => nav.date < before

/-- `find_first_in_year_before` of a year and a date. -/
def findFirstOfYearBefore (year : Nat) (before : CivilDate) : Option NAVHistory :=
  (index.yearFirstMap.lookup year).filter fun nav => nav.date < before

/-- A date asks for its own year and month. -/
theorem findPrevMonthEnd_eq (d : CivilDate) :
    index.findPrevMonthEnd d = index.findMonthEndBefore d.year d.month := rfl

theorem findFirstInMonthBefore_eq (d : CivilDate) :
    index.findFirstInMonthBefore d = index.findFirstOfMonthBefore d.year d.month d := rfl

theorem findFirstInYearBefore_eq (d : CivilDate) :
    index.findFirstInYearBefore d = index.findFirstOfYearBefore d.year d := rfl

end NavIndex

/-! ## The latest and the earliest row -/

section
variable {navs : List NAVHistory} {nav : NAVHistory}

theorem foldl_max (rest : List NAVHistory) (nav : NAVHistory) :
    let best := rest.foldl (fun best other => if best.date < other.date then other else best) nav
    best ∈ nav :: rest ∧ ∀ other ∈ nav :: rest, other.date ≤ best.date := by
  induction rest generalizing nav with
  | nil => exact ⟨List.mem_cons_self, fun other h => by rw [List.mem_singleton.mp h]; exact le_rfl⟩
  | cons a rest ih =>
    rw [List.foldl_cons]
    by_cases hlt : nav.date < a.date
    · rw [if_pos hlt]
      obtain ⟨hmem, hmax⟩ := ih a
      refine ⟨List.mem_cons_of_mem _ hmem, fun other hother => ?_⟩
      rcases List.mem_cons.mp hother with rfl | hrest
      · exact hlt.le.trans (hmax a List.mem_cons_self)
      · exact hmax other hrest
    · rw [if_neg hlt]
      obtain ⟨hmem, hmax⟩ := ih nav
      refine ⟨?_, fun other hother => ?_⟩
      · rcases List.mem_cons.mp hmem with h | h
        · rw [h]
          exact List.mem_cons_self
        · exact List.mem_cons_of_mem _ (List.mem_cons_of_mem _ h)
      · rcases List.mem_cons.mp hother with rfl | hother
        · exact hmax _ List.mem_cons_self
        · rcases List.mem_cons.mp hother with rfl | hrest
          · exact (not_lt.mp hlt).trans (hmax nav List.mem_cons_self)
          · exact hmax other (List.mem_cons_of_mem _ hrest)

theorem foldl_min (rest : List NAVHistory) (nav : NAVHistory) :
    let best := rest.foldl (fun best other => if other.date < best.date then other else best) nav
    best ∈ nav :: rest ∧ ∀ other ∈ nav :: rest, best.date ≤ other.date := by
  induction rest generalizing nav with
  | nil => exact ⟨List.mem_cons_self, fun other h => by rw [List.mem_singleton.mp h]; exact le_rfl⟩
  | cons a rest ih =>
    rw [List.foldl_cons]
    by_cases hlt : a.date < nav.date
    · rw [if_pos hlt]
      obtain ⟨hmem, hmin⟩ := ih a
      refine ⟨List.mem_cons_of_mem _ hmem, fun other hother => ?_⟩
      rcases List.mem_cons.mp hother with rfl | hrest
      · exact (hmin a List.mem_cons_self).trans hlt.le
      · exact hmin other hrest
    · rw [if_neg hlt]
      obtain ⟨hmem, hmin⟩ := ih nav
      refine ⟨?_, fun other hother => ?_⟩
      · rcases List.mem_cons.mp hmem with h | h
        · rw [h]
          exact List.mem_cons_self
        · exact List.mem_cons_of_mem _ (List.mem_cons_of_mem _ h)
      · rcases List.mem_cons.mp hother with rfl | hother
        · exact hmin _ List.mem_cons_self
        · rcases List.mem_cons.mp hother with rfl | hrest
          · exact (hmin nav List.mem_cons_self).trans (not_lt.mp hlt)
          · exact hmin other (List.mem_cons_of_mem _ hrest)

theorem maxByDate_eq_none : maxByDate navs = none ↔ navs = [] := by
  cases navs <;> simp [maxByDate]

theorem minByDate_eq_none : minByDate navs = none ↔ navs = [] := by
  cases navs <;> simp [minByDate]

/-- Of rows with distinct dates the latest is found. -/
theorem maxByDate_eq_some (hdates : (navs.map (·.date)).Nodup) (hmem : nav ∈ navs)
    (hmax : ∀ other ∈ navs, other.date ≤ nav.date) : maxByDate navs = some nav := by
  cases navs with
  | nil => cases hmem
  | cons first rest =>
    obtain ⟨hbest, hle⟩ := foldl_max rest first
    exact congrArg some (eq_of_key_eq hdates hbest hmem (le_antisymm (hmax _ hbest) (hle _ hmem)))

/-- Of rows with distinct dates the earliest is found. -/
theorem minByDate_eq_some (hdates : (navs.map (·.date)).Nodup) (hmem : nav ∈ navs)
    (hmin : ∀ other ∈ navs, nav.date ≤ other.date) : minByDate navs = some nav := by
  cases navs with
  | nil => cases hmem
  | cons first rest =>
    obtain ⟨hbest, hle⟩ := foldl_min rest first
    exact congrArg some (eq_of_key_eq hdates hbest hmem (le_antisymm (hle _ hmem) (hmin _ hbest)))

theorem filter_dates_nodup (hdates : (navs.map (·.date)).Nodup) (p : NAVHistory → Bool) :
    ((navs.filter p).map (·.date)).Nodup :=
  hdates.sublist (List.filter_sublist.map _)

/-! ## Sorted rows -/

/-- The last of the sorted rows of a filter is the latest of the rows of the filter. -/
theorem getLast?_sortNavs (hdates : (navs.map (·.date)).Nodup) (p : NAVHistory → Bool) :
    ((sortNavs navs).filter p).getLast? = maxByDate (navs.filter p) := by
  cases hlast : ((sortNavs navs).filter p).getLast? with
  | none =>
    rw [List.getLast?_eq_none_iff, List.filter_eq_nil_iff] at hlast
    refine (maxByDate_eq_none.mpr (List.filter_eq_nil_iff.mpr fun nav hnav => ?_)).symm
    exact hlast nav (mem_sortNavs.mpr hnav)
  | some nav =>
    obtain ⟨hmem, hp, hmax⟩ := getLast?_filter_spec (sortNavs_pairwise navs) hlast
    refine (maxByDate_eq_some (filter_dates_nodup hdates p)
      (List.mem_filter.mpr ⟨mem_sortNavs.mp hmem, hp⟩) fun other hother => ?_).symm
    obtain ⟨hin, hpother⟩ := List.mem_filter.mp hother
    exact hmax other (mem_sortNavs.mpr hin) hpother

/-- The first of the sorted rows of a filter, if it is before a date, is the earliest of the rows of the
filter that are before it. -/
theorem head?_sortNavs (hdates : (navs.map (·.date)).Nodup) (p : NAVHistory → Bool) (before : CivilDate) :
    (((sortNavs navs).filter p).head?.filter fun nav => nav.date < before) =
      minByDate (navs.filter fun nav => nav.date < before ∧ p nav) := by
  have hsorted := (sortNavs_pairwise navs).filter p
  have hmem : ∀ nav, nav ∈ (sortNavs navs).filter p ↔ nav ∈ navs ∧ p nav = true := fun nav => by
    rw [List.mem_filter, mem_sortNavs]
  cases hrows : (sortNavs navs).filter p with
  | nil =>
    refine (minByDate_eq_none.mpr (List.filter_eq_nil_iff.mpr fun nav hnav hfound => ?_)).symm
    obtain ⟨-, hp⟩ := of_decide_eq_true hfound
    have hin := (hmem nav).mpr ⟨hnav, hp⟩
    rw [hrows] at hin
    cases hin
  | cons first rest =>
    rw [hrows] at hsorted hmem
    have hle : ∀ nav ∈ first :: rest, first.date ≤ nav.date := by
      intro nav hnav
      rcases List.mem_cons.mp hnav with rfl | hrest
      · exact le_rfl
      · exact (List.pairwise_cons.mp hsorted).1 nav hrest
    obtain ⟨hfirst, hp⟩ := (hmem first).mp List.mem_cons_self
    rw [List.head?_cons]
    by_cases hbefore : first.date < before
    · rw [Option.filter_some, if_pos (decide_eq_true hbefore)]
      refine (minByDate_eq_some (filter_dates_nodup hdates _)
        (List.mem_filter.mpr ⟨hfirst, decide_eq_true ⟨hbefore, hp⟩⟩) fun other hother => ?_).symm
      obtain ⟨hin, hother⟩ := List.mem_filter.mp hother
      exact hle other ((hmem other).mpr ⟨hin, (of_decide_eq_true hother).2⟩)
    · rw [Option.filter_some, if_neg (by simpa using hbefore)]
      refine (minByDate_eq_none.mpr (List.filter_eq_nil_iff.mpr fun nav hnav hfound => ?_)).symm
      obtain ⟨hlt, hpnav⟩ := of_decide_eq_true hfound
      exact hbefore ((hle nav ((hmem nav).mpr ⟨hnav, hpnav⟩)).trans_lt hlt)

end

/-! ## Lookups -/

section
variable {navs : List NAVHistory} (hdates : (navs.map (·.date)).Nodup)
include hdates

theorem findLatestBefore_scan (before : CivilDate) :
    (NavIndex.build navs).findLatestBefore before = scanLatestBefore navs before := by
  rw [NavIndex.findLatestBefore, NavIndex.build, takeWhile_before (sortNavs_pairwise navs)]
  exact getLast?_sortNavs hdates _

theorem findYearEnd_scan (year : Nat) :
    (NavIndex.build navs).findYearEnd year = scanYearEnd navs year :=
  (lookup_lastBy yearOf _ year).trans (getLast?_sortNavs hdates _)

theorem findMonthEndBefore_scan (year month : Nat) :
    (NavIndex.build navs).findMonthEndBefore year month = scanPrevMonthEnd navs year month :=
  (lookup_lastBy monthOf _ _).trans (getLast?_sortNavs hdates _)

theorem findFirstOfMonthBefore_scan (year month : Nat) (before : CivilDate) :
    (NavIndex.build navs).findFirstOfMonthBefore year month before =
      scanFirstInMonthBefore navs year month before := by
  unfold NavIndex.findFirstOfMonthBefore NavIndex.build scanFirstInMonthBefore
  rw [lookup_firstBy, head?_sortNavs hdates]
  simp only [decide_eq_true_eq]

theorem findFirstOfYearBefore_scan (year : Nat) (before : CivilDate) :
    (NavIndex.build navs).findFirstOfYearBefore year before = scanFirstInYearBefore navs year before := by
  unfold NavIndex.findFirstOfYearBefore NavIndex.build scanFirstInYearBefore
  rw [lookup_firstBy, head?_sortNavs hdates]
  simp only [decide_eq_true_eq]

end

/-- Of rows with distinct dates, in any order, every lookup of the index finds the row that the scan of
the rows finds, and none exactly when the scan leaves no rows. -/
theorem index_agrees_with_scan {navs : List NAVHistory} (hdates : (navs.map (·.date)).Nodup) :
    (∀ before, (NavIndex.build navs).findLatestBefore before = scanLatestBefore navs before ∧
      ((NavIndex.build navs).findLatestBefore before = none ↔
        navs.filter (fun nav => nav.date < before) = [])) ∧
    (∀ year, (NavIndex.build navs).findYearEnd year = scanYearEnd navs year ∧
      ((NavIndex.build navs).findYearEnd year = none ↔
        navs.filter (fun nav => yearOf nav = year) = [])) ∧
    (∀ year month, (NavIndex.build navs).findMonthEndBefore year month =
        scanPrevMonthEnd navs year month ∧
      ((NavIndex.build navs).findMonthEndBefore year month = none ↔
        navs.filter (fun nav => monthOf nav = monthBefore year month) = [])) ∧
    (∀ year month before, (NavIndex.build navs).findFirstOfMonthBefore year month before =
        scanFirstInMonthBefore navs year month before ∧
      ((NavIndex.build navs).findFirstOfMonthBefore year month before = none ↔
        navs.filter (fun nav => nav.date < before ∧ monthOf nav = ⟨year, month⟩) = [])) ∧
    (∀ year before, (NavIndex.build navs).findFirstOfYearBefore year before =
        scanFirstInYearBefore navs year before ∧
      ((NavIndex.build navs).findFirstOfYearBefore year before = none ↔
        navs.filter (fun nav => nav.date < before ∧ yearOf nav = year) = [])) ∧
    ∀ d, (NavIndex.build navs).findMtdReturnBase d = scanMtdReturnBase navs d ∧
      (NavIndex.build navs).findYtdReturnBase d = scanYtdReturnBase navs d := by
  refine ⟨fun before => ?_, fun year => ?_, fun year month => ?_, fun year month before => ?_,
    fun year before => ?_, fun d => ⟨?_, ?_⟩⟩
  · rw [findLatestBefore_scan hdates]
    exact ⟨rfl, maxByDate_eq_none⟩
  · rw [findYearEnd_scan hdates]
    exact ⟨rfl, maxByDate_eq_none⟩
  · rw [findMonthEndBefore_scan hdates]
    exact ⟨rfl, maxByDate_eq_none⟩
  · rw [findFirstOfMonthBefore_scan hdates]
    exact ⟨rfl, minByDate_eq_none⟩
  · rw [findFirstOfYearBefore_scan hdates]
    exact ⟨rfl, minByDate_eq_none⟩
  · rw [NavIndex.findMtdReturnBase, NavIndex.findPrevMonthEnd_eq, NavIndex.findFirstInMonthBefore_eq,
      findMonthEndBefore_scan hdates, findFirstOfMonthBefore_scan hdates]
    rfl
  · rw [NavIndex.findYtdReturnBase, NavIndex.findFirstInYearBefore_eq, findYearEnd_scan hdates,
      findFirstOfYearBefore_scan hdates]
    rfl

/-- Two rows of March, the later one first. -/
def marchRows : List NAVHistory :=
  [bareRecord depositDay 110000 110000 1000000, bareRecord Ledger.ledgerDate 100000 100000 1000000]

/-- The earlier of the two rows is the latest one before the later row's date. -/
theorem march_index_agrees :
    (NavIndex.build marchRows).findLatestBefore depositDay = scanLatestBefore marchRows depositDay ∧
      scanLatestBefore marchRows depositDay =
        some (bareRecord Ledger.ledgerDate 100000 100000 1000000) :=
  ⟨((index_agrees_with_scan (by decide : (marchRows.map (·.date)).Nodup)).1 depositDay).1,
    by decide⟩

end PortfolioManagement.Nav
