import PortfolioManagement.Nav.LinearScan
import PortfolioManagement.Nav.Preview

/-!
# The returns of a report

A daily report calculates the returns of the month, of the year and since the inception from the NAV series,
and the recorded row carries its own. For the latest row of a period both are the return against one base
record; where the writer has no base the report measures the row against itself.
-/

namespace PortfolioManagement.Nav

open Ledger (YearMonth)

/-! ## Returns -/

/-- The return of a period: what `calc_month_return` and `calc_year_return` answer when they succeed. -/
structure PeriodReturn where
  /-- `return_pct` -/
  returnPct : ℚ
  /-- `start_nav` -/
  startNav : Option Micro
  /-- `end_nav` -/
  endNav : Option Micro
  /-- `start_date` -/
  startDate : CivilDate
  /-- `end_date` -/
  endDate : CivilDate
  /-- whether `base` names the end of the period before -/
  fromPrevious : Bool
deriving DecidableEq

/-- `'>' not supported`: a row without a NAV is compared. -/
def noNav : Error := ⟨.typeError, "'>' not supported between instances of 'NoneType' and 'int'"⟩

/-- The return between two rows. -/
def returnBetween (startNav endNav : NAVHistory) (fromPrevious : Bool) : Except Error PeriodReturn :=
  let result (pct : ℚ) : PeriodReturn :=
    ⟨pct, startNav.nav, endNav.nav, startNav.date, endNav.date, fromPrevious⟩
  match startNav.nav with
  | none => .error noNav
  | some start =>
    if 0 < start then
      match endNav.nav with
      | none => .error ⟨.typeError, "unsupported operand type(s) for -: 'NoneType' and 'float'"⟩
      | some stop => .ok (result ((stop.toDecimal - start.toDecimal) / start.toDecimal * 100))
    else .ok (result 0)

section
variable {κ : Type} [DecidableEq κ] (key : NAVHistory → κ)

/-- A return of a period, by the key of the period and of the one before; none where the period has no
rows. -/
def periodReturn (period previous : κ) (navs : List NAVHistory) : Except Error (Option PeriodReturn) :=
  let rows := (sortNavs navs).filter fun nav => key nav = period
  let previousRows := (sortNavs navs).filter fun nav => key nav = previous
  match maxByDate rows, (maxByDate previousRows).or (minByDate rows) with
  | some endNav, some startNav =>
    (returnBetween startNav endNav (previousRows ≠ [])).map some
  | _, _ => .ok none

end

/-- `calc_month_return`. -/
def calcMonthReturn (month : YearMonth) (navs : List NAVHistory) : Except Error (Option PeriodReturn) :=
  periodReturn monthOf month (monthBefore month.year month.month) navs

/-- `calc_year_return`. -/
def calcYearReturn (year : Nat) (navs : List NAVHistory) : Except Error (Option PeriodReturn) :=
  periodReturn yearOf year (year - 1) navs

/-- The return since the inception, when `calc_since_inception_return` succeeds. -/
structure InceptionReturn where
  /-- `total_return_pct` -/
  totalReturnPct : ℚ
  /-- `cagr_pct` -/
  cagrPct : ℚ
  /-- `days` -/
  days : Int
  /-- `start_date` -/
  startDate : CivilDate
  /-- `actual_start_nav` -/
  actualStartNav : Micro
  /-- `actual_latest_nav` -/
  actualLatestNav : Micro
deriving DecidableEq

/-- `calc_since_inception_return`; the rounded `latest_nav` is left out. -/
def calcSinceInceptionReturn (rt : Runtime) (navs : List NAVHistory) (startYear : Nat) :
    Except Error (Option InceptionReturn) :=
  match CivilDate.make? (startYear - 1) 12 31 with
  | none => .error (.value "year is out of range")
  | some baseDate =>
    match maxByDate ((sortNavs navs).filter fun nav => nav.date ≤ baseDate), (sortNavs navs).getLast? with
    | some base, some latest =>
      match base.nav with
      | none => .ok none
      | some start =>
        if start ≤ 0 then .ok none
        else
          match latest.nav with
          | none => .error ⟨.typeError, "unsupported operand type(s) for /: 'NoneType' and 'float'"⟩
          | some last =>
            let normalized := last.toDecimal / start.toDecimal
            let days := latest.date.daysSince baseDate
            let years : ℚ := days / (1461 / 4)
            .ok (some
              { totalReturnPct := (normalized - 1) * 100
                cagrPct := if 0 < years then (rt.power normalized (1 / years) - 1) * 100 else 0
                days := days
                startDate := baseDate
                actualStartNav := start
                actualLatestNav := last })
    | _, _ => .ok none

/-! ## The series of a report -/

/-- The loop of `_replace_nav_for_date`: the row takes the place of the first row of its date, and no other
row of the date stays. -/
def mergeNav (r : NAVHistory) : Bool → List NAVHistory → List NAVHistory
  | replaced, [] => if replaced then [] else [r]
  | replaced, nav :: rest =>
    if nav.date = r.date then
      if replaced then mergeNav r true rest else r :: mergeNav r true rest
    else nav :: mergeNav r replaced rest

/-- `_replace_nav_for_date`. -/
def replaceNavForDate (navs : List NAVHistory) (r : NAVHistory) : List NAVHistory :=
  sortNavs (mergeNav r false (sortNavs navs))

section
variable {r nav : NAVHistory} {navs : List NAVHistory}

/-- The rows of other dates stay. -/
theorem mergeNav_perm (replaced : Bool) (rows : List NAVHistory) :
    (mergeNav r replaced rows).Perm
      ((if replaced then [] else [r]) ++ rows.filter fun nav => nav.date ≠ r.date) := by
  induction rows generalizing replaced with
  | nil => cases replaced <;> exact List.Perm.refl _
  | cons nav rest ih =>
    unfold mergeNav
    by_cases hdate : nav.date = r.date
    · have hskip : (nav :: rest).filter (fun nav => decide (nav.date ≠ r.date)) =
          rest.filter fun nav => nav.date ≠ r.date := List.filter_cons_of_neg (by simpa using hdate)
      rw [if_pos hdate, hskip]
      cases replaced with
      | true => exact ih true
      | false => exact (ih true).cons r
    · have hkeep : (nav :: rest).filter (fun nav => decide (nav.date ≠ r.date)) =
          nav :: rest.filter fun nav => nav.date ≠ r.date := List.filter_cons_of_pos (by simpa using hdate)
      rw [if_neg hdate, hkeep]
      exact ((ih replaced).cons nav).trans List.perm_middle.symm

theorem replaceNavForDate_perm :
    (replaceNavForDate navs r).Perm (r :: navs.filter fun nav => nav.date ≠ r.date) :=
  (List.perm_insertionSort _ _).trans ((mergeNav_perm false _).trans
    (((List.perm_insertionSort _ navs).filter _).cons r))

end

/-! ## The latest and the earliest row -/

section
variable {rows rows' : List NAVHistory} {nav : NAVHistory}

theorem maxByDate_ok (h : maxByDate rows = some nav) :
    nav ∈ rows ∧ ∀ other ∈ rows, other.date ≤ nav.date := by
  cases rows with
  | nil => cases h
  | cons first rest =>
    cases h
    exact foldl_max rest first

theorem minByDate_ok (h : minByDate rows = some nav) :
    nav ∈ rows ∧ ∀ other ∈ rows, nav.date ≤ other.date := by
  cases rows with
  | nil => cases h
  | cons first rest =>
    cases h
    exact foldl_min rest first

/-- Of rows with distinct dates the latest one does not depend on their order. -/
theorem maxByDate_perm (h : rows.Perm rows') (hdates : (rows'.map (·.date)).Nodup) :
    maxByDate rows = maxByDate rows' := by
  have hdates' : (rows.map (·.date)).Nodup := (h.map _).nodup_iff.mpr hdates
  cases hmax : maxByDate rows' with
  | none =>
    rw [maxByDate_eq_none] at hmax ⊢
    exact List.Perm.eq_nil (hmax ▸ h)
  | some nav =>
    obtain ⟨hmem, hle⟩ := maxByDate_ok hmax
    exact maxByDate_eq_some hdates' (h.mem_iff.mpr hmem) fun other hother => hle other (h.mem_iff.mp hother)

end

/-! ## The latest row of a period -/

section
variable {κ : Type} [DecidableEq κ] {key : NAVHistory → κ} {period previous : κ}
  {merged others : List NAVHistory} {r : NAVHistory}

/-- The base record of a row among the others: the last one of the period before, or the first earlier one
of its own period. -/
def returnBase (key : NAVHistory → κ) (period previous : κ) (others : List NAVHistory) (r : NAVHistory) :
    Option NAVHistory :=
  (maxByDate (others.filter fun nav => key nav = previous)).or
    (minByDate (others.filter fun nav => nav.date < r.date ∧ key nav = period))

/-- The return of a period that ends with a row is the one against its base record, or against itself. -/
theorem periodReturn_of_last (hperm : merged.Perm (r :: others))
    (hdates : ((r :: others).map (·.date)).Nodup) (hr : key r = period) (hne : previous ≠ period)
    (hlast : ∀ nav ∈ others, key nav = period → nav.date ≤ r.date) :
    ∃ fromPrevious, periodReturn key period previous merged =
      (returnBetween ((returnBase key period previous others r).getD r) r fromPrevious).map some := by
  have hsorted : (sortNavs merged).Perm (r :: others) := (List.perm_insertionSort _ _).trans hperm
  have hmem : ∀ nav, nav ∈ sortNavs merged ↔ nav = r ∨ nav ∈ others := fun nav =>
    hsorted.mem_iff.trans List.mem_cons
  have hdates' : ((sortNavs merged).map (·.date)).Nodup := (hsorted.map _).nodup_iff.mpr hdates
  have hend : maxByDate ((sortNavs merged).filter fun nav => key nav = period) = some r := by
    refine maxByDate_eq_some (filter_dates_nodup hdates' _)
      (List.mem_filter.mpr ⟨(hmem r).mpr (.inl rfl), decide_eq_true hr⟩) fun other hother => ?_
    obtain ⟨hin, hkey⟩ := List.mem_filter.mp hother
    rcases (hmem other).mp hin with rfl | hin
    · exact le_rfl
    · exact hlast other hin (of_decide_eq_true hkey)
  have hprevious : maxByDate ((sortNavs merged).filter fun nav => key nav = previous) =
      maxByDate (others.filter fun nav => key nav = previous) := by
    have hskip : (r :: others).filter (fun nav => decide (key nav = previous)) =
        others.filter fun nav => key nav = previous :=
      List.filter_cons_of_neg (by simpa [hr] using hne.symm)
    refine maxByDate_perm (hskip ▸ hsorted.filter _) (filter_dates_nodup (List.nodup_cons.mp hdates).2 _)
  have hfirst : minByDate ((sortNavs merged).filter fun nav => key nav = period) =
      some ((minByDate (others.filter fun nav => nav.date < r.date ∧ key nav = period)).getD r) := by
    cases hmin : minByDate (others.filter fun nav => nav.date < r.date ∧ key nav = period) with
    | none =>
      -- the row is the first one of its period
      refine minByDate_eq_some (filter_dates_nodup hdates' _)
        (List.mem_filter.mpr ⟨(hmem r).mpr (.inl rfl), decide_eq_true hr⟩) fun other hother => ?_
      obtain ⟨hin, hkey⟩ := List.mem_filter.mp hother
      rcases (hmem other).mp hin with rfl | hin
      · exact le_rfl
      · have hnone := List.filter_eq_nil_iff.mp (minByDate_eq_none.mp hmin) other hin
        exact not_lt.mp fun hlt => hnone (decide_eq_true ⟨hlt, of_decide_eq_true hkey⟩)
    | some first =>
      obtain ⟨hfound, hle⟩ := minByDate_ok hmin
      obtain ⟨hin, hcond⟩ := List.mem_filter.mp hfound
      obtain ⟨hbefore, hkey⟩ := of_decide_eq_true hcond
      refine minByDate_eq_some (filter_dates_nodup hdates' _)
        (List.mem_filter.mpr ⟨(hmem first).mpr (.inr hin), decide_eq_true hkey⟩) fun other hother => ?_
      obtain ⟨hotherin, hotherkey⟩ := List.mem_filter.mp hother
      rcases (hmem other).mp hotherin with rfl | hotherin
      · exact hbefore.le
      · rcases lt_or_ge other.date r.date with hlt | hge
        · exact hle other (List.mem_filter.mpr ⟨hotherin, decide_eq_true ⟨hlt, of_decide_eq_true hotherkey⟩⟩)
        · exact hbefore.le.trans hge
  unfold periodReturn returnBase
  simp only [hend, hprevious, hfirst]
  cases maxByDate (others.filter fun nav => key nav = previous) with
  | none => exact ⟨_, rfl⟩
  | some base => exact ⟨_, rfl⟩

end

/-! ## Returns and stored changes -/

/-- A return that ends with a row shows the change that is stored with the row. Without a stored change
the row is measured against itself. -/
def ShowsChange (r : NAVHistory) (stored : Option Micro) (ret : PeriodReturn) : Prop :=
  ret.endDate = r.date ∧
    match stored with
    | some change => change = quantizeNav (ret.returnPct / 100) ∧ ret.startDate < r.date
    | none => ret.returnPct = 0 ∧ ret.startDate = r.date

section
variable {r : NAVHistory} {base : Option NAVHistory}

/-- A change against a base record is shown. -/
theorem returnBetween_shows {nav : Micro} (hnav : r.nav = some nav)
    (hbase : ∀ b ∈ base, b.date < r.date ∧ ∃ start, b.nav = some start ∧ 0 < start) (fromPrevious : Bool) :
    ∃ ret, returnBetween (base.getD r) r fromPrevious = .ok ret ∧
      ShowsChange r ((navChange nav base).map quantizeNav) ret := by
  cases base with
  | none =>
    have hself : (if 0 < nav then (nav.toDecimal - nav.toDecimal) / nav.toDecimal * 100 else 0) = (0 : ℚ) := by
      rw [sub_self, zero_div, zero_mul, ite_self]
    unfold returnBetween
    simp only [Option.getD_none, hnav]
    by_cases hpos : 0 < nav
    · rw [if_pos hpos]
      refine ⟨_, rfl, rfl, ?_, rfl⟩
      rw [if_pos hpos] at hself
      exact hself
    · rw [if_neg hpos]
      exact ⟨_, rfl, rfl, rfl, rfl⟩
  | some b =>
    obtain ⟨hbefore, start, hstart, hpos⟩ := hbase b rfl
    have hchange : navChange nav (some b) = some ((nav.toDecimal - start.toDecimal) / start.toDecimal) := by
      unfold navChange
      simp only [Option.bind_some, hstart, if_neg (not_le.mpr hpos), calcPeriodReturn, Option.getD_some]
    unfold returnBetween
    simp only [Option.getD_some, hstart, if_pos hpos, hnav]
    refine ⟨_, rfl, rfl, ?_⟩
    rw [hchange, Option.map_some]
    refine ⟨?_, hbefore⟩
    rw [mul_div_cancel_right₀ _ (by norm_num : (100 : ℚ) ≠ 0)]

end

/-! ## Base records -/

section
variable {navs : List NAVHistory} {r : NAVHistory}

/-- Rows that are not of the date of a row. -/
def otherRows (navs : List NAVHistory) (r : NAVHistory) : List NAVHistory :=
  navs.filter fun nav => nav.date ≠ r.date

theorem otherRows_dates (hdates : (navs.map (·.date)).Nodup) :
    ((r :: otherRows navs r).map (·.date)).Nodup := by
  refine List.nodup_cons.mpr ⟨fun hmem => ?_, filter_dates_nodup hdates _⟩
  obtain ⟨nav, hnav, hdate⟩ := List.mem_map.mp hmem
  exact of_decide_eq_true (List.mem_filter.mp hnav).2 hdate

/-- A base record is an earlier row. -/
theorem returnBase_earlier {κ : Type} [DecidableEq κ] {key : NAVHistory → κ} {period previous : κ}
    (hprevious : ∀ nav ∈ navs, key nav = previous → nav.date < r.date) :
    ∀ b ∈ returnBase key period previous (otherRows navs r) r, b ∈ navs ∧ b.date < r.date := by
  intro b hb
  unfold returnBase at hb
  cases hmax : maxByDate ((otherRows navs r).filter fun nav => key nav = previous) with
  | some last =>
    rw [hmax, Option.some_or, Option.mem_some_iff] at hb
    subst hb
    obtain ⟨hmem, hkey⟩ := List.mem_filter.mp (maxByDate_ok hmax).1
    have hin := (List.mem_filter.mp hmem).1
    exact ⟨hin, hprevious last hin (of_decide_eq_true hkey)⟩
  | none =>
    rw [hmax, Option.none_or] at hb
    obtain ⟨hmem, hcond⟩ := List.mem_filter.mp (minByDate_ok hb).1
    exact ⟨(List.mem_filter.mp hmem).1, (of_decide_eq_true hcond).1⟩

/-- Rows of the period before and earlier rows of the period are rows of other dates. -/
theorem returnBase_otherRows {κ : Type} [DecidableEq κ] {key : NAVHistory → κ} {period previous : κ}
    (hprevious : ∀ nav ∈ navs, key nav = previous → nav.date < r.date) :
    returnBase key period previous (otherRows navs r) r = returnBase key period previous navs r := by
  unfold returnBase otherRows
  rw [List.filter_filter, List.filter_filter]
  congr 2
  · refine List.filter_congr fun nav hnav => ?_
    by_cases hkey : key nav = previous
    · simp [hkey, (hprevious nav hnav hkey).ne]
    · simp [hkey]
  · refine List.filter_congr fun nav _ => ?_
    by_cases hlt : nav.date < r.date
    · simp [hlt, hlt.ne]
    · simp [hlt]

theorem findMtdReturnBase_eq (hdates : (navs.map (·.date)).Nodup) :
    (NavIndex.build navs).findMtdReturnBase r.date =
      returnBase monthOf (monthOf r) (monthBefore r.date.year r.date.month) navs r := by
  rw [NavIndex.findMtdReturnBase, NavIndex.findPrevMonthEnd_eq, NavIndex.findFirstInMonthBefore_eq,
    findMonthEndBefore_scan hdates, findFirstOfMonthBefore_scan hdates]
  rfl

theorem findYtdReturnBase_eq (hdates : (navs.map (·.date)).Nodup) :
    (NavIndex.build navs).findYtdReturnBase r.date =
      returnBase yearOf (yearOf r) (r.date.year - 1) navs r := by
  rw [NavIndex.findYtdReturnBase, findYearEnd_scan hdates, NavIndex.findFirstInYearBefore_eq,
    findFirstOfYearBefore_scan hdates]
  rfl

/-- What a writer compares with is the base of the returns. -/
theorem monthBaseNav_eq (config : NavConfig) (summary : Ledger.Summary) :
    (periodInputs config navs r.date summary).monthBaseNav =
      (NavIndex.build navs).findMtdReturnBase r.date := by
  unfold PeriodInputs.monthBaseNav periodInputs NavIndex.findMtdReturnBase
  cases (NavIndex.build navs).findPrevMonthEnd r.date <;> simp

theorem yearBaseNav_eq (config : NavConfig) (summary : Ledger.Summary) :
    (periodInputs config navs r.date summary).yearBaseNav =
      (NavIndex.build navs).findYtdReturnBase r.date := by
  unfold PeriodInputs.yearBaseNav periodInputs NavIndex.findYtdReturnBase
  cases (NavIndex.build navs).findYearEnd (r.date.year - 1) <;> simp

end

/-! ## The return since the inception -/

section
variable {rt : Runtime} {navs : List NAVHistory} {r : NAVHistory} {startYear : Nat}

/-- A date is not after the last day of a year if its year is not. -/
theorem le_yearEnd_iff {year : Nat} {last d : CivilDate} (h : CivilDate.make? year 12 31 = some last) :
    d ≤ last ↔ d.year ≤ year := by
  obtain ⟨hyear, hmonth, hday⟩ := Ledger.make?_eq h
  have hm := d.month_le
  have hd := d.day_le
  rw [CivilDate.le_iff_stamp, CivilDate.stamp, CivilDate.stamp, hyear, hmonth, hday]
  have h1 := d.one_le_month
  omega

/-- There is a last day of every year that has a date. -/
theorem yearEnd_exists {year : Nat} (h1 : 1 ≤ year) (h2 : year ≤ 9999) :
    ∃ last, CivilDate.make? year 12 31 = some last := by
  unfold CivilDate.make?
  have hdays : daysInMonth year 12 = 31 := rfl
  rw [dif_pos (by unfold ValidDate; rw [hdays]; omega)]
  exact ⟨_, rfl⟩

/-- The return since the inception of the latest row is the one against the last row of the year before
the first one; rows of earlier years do not count where that year has rows. -/
theorem calcSinceInceptionReturn_of_last (hdates : (navs.map (·.date)).Nodup)
    (hpositive : ∀ nav ∈ navs, ∃ n, nav.nav = some n ∧ 0 < n) {nav : Micro} (hnav : r.nav = some nav)
    (hyear : 1 < startYear) (hbound : startYear ≤ r.date.year) (hlast : ∀ nav ∈ navs, nav.date ≤ r.date)
    (hold : (∃ nav ∈ navs, yearOf nav + 1 < startYear) → ∃ nav ∈ navs, yearOf nav + 1 = startYear) :
    ∃ total, calcSinceInceptionReturn rt (replaceNavForDate navs r) startYear = .ok total ∧
      ((NavIndex.build navs).findYearEnd (startYear - 1)).elim 0
          (fun base => calcPeriodReturn (some nav) base.nav) =
        total.elim 0 fun t => t.totalReturnPct / 100 := by
  obtain ⟨baseDate, hbaseDate⟩ : ∃ last, CivilDate.make? (startYear - 1) 12 31 = some last :=
    yearEnd_exists (by omega) (by have := r.date.valid.2.1; omega)
  have hperm : (sortNavs (replaceNavForDate navs r)).Perm (r :: otherRows navs r) :=
    (List.perm_insertionSort _ _).trans replaceNavForDate_perm
  have hmem : ∀ nav, nav ∈ sortNavs (replaceNavForDate navs r) ↔ nav = r ∨ nav ∈ otherRows navs r := fun nav =>
    hperm.mem_iff.trans List.mem_cons
  have hnodup : ((sortNavs (replaceNavForDate navs r)).map (·.date)).Nodup :=
    (hperm.map _).nodup_iff.mpr (otherRows_dates hdates)
  -- the row is the latest one
  have hlatest : (sortNavs (replaceNavForDate navs r)).getLast? = some r := by
    have hmax := getLast?_sortNavs ((replaceNavForDate_perm.map _).nodup_iff.mpr
      (otherRows_dates (r := r) hdates)) fun _ => true
    rw [List.filter_true, List.filter_true] at hmax
    rw [hmax]
    refine maxByDate_eq_some ((replaceNavForDate_perm.map _).nodup_iff.mpr (otherRows_dates hdates))
      (replaceNavForDate_perm.mem_iff.mpr List.mem_cons_self) fun other hother => ?_
    rcases List.mem_cons.mp (replaceNavForDate_perm.mem_iff.mp hother) with rfl | hin
    · exact le_rfl
    · exact hlast other (List.mem_filter.mp hin).1
  have hbase : maxByDate ((sortNavs (replaceNavForDate navs r)).filter fun nav => nav.date ≤ baseDate) =
      (NavIndex.build navs).findYearEnd (startYear - 1) := by
    have hcandidate : ∀ nav, nav ∈ (sortNavs (replaceNavForDate navs r)).filter
        (fun nav => nav.date ≤ baseDate) ↔ nav ∈ navs ∧ nav.date.year ≤ startYear - 1 := by
      intro nav
      rw [List.mem_filter, decide_eq_true_iff, le_yearEnd_iff hbaseDate, hmem, otherRows, List.mem_filter,
        decide_eq_true_iff]
      constructor
      · rintro ⟨rfl | ⟨hin, -⟩, hle⟩
        · omega
        · exact ⟨hin, hle⟩
      · rintro ⟨hin, hle⟩
        refine ⟨.inr ⟨hin, fun hdate => ?_⟩, hle⟩
        rw [hdate] at hle
        omega
    rw [findYearEnd_scan hdates, scanYearEnd]
    cases hend : maxByDate (navs.filter fun nav => yearOf nav = startYear - 1) with
    | none =>
      have hempty := List.filter_eq_nil_iff.mp (maxByDate_eq_none.mp hend)
      refine maxByDate_eq_none.mpr (List.eq_nil_iff_forall_not_mem.mpr fun nav hin => ?_)
      obtain ⟨hin, hle⟩ := (hcandidate nav).mp hin
      have hno : ∀ other ∈ navs, yearOf other ≠ startYear - 1 := fun other hother heq =>
        hempty other hother (decide_eq_true heq)
      have hlt : yearOf nav + 1 < startYear := by
        have := hno nav hin
        unfold yearOf at this ⊢
        omega
      obtain ⟨other, hother, heq⟩ := hold ⟨nav, hin, hlt⟩
      exact hno other hother (by omega)
    | some base =>
      obtain ⟨hfound, hle⟩ := maxByDate_ok hend
      obtain ⟨hin, hkey⟩ := List.mem_filter.mp hfound
      have hbaseYear : yearOf base = startYear - 1 := of_decide_eq_true hkey
      refine maxByDate_eq_some (filter_dates_nodup hnodup _)
        ((hcandidate base).mpr ⟨hin, hbaseYear.le⟩) fun other hother => ?_
      obtain ⟨hotherin, hotherle⟩ := (hcandidate other).mp hother
      by_cases hsame : yearOf other = startYear - 1
      · exact hle other (List.mem_filter.mpr ⟨hotherin, decide_eq_true hsame⟩)
      · refine (CivilDate.lt_of_year_lt ?_).le
        unfold yearOf at hsame hbaseYear
        omega
  unfold calcSinceInceptionReturn
  simp only [hbaseDate, hlatest, hbase]
  cases hend : (NavIndex.build navs).findYearEnd (startYear - 1) with
  | none => exact ⟨none, rfl, rfl⟩
  | some base =>
    have hin : base ∈ navs := by
      rw [findYearEnd_scan hdates] at hend
      exact (List.mem_filter.mp (maxByDate_ok hend).1).1
    obtain ⟨start, hstart, hpos⟩ := hpositive base hin
    simp only [hstart, if_neg (not_le.mpr hpos), hnav]
    refine ⟨_, rfl, ?_⟩
    have hne : start.toDecimal ≠ 0 := by
      rw [Micro.toDecimal]
      exact div_ne_zero (Int.cast_ne_zero.mpr hpos.ne') (by norm_num)
    simp only [Option.elim_some, calcPeriodReturn, hstart, if_neg (not_le.mpr hpos), Option.getD_some]
    rw [mul_div_cancel_right₀ _ (by norm_num : (100 : ℚ) ≠ 0), sub_div, div_self hne]

end

/-! ## Recorded rows -/

section
variable {lrt : Ledger.Runtime} {rt : Runtime} {config : NavConfig} {account : String}
  {rows : List Ledger.RawCashFlowRecord} {navs : List NAVHistory} {run : NavRun rt} {r : NAVHistory}
  {ds : Ledger.CashFlowDatasetSnapshot} {p : NavValuationProjection} {m : NavMetrics}

theorem yearOf_previous_ne (r : NAVHistory) : r.date.year - 1 ≠ yearOf r := by
  have := r.date.valid.1
  unfold yearOf
  omega

theorem monthOf_previous_ne (r : NAVHistory) : monthBefore r.date.year r.date.month ≠ monthOf r := by
  intro heq
  have hmonth := congrArg YearMonth.month heq
  have h1 := r.date.one_le_month
  unfold monthBefore monthOf Ledger.monthKey at hmonth
  split at hmonth
  · simp only at hmonth
    omega
  · simp only at hmonth
    omega

/-- A return of a period that a recorded row ends shows the change it was recorded with. -/
theorem periodReturn_shows {κ : Type} [DecidableEq κ] {key : NAVHistory → κ} {previous : κ} {nav : Micro}
    (hdates : (navs.map (·.date)).Nodup) (hpositive : ∀ nav ∈ navs, ∃ n, nav.nav = some n ∧ 0 < n)
    (hnav : r.nav = some nav) (hprevious : ∀ nav ∈ navs, key nav = previous → nav.date < r.date)
    (hne : previous ≠ key r) (hlast : ∀ nav ∈ navs, key nav = key r → nav.date ≤ r.date) :
    ∃ ret, periodReturn key (key r) previous (replaceNavForDate navs r) = .ok (some ret) ∧
      ShowsChange r ((navChange nav (returnBase key (key r) previous navs r)).map quantizeNav) ret := by
  obtain ⟨fromPrevious, hreturn⟩ := periodReturn_of_last (replaceNavForDate_perm (r := r))
    (otherRows_dates hdates) rfl hne fun nav hnav => hlast nav (List.mem_filter.mp hnav).1
  have hbase : returnBase key (key r) previous (otherRows navs r) r = _ := returnBase_otherRows hprevious
  have hearlier : ∀ b ∈ returnBase key (key r) previous (otherRows navs r) r, b ∈ navs ∧ b.date < r.date :=
    returnBase_earlier hprevious
  rw [hbase] at hearlier
  obtain ⟨ret, hret, hshows⟩ := returnBetween_shows hnav (fun b hb =>
    ⟨(hearlier b hb).2, hpositive b (hearlier b hb).1⟩) fromPrevious
  refine ⟨ret, ?_, hshows⟩
  rw [hreturn]
  show Except.map some (returnBetween ((returnBase key (key r) previous (otherRows navs r) r).getD r) r
    fromPrevious) = _
  rw [hbase, hret]
  rfl

theorem calcNavMetrics_cumulative {today : CivilDate} {total : ℚ} {yearlyData : Items String YearData}
    {startYear : Nat} {x : PeriodInputs}
    (h : calcNavMetrics rt today total x.lastNav yearlyData startYear x = .ok m) :
    m.cumulativeNavChange = (firstBaseOf yearlyData startYear).elim 0 fun base =>
      calcPeriodReturn (some m.nav) base.nav := by
  simp only [calcNavMetrics, bind, Except.bind, pure, Except.pure] at h
  split at h
  · cases h
  split at h
  · cases h
  · cases h
    rfl

/-- The numbers of a recorded row that a report shows. -/
theorem RecordedFrom.changes (h : RecordedFrom lrt config account rows navs run r ds p m) :
    r.date = run.navDate ∧ ∃ nav, r.nav = some nav ∧
      r.mtdNavChange = (navChange nav ((NavIndex.build navs).findMtdReturnBase r.date)).map quantizeNav ∧
      r.ytdNavChange = (navChange nav ((NavIndex.build navs).findYtdReturnBase r.date)).map quantizeNav ∧
      r.details.bind (·.cumulativeNavChange) = some (quantizeNav
        ((firstBaseOf (yearlyDataOf (NavIndex.build navs) config.startYear run.navDate
          (summaryFor ds navs run.navDate)) config.startYear).elim 0
            fun base => calcPeriodReturn (some nav) base.nav)) := by
  obtain ⟨finality, basis, hrow⟩ := h.row
  have hdate : r.date = run.navDate := by
    rw [hrow]
    rfl
  have hmetrics := h.metrics
  obtain ⟨evidence, -, hm⟩ := calcNavMetrics_ok
    (x := periodInputs config navs run.navDate (summaryFor ds navs run.navDate)) hmetrics
  have hcumulative := calcNavMetrics_cumulative
    (x := periodInputs config navs run.navDate (summaryFor ds navs run.navDate)) hmetrics
  have hmonth := hm.monthNavChange
  have hyear := hm.yearNavChange
  rw [← hdate, monthBaseNav_eq] at hmonth
  rw [← hdate, yearBaseNav_eq] at hyear
  refine ⟨hdate, m.nav, ?_, ?_, ?_, ?_⟩
  · rw [hrow]
    show some (quantizeNav m.nav.toDecimal) = some m.nav
    rw [quantizeNav_toDecimal]
  · rw [← calcMtdNavChange, ← hmonth, hrow]
    rfl
  · rw [← calcYtdNavChange, ← hyear, hrow]
    rfl
  · rw [← hcumulative, hrow]
    rfl

end

end PortfolioManagement.Nav
