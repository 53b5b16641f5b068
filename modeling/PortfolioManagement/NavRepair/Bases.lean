import PortfolioManagement.Lib.Keyed
import PortfolioManagement.Nav.RecordNav

/-!
# The rows a date depends on

The base records of a date are chosen by the dates of the rows alone. So replacing rows by others of the
same dates changes the inputs of a calculation only through the chosen rows: the row before the date, the
ends of the month and the year before, the first rows of the month and the year, and the earliest row.
-/

namespace PortfolioManagement.NavRepair

open Nav

/-! ## Choosing by date -/

section
variable {α : Type} (day : α → CivilDate) (rows : List α) (d : CivilDate)

/-- The rows of a condition, by date. -/
def rowsOn (p : CivilDate → Bool) : List α := (sortBy day rows).filter fun a => p (day a)

/-- The last row before a date. -/
def latestBefore : Option α := (rowsOn day rows fun e => e < d).getLast?

/-- The last row of a year. -/
def yearEndRow (year : Nat) : Option α := (rowsOn day rows fun e => e.year = year).getLast?

/-- The last row of the month before a date. -/
def prevMonthEndRow : Option α :=
  (rowsOn day rows fun e => Ledger.monthKey e = NavIndex.prevMonth d).getLast?

/-- The first row of the month of a date, if it is before the date. -/
def firstInMonthRow : Option α :=
  ((rowsOn day rows fun e => Ledger.monthKey e = Ledger.monthKey d).head?).filter fun a => day a < d

/-- The first row of the year of a date, if it is before the date. -/
def firstInYearRow : Option α :=
  ((rowsOn day rows fun e => e.year = d.year).head?).filter fun a => day a < d

/-- The earliest row. -/
def earliestRow : Option α := (sortBy day rows).head?

/-- The base of a month's change. -/
def monthBaseRow : Option α := (prevMonthEndRow day rows d).or (firstInMonthRow day rows d)

/-- The base of a year's change. -/
def yearBaseRow : Option α := (yearEndRow day rows (d.year - 1)).or (firstInYearRow day rows d)

variable {rows day} {a : α}

theorem mem_of_getLast?_rowsOn {p : CivilDate → Bool} (h : (rowsOn day rows p).getLast? = some a) :
    a ∈ rows ∧ p (day a) = true := by
  obtain ⟨hmem, hp⟩ := List.mem_filter.mp (List.mem_of_getLast? h)
  exact ⟨mem_sortBy.mp hmem, hp⟩

end

/-! ## The index of rows -/

section
variable {α : Type} {day : α → CivilDate} {n : α → NAVHistory} {rows : List α} {d : CivilDate}

theorem sortNavs_map (hn : ∀ a, (n a).date = day a) :
    sortNavs (rows.map n) = (sortBy day rows).map n :=
  (List.map_insertionSort _ _ n rows fun a _ b _ => by rw [hn, hn]).symm

theorem filter_sortNavs_map (hn : ∀ a, (n a).date = day a) (p : CivilDate → Bool) :
    (sortNavs (rows.map n)).filter (fun nav => p nav.date) = (rowsOn day rows p).map n := by
  rw [sortNavs_map hn, List.filter_map]
  unfold rowsOn
  congr 1
  exact List.filter_congr fun a _ => by rw [Function.comp_apply, hn]

theorem findLatestBefore_map (hn : ∀ a, (n a).date = day a) :
    (NavIndex.build (rows.map n)).findLatestBefore d = (latestBefore day rows d).map n := by
  rw [NavIndex.findLatestBefore, NavIndex.build, takeWhile_before (sortNavs_pairwise _),
    filter_sortNavs_map hn fun e => e < d, List.getLast?_map]
  rfl

theorem lookup_lastBy_map {κ : Type} [DecidableEq κ] (hn : ∀ a, (n a).date = day a)
    (key : CivilDate → κ) (k : κ) :
    (lastBy (fun nav => key nav.date) (sortNavs (rows.map n))).lookup k =
      ((rowsOn day rows fun e => key e = k).getLast?).map n := by
  rw [lookup_lastBy, filter_sortNavs_map hn fun e => key e = k, List.getLast?_map]

theorem lookup_firstBy_map {κ : Type} [DecidableEq κ] (hn : ∀ a, (n a).date = day a)
    (key : CivilDate → κ) (k : κ) :
    ((firstBy (fun nav => key nav.date) (sortNavs (rows.map n))).lookup k).filter
        (fun nav => nav.date < d) =
      (((rowsOn day rows fun e => key e = k).head?).filter fun a => day a < d).map n := by
  rw [lookup_firstBy, filter_sortNavs_map hn fun e => key e = k, List.head?_map]
  cases (rowsOn day rows fun e => key e = k).head? with
  | none => rfl
  | some a =>
    rw [Option.map_some, Option.filter_some, Option.filter_some, hn]
    split <;> rfl

theorem findYearEnd_map (hn : ∀ a, (n a).date = day a) (year : Nat) :
    (NavIndex.build (rows.map n)).findYearEnd year = (yearEndRow day rows year).map n :=
  lookup_lastBy_map hn (fun e => e.year) year

theorem findPrevMonthEnd_map (hn : ∀ a, (n a).date = day a) :
    (NavIndex.build (rows.map n)).findPrevMonthEnd d = (prevMonthEndRow day rows d).map n :=
  lookup_lastBy_map hn Ledger.monthKey _

theorem findMtdReturnBase_map (hn : ∀ a, (n a).date = day a) :
    (NavIndex.build (rows.map n)).findMtdReturnBase d = (monthBaseRow day rows d).map n := by
  rw [NavIndex.findMtdReturnBase, findPrevMonthEnd_map hn, monthBaseRow, Option.map_or]
  congr 1
  exact lookup_firstBy_map hn Ledger.monthKey _

theorem findYtdReturnBase_map (hn : ∀ a, (n a).date = day a) :
    (NavIndex.build (rows.map n)).findYtdReturnBase d = (yearBaseRow day rows d).map n := by
  rw [NavIndex.findYtdReturnBase, findYearEnd_map hn, yearBaseRow, Option.map_or]
  congr 1
  exact lookup_firstBy_map hn (fun e => e.year) _

/-- The initial value depends on the earliest row. -/
def initialValueOf (config : NavConfig) (earliest : Option NAVHistory) : Option ℚ :=
  let configured := if config.initialValue = 0 then none else some config.initialValue
  match earliest with
  | none => configured
  | some earliest =>
    match earliest.nav with
    | none => configured
    | some nav =>
      if nav ≠ 0 ∧ |nav.toDecimal - 1| < 1 / 100 then some earliest.totalValue.toDecimal
      else configured

theorem getInitialValue_map (hn : ∀ a, (n a).date = day a) (config : NavConfig) :
    getInitialValue config (rows.map n) = initialValueOf config ((earliestRow day rows).map n) := by
  unfold getInitialValue earliestRow
  rw [sortNavs_map hn, List.head?_map]
  rfl

/-- The base records and flows of a date, read from rows. -/
theorem periodInputs_map (hn : ∀ a, (n a).date = day a) (config : NavConfig)
    (summary : Ledger.Summary) :
    periodInputs config (rows.map n) d summary =
      { lastNav := (latestBefore day rows d).map n
        prevMonthEndNav := (prevMonthEndRow day rows d).map n
        prevYearEndNav := (yearEndRow day rows (d.year - 1)).map n
        mtdReturnBaseNav := (monthBaseRow day rows d).map n
        ytdReturnBaseNav := (yearBaseRow day rows d).map n
        dailyCashFlow := summary.daily.toDecimal
        monthlyCashFlow := summary.monthly.toDecimal
        yearlyCashFlow := ((summary.yearly.lookup d.year).getD 0).toDecimal
        gapCashFlow := some summary.gap.toDecimal
        cumulativeCashFlow := summary.cumulative.toDecimal
        initialValue := initialValueOf config ((earliestRow day rows).map n) } := by
  unfold periodInputs
  rw [findLatestBefore_map hn, findPrevMonthEnd_map hn, findYearEnd_map hn, findMtdReturnBase_map hn,
    findYtdReturnBase_map hn, getInitialValue_map hn]

end

end PortfolioManagement.NavRepair
