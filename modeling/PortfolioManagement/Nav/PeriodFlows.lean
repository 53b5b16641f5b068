import PortfolioManagement.Nav.Audit
import PortfolioManagement.Nav.GapFlows

/-!
# The flows of a period

The writer of a row counts the flows of the month and of the year up to its date, the audit counts
all flows of the month and of the year, and the capital facts count the flows from the start of the
period to the date of the last row. All are sums over the completed flows, as long as these fit the
context.
-/

namespace PortfolioManagement.Nav

open Ledger (LedgerSource Representable total monthKey YearMonth deriveRows buildDataset windowRows
  inWindow inGap dailyFlow monthlyFlow yearlyFlow periodFlow)

section
variable (completed : List Ledger.CompletedCashFlowFacts) (d : CivilDate)

/-- The flows up to a date. -/
def flowsUpTo : List Ledger.CompletedCashFlowFacts :=
  completed.filter fun facts => facts.flowDate ≤ d

/-- The flow of a day. -/
def dayFlow : Cents := total ((flowsUpTo completed d).filter fun facts => facts.flowDate = d)

/-- The flow of a month up to a date in it. -/
def monthToDate : Cents :=
  total ((flowsUpTo completed d).filter fun facts => monthKey facts.flowDate = monthKey d)

/-- The flow of a year up to a date in it. -/
def yearToDate : Cents :=
  total ((flowsUpTo completed d).filter fun facts => facts.flowDate.year = d.year)

/-- The flow after a previous date, up to a date, as the writer counts it. -/
def gapToDate (windowStart previous : CivilDate) : Cents :=
  total ((flowsUpTo completed d).filter (countedIn windowStart previous d))

/-- The flow of a month after a date in it. -/
def laterInMonth : Cents :=
  total (completed.filter fun facts => d < facts.flowDate ∧ monthKey facts.flowDate = monthKey d)

/-- The flow of a year after a date in it. -/
def laterInYear : Cents :=
  total (completed.filter fun facts => d < facts.flowDate ∧ facts.flowDate.year = d.year)

variable {completed d}

/-- The flows of a kind are those up to a date and those after it. -/
theorem total_filter_split (p : Ledger.CompletedCashFlowFacts → Bool) :
    total (completed.filter p) = total ((flowsUpTo completed d).filter p) +
      total (completed.filter fun facts => d < facts.flowDate ∧ p facts) := by
  induction completed with
  | nil => rfl
  | cons facts rest ih =>
    have hcons : ∀ q : Ledger.CompletedCashFlowFacts → Bool, total ((facts :: rest).filter q) =
        (if q facts then facts.cnyAmount else 0) + total (rest.filter q) := by
      intro q
      rw [List.filter_cons]
      split <;> simp [total]
    have hfront : ∀ rows, (flowsUpTo rows d).filter p =
        rows.filter fun facts => decide (facts.flowDate ≤ d) && p facts := by
      intro rows
      rw [flowsUpTo, List.filter_filter]
      exact List.filter_congr fun facts _ => Bool.and_comm _ _
    rw [hfront] at ih ⊢
    rw [hcons, hcons, hcons, ih]
    rcases le_or_gt facts.flowDate d with hle | hlt
    · simp only [hle, not_lt.mpr hle, decide_true, Bool.true_and, false_and, decide_false,
        Bool.false_eq_true, if_false]
      ring
    · simp only [hlt, not_le.mpr hlt, decide_false, Bool.false_and, true_and, Bool.false_eq_true,
        if_false, Bool.decide_eq_true]
      ring

/-- All flows of a month are those up to a date in it and those after it. -/
theorem total_month (completed : List Ledger.CompletedCashFlowFacts) (d : CivilDate) :
    total (completed.filter fun facts => monthKey facts.flowDate = monthKey d) =
      monthToDate completed d + laterInMonth completed d := by
  rw [total_filter_split (d := d), monthToDate, laterInMonth]
  simp only [decide_eq_true_iff]

/-- All flows of a year are those up to a date in it and those after it. -/
theorem total_year (completed : List Ledger.CompletedCashFlowFacts) (d : CivilDate) :
    total (completed.filter fun facts => facts.flowDate.year = d.year) =
      yearToDate completed d + laterInYear completed d := by
  rw [total_filter_split (d := d), yearToDate, laterInYear]
  simp only [decide_eq_true_iff]

/-- Flows that are all up to a date. -/
theorem filter_flowsUpTo {p : Ledger.CompletedCashFlowFacts → Bool}
    (h : ∀ facts, p facts = true → facts.flowDate ≤ d) :
    (flowsUpTo completed d).filter p = completed.filter p := by
  rw [flowsUpTo, List.filter_filter]
  refine List.filter_congr fun facts _ => ?_
  cases hp : p facts with
  | false => rfl
  | true => simpa using h facts hp

theorem dayFlow_eq (completed : List Ledger.CompletedCashFlowFacts) (d : CivilDate) :
    dayFlow completed d = total (completed.filter fun facts => facts.flowDate = d) := by
  rw [dayFlow, filter_flowsUpTo fun facts h => (of_decide_eq_true h).le]

/-- The gap of one day is the flow of the day. -/
theorem gapToDate_consecutive {windowStart previous : CivilDate} (hstart : windowStart ≤ d)
    (h : d.daysSince previous = 1) :
    gapToDate completed d windowStart previous = dayFlow completed d := by
  rw [gapToDate, dayFlow]
  congr 1
  refine List.filter_congr fun facts _ => ?_
  rw [Bool.eq_iff_iff, countedIn_iff, CivilDate.between_consecutive h, decide_eq_true_iff]
  exact ⟨fun hin => hin.2, fun hday => ⟨hday ▸ hstart, hday⟩⟩

end

/-! ## The summary of a dataset -/

/-- A dict whose keys are listed. -/
theorem lookup_map_key {κ α : Type} [DecidableEq κ] {keys : List κ} (value : κ → α) {k : κ}
    (h : k ∈ keys) : (keys.map fun key => (key, value key)).lookup k = some (value k) := by
  induction keys with
  | nil => exact absurd h List.not_mem_nil
  | cons key rest ih =>
    rw [List.map_cons, List.lookup_cons]
    by_cases hkey : k = key
    · simp [hkey]
    · rw [beq_false_of_ne hkey]
      exact ih ((List.mem_cons.mp h).resolve_left hkey)

/-- What a summary says of the flows up to its date, after a previous row. -/
structure Summarized (completed : List Ledger.CompletedCashFlowFacts)
    (windowStart d : CivilDate) (previous : Option CivilDate) (s : Ledger.Summary) : Prop where
  /-- the flow of the day -/
  daily : s.daily = dayFlow completed d
  /-- the flow of the month -/
  monthly : s.monthly = monthToDate completed d
  /-- the flow of the year -/
  yearly : s.yearly.lookup d.year = some (yearToDate completed d)
  /-- the flow of the gap -/
  gap : ∀ date ∈ previous, s.gap = gapToDate completed d windowStart date

section
variable {lrt : Ledger.Runtime} {account runId : String} {rows : List Ledger.RawCashFlowRecord}
  {confirmations : String → Option Ledger.FxConfirmation} {service : Ledger.EffectService}
  {startYear : Nat} {windowStart d : CivilDate} {ds : Ledger.CashFlowDatasetSnapshot}
  {completed : List Ledger.CompletedCashFlowFacts}

/-- Rows of a window are flows up to its end. -/
theorem windowRows_eq (completed : List Ledger.CompletedCashFlowFacts)
    (windowStart d : CivilDate) : windowRows completed windowStart d =
      (flowsUpTo completed d).filter fun facts => windowStart ≤ facts.flowDate := by
  rw [windowRows, flowsUpTo, List.filter_filter]
  refine List.filter_congr fun facts _ => ?_
  rw [inWindow, Bool.decide_and]

/-- The flows up to a date that a dataset of this date counts, where all of a kind are in its
window. -/
theorem total_window {p : Ledger.CompletedCashFlowFacts → Bool}
    (h : ∀ facts, p facts = true → facts.flowDate ≤ d → windowStart ≤ facts.flowDate) :
    total ((windowRows completed windowStart d).filter p) =
      total ((flowsUpTo completed d).filter p) := by
  rw [windowRows_eq, List.filter_filter]
  congr 1
  refine List.filter_congr fun facts hmem => ?_
  have hle : facts.flowDate ≤ d := of_decide_eq_true (List.mem_filter.mp hmem).2
  cases hp : p facts with
  | false => rfl
  | true => simpa using h facts hp hle

/-- The summary of a dataset that was built when the flows up to its date were the present ones. -/
theorem summarized (hstart : CivilDate.make? startYear 1 1 = some windowStart)
    (h : buildDataset lrt rows confirmations ⟨account, d, runId, startYear⟩ service = .ok ds)
    (hperm : (flowsUpTo (deriveRows lrt rows (strip account)).completedRows d).Perm
      (flowsUpTo completed d))
    (hfits : Representable completed) (previous : Option CivilDate) :
    Summarized completed windowStart d previous (ds.summary previous) := by
  obtain ⟨hle, hdate, hwindow, -, hsums⟩ := Ledger.buildDataset_frame hstart h
  obtain ⟨hyear, hmonth, hday⟩ := Ledger.make?_eq hstart
  simp only at hle hdate hsums
  have hfirst : ∀ date : CivilDate, windowStart ≤ date ↔ windowStart.year ≤ date.year :=
    fun date => CivilDate.firstOfYear_le hmonth hday
  -- the window of the dataset needs no more digits than all present flows
  have hwindowFits : Representable
      (windowRows (deriveRows lrt rows (strip account)).completedRows windowStart d) := by
    rw [windowRows_eq]
    have hpresent : Representable (flowsUpTo completed d) := hfits.sublist List.filter_sublist
    unfold Representable at hpresent ⊢
    rw [← Ledger.absTotal_perm hperm] at hpresent
    exact Representable.sublist hpresent List.filter_sublist
  have hexact := Ledger.exactSums_aggregate hwindowFits
  have htotal : ∀ p : Ledger.CompletedCashFlowFacts → Bool,
      total ((flowsUpTo (deriveRows lrt rows (strip account)).completedRows d).filter p) =
        total ((flowsUpTo completed d).filter p) :=
    fun p => Ledger.total_perm (hperm.filter p)
  refine ⟨?_, ?_, ?_, ?_⟩
  · show (ds.sums.daily.lookup ds.navDate).getD 0 = _
    rw [hsums, hdate, hexact.daily, total_window, htotal, dayFlow]
    intro facts hp _
    rw [of_decide_eq_true hp]
    exact hle
  · show (ds.sums.monthly.lookup (monthKey ds.navDate)).getD 0 = _
    rw [hsums, hdate, hexact.monthly, total_window, htotal, monthToDate]
    intro facts hp _
    have hkey : facts.flowDate.year = d.year := congrArg YearMonth.year (of_decide_eq_true hp)
    rw [hfirst, hkey, ← hfirst]
    exact hle
  · show List.lookup d.year ((List.range' ds.windowStart.year
      (ds.navDate.year + 1 - ds.windowStart.year)).map _) = _
    have hmem : d.year ∈ List.range' ds.windowStart.year
        (ds.navDate.year + 1 - ds.windowStart.year) := by
      rw [List.mem_range'_1, hwindow, hdate]
      have := (hfirst d).mp hle
      omega
    rw [lookup_map_key _ hmem, hsums, hexact.yearly, total_window, htotal, yearToDate]
    intro facts hp _
    rw [hfirst, of_decide_eq_true hp, ← hfirst]
    exact hle
  · rintro date hdate'
    cases hdate'
    rw [gap_eq_total (hdate ▸ hsums) (hdate ▸ hwindowFits), hdate, gapToDate, ← htotal,
      filter_flowsUpTo fun facts hp => (countedIn_iff.mp hp).2.2]

end

/-! ## The capital facts of a row -/

/-- The base row of a period. -/
def CapitalPeriod.base (period : CapitalPeriod) (navs : List NAVHistory) (d : CivilDate) :
    Option NAVHistory :=
  match period with
  | .mtd => (NavIndex.build navs).findPrevMonthEnd d
  | .ytd => (NavIndex.build navs).findYearEnd (d.year - 1)

/-- The flow of a period up to a date. -/
def CapitalPeriod.toDate (period : CapitalPeriod) (completed : List Ledger.CompletedCashFlowFacts)
    (d : CivilDate) : Cents :=
  match period with
  | .mtd => monthToDate completed d
  | .ytd => yearToDate completed d

/-- The days of a month are those between its first and its last one. -/
theorem monthRange_spec {month : YearMonth} {first last d : CivilDate}
    (h : monthRange month = some (first, last)) :
    (monthKey first = month ∧ first.day = 1) ∧
      (first ≤ d ∧ d ≤ last ↔ monthKey d = month) := by
  simp only [monthRange, Option.bind_eq_bind, Option.bind_eq_some_iff, Option.pure_def,
    Option.some.injEq, Prod.mk.injEq] at h
  obtain ⟨_, hfirst, _, hlast, rfl, rfl⟩ := h
  obtain ⟨hfirstYear, hfirstMonth, hfirstDay⟩ := Ledger.make?_eq hfirst
  obtain ⟨hlastYear, hlastMonth, hlastDay⟩ := Ledger.make?_eq hlast
  refine ⟨⟨?_, hfirstDay⟩, ?_⟩
  · rw [monthKey, hfirstYear, hfirstMonth]
  · constructor
    · rintro ⟨hlow, hhigh⟩
      have hyear : d.year = month.year :=
        le_antisymm (hlastYear ▸ CivilDate.year_le_of_le hhigh)
          (hfirstYear ▸ CivilDate.year_le_of_le hlow)
      have hmonth : d.month = month.month :=
        le_antisymm
          (hlastMonth ▸ CivilDate.month_le_of_le hhigh (hyear.trans hlastYear.symm))
          (hfirstMonth ▸ CivilDate.month_le_of_le hlow (hfirstYear.trans hyear.symm))
      rw [monthKey, hyear, hmonth]
    · rintro rfl
      have hday := d.one_le_day
      have hlength : d.day ≤ daysInMonth d.year d.month := d.valid.2.2.2.2.2
      simp only [monthKey] at hfirstYear hfirstMonth hlastYear hlastMonth hlastDay
      rw [CivilDate.le_iff_stamp, CivilDate.le_iff_stamp, CivilDate.stamp, CivilDate.stamp,
        CivilDate.stamp, hfirstYear, hfirstMonth, hfirstDay, hlastYear, hlastMonth, hlastDay]
      omega

/-- The days of a year are those between its first and its last one. -/
theorem yearRange_spec {year : Nat} {first last d : CivilDate}
    (h : yearRange year = some (first, last)) :
    first ≤ d ∧ d ≤ last ↔ d.year = year := by
  simp only [yearRange, Option.bind_eq_bind, Option.bind_eq_some_iff, Option.pure_def,
    Option.some.injEq, Prod.mk.injEq] at h
  obtain ⟨_, hfirst, _, hlast, rfl, rfl⟩ := h
  obtain ⟨hfirstYear, hfirstMonth, hfirstDay⟩ := Ledger.make?_eq hfirst
  obtain ⟨hlastYear, hlastMonth, hlastDay⟩ := Ledger.make?_eq hlast
  constructor
  · rintro ⟨hlow, hhigh⟩
    exact le_antisymm (hlastYear ▸ CivilDate.year_le_of_le hhigh)
      (hfirstYear ▸ CivilDate.year_le_of_le hlow)
  · intro hyear
    have hm := d.month_le
    have hd := d.day_le
    refine ⟨(CivilDate.firstOfYear_le hfirstMonth hfirstDay).mpr (hfirstYear.trans hyear.symm).le, ?_⟩
    rw [CivilDate.le_iff_stamp, CivilDate.stamp, CivilDate.stamp, hlastYear, hlastMonth, hlastDay]
    omega

section
variable {navs : List NAVHistory} {start stop : CivilDate}

/-- The last row between two dates is the last one of a key whose rows are those between them. -/
theorem lastNavBetween_eq {κ : Type} [DecidableEq κ] {key : NAVHistory → κ} {k : κ}
    (h : ∀ nav : NAVHistory, start ≤ nav.date ∧ nav.date ≤ stop ↔ key nav = k) :
    lastNavBetween navs start stop = (lastBy key (sortNavs navs)).lookup k := by
  rw [lastNavBetween, lookup_lastBy]
  congr 1
  refine List.filter_congr fun nav _ => ?_
  rw [decide_eq_decide]
  exact h nav

/-- The last row between two dates is a row between them. -/
theorem lastNavBetween_mem {nav : NAVHistory} (h : lastNavBetween navs start stop = some nav) :
    nav ∈ navs ∧ start ≤ nav.date ∧ nav.date ≤ stop := by
  obtain ⟨hmem, hbetween, -⟩ := getLast?_filter_spec (sortNavs_pairwise navs) h
  exact ⟨mem_sortNavs.mp hmem, of_decide_eq_true hbetween⟩

/-- Of rows with distinct dates one is known by its date. -/
theorem eq_of_date_eq {a b : NAVHistory} (h : (navs.map (·.date)).Nodup) (ha : a ∈ navs)
    (hb : b ∈ navs) (hdate : a.date = b.date) : a = b :=
  List.inj_on_of_nodup_map h ha hb hdate

end

/-- The flows from a date on, up to another one, are those of a period to the date, if the first
date starts the period. -/
theorem total_between {completed : List Ledger.CompletedCashFlowFacts} {start d : CivilDate}
    {p : Ledger.CompletedCashFlowFacts → Bool}
    (h : ∀ facts : Ledger.CompletedCashFlowFacts, facts.flowDate ≤ d →
      (start ≤ facts.flowDate ↔ p facts = true)) :
    total (completed.filter fun facts => start ≤ facts.flowDate ∧ facts.flowDate ≤ d) =
      total ((flowsUpTo completed d).filter p) := by
  rw [flowsUpTo, List.filter_filter]
  congr 1
  refine List.filter_congr fun facts _ => ?_
  rw [Bool.eq_iff_iff, decide_eq_true_iff, Bool.and_eq_true, decide_eq_true_iff]
  exact ⟨fun hin => ⟨(h facts hin.2).mp hin.1, hin.2⟩, fun hin => ⟨(h facts hin.2).mpr hin.1, hin.2⟩⟩

/-- The anchor range of a period holds the rows its base row is the last of, and the flows from its
start are those of the period. -/
theorem CapitalPeriod.ranges_spec {period : CapitalPeriod} {navs : List NAVHistory}
    {completed : List Ledger.CompletedCashFlowFacts}
    {targetStart targetEnd anchorStart anchorEnd calendarStart d : CivilDate}
    (htarget : monthRange (monthKey d) = some (targetStart, targetEnd))
    (h : period.ranges targetStart = some ((anchorStart, anchorEnd), calendarStart)) :
    lastNavBetween navs anchorStart anchorEnd = period.base navs d ∧
      total (completed.filter fun facts => calendarStart ≤ facts.flowDate ∧ facts.flowDate ≤ d) =
        period.toDate completed d := by
  obtain ⟨⟨hkey, hday⟩, -⟩ := monthRange_spec (d := d) htarget
  have hyear : targetStart.year = d.year := congrArg YearMonth.year hkey
  have hmonth : targetStart.month = d.month := congrArg YearMonth.month hkey
  have hprev : NavIndex.prevMonth targetStart = NavIndex.prevMonth d := by
    rw [NavIndex.prevMonth, NavIndex.prevMonth, hyear, hmonth]
  cases period with
  | mtd =>
    simp only [CapitalPeriod.ranges, Option.map_eq_some_iff, Prod.mk.injEq] at h
    obtain ⟨_, hrange, rfl, rfl⟩ := h
    refine ⟨?_, total_between fun facts hle => ?_⟩
    · rw [hprev] at hrange
      exact lastNavBetween_eq fun nav => (monthRange_spec hrange).2
    · -- up to the date, the days from the first of its month on are those of the month
      rw [decide_eq_true_iff, ← (monthRange_spec htarget).2]
      exact ⟨fun hlow => ⟨hlow, hle.trans ((monthRange_spec htarget).2.mpr rfl).2⟩,
        fun hin => hin.1⟩
  | ytd =>
    simp only [CapitalPeriod.ranges, Option.bind_eq_bind, Option.bind_eq_some_iff,
      Option.pure_def, Option.some.injEq, Prod.mk.injEq] at h
    obtain ⟨_, hanchor, ⟨first, last⟩, hcalendar, rfl, rfl⟩ := h
    rw [hyear] at hanchor hcalendar
    refine ⟨lastNavBetween_eq fun nav => yearRange_spec hanchor, total_between fun facts hle => ?_⟩
    rw [decide_eq_true_iff, ← yearRange_spec hcalendar]
    exact ⟨fun hlow => ⟨hlow, hle.trans ((yearRange_spec hcalendar).mpr rfl).2⟩, fun hin => hin.1⟩

section
variable {lrt : Ledger.Runtime} {source : LedgerSource} {account : String} {navs : List NAVHistory}
  {r : NAVHistory} {today : CivilDate} {period : CapitalPeriod} {month : YearMonth}
  {facts : CapitalFacts}

/-- The capital facts of a month are about its last row, against the base row the writer uses, with
the flows up to the date of the row. -/
theorem capitalFacts_spec
    (hfits : Representable (deriveRows lrt source.rows (strip account)).completedRows)
    (hdates : (navs.map (·.date)).Nodup) (hr : r ∈ navs)
    (h : capitalFacts lrt source account navs today period month = .ok (.facts facts))
    (hend : facts.endDate = r.date) :
    ∃ base, period.base navs r.date = some base ∧ facts.storedPnl = period.stored r ∧
      facts.periodPnl = r.totalValue - base.totalValue -
        period.toDate (deriveRows lrt source.rows (strip account)).completedRows r.date := by
  unfold capitalFacts at h
  split at h
  · cases h
  next targetStart targetEnd htarget =>
  split at h
  · cases h
  split at h
  · cases h
  next endingNav hending =>
  split at h
  · cases h
  next anchorStart anchorEnd calendarStart hranges =>
  split at h
  · cases h
  next anchorNav hanchor =>
  simp only [bind, Except.bind, pure, Except.pure] at h
  split at h
  · cases h
  next external hexternal =>
  cases h
  obtain ⟨hmem, hlow, hhigh⟩ := lastNavBetween_mem hending
  obtain rfl := eq_of_date_eq hdates hmem hr hend
  obtain rfl := (monthRange_spec htarget).2.mp ⟨hlow, hhigh.trans (min_le_left _ _)⟩
  obtain ⟨hbase, hflow⟩ :=
    @CapitalPeriod.ranges_spec period navs _ _ _ _ _ _ _ htarget hranges
  refine ⟨anchorNav, hbase ▸ hanchor, rfl, ?_⟩
  show endingNav.totalValue - anchorNav.totalValue - external = _
  rw [Ledger.periodFlow_eq hfits hexternal, hflow]

end

end PortfolioManagement.Nav
