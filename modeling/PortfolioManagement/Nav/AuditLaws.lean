import PortfolioManagement.Nav.WrittenRows

/-!
# What the audit finds in a written row

The audit counts all flows of the month and of the year, so it recomputes the stored results only
where the later ones sum to zero. It expects results of a closed row, and it rounds the NAV and its
changes in its own way. The conditions on the present rows and flows under which it finds nothing
are the stable rows.
-/

namespace PortfolioManagement.Nav

open Ledger (LedgerSource Representable monthKey deriveRows dailyFlow monthlyFlow yearlyFlow)

/-! ## When the audit finds nothing -/

/-- Two amounts are within a cent when they are at most one cent apart. -/
theorem approxEqual_cents {a b : Cents} :
    approxEqual a.toDecimal b.toDecimal (1 / 100) = true ↔ |a - b| ≤ 1 := by
  have hdiff : a.toDecimal - b.toDecimal = ((a - b : ℤ) : ℚ) / 100 := by
    rw [Cents.toDecimal, Cents.toDecimal]
    push_cast
    ring
  rw [approxEqual, decide_eq_true_iff, hdiff, abs_div, abs_of_pos (by norm_num : (0 : ℚ) < 100),
    div_le_div_iff_of_pos_right (by norm_num)]
  exact_mod_cast Iff.rfl

theorem roundMoney_toDecimal (rt : Runtime) (c : Cents) : roundMoney rt c.toDecimal = c := by
  rw [roundMoney, Cents.toDecimal, div_mul_cancel₀ _ (by norm_num), roundNearest_intCast]

theorem moneyEqual_iff {a b : Option Cents} :
    moneyEqual (centsValue a) (centsValue b) = true ↔ a = b := by
  cases a <;> cases b <;> simp [moneyEqual]

theorem navEqual_iff {a b : Option Micro} :
    navEqual (microValue a) (microValue b) = true ↔ a = b := by
  cases a <;> cases b <;> simp [navEqual]

/-- The result the audit recomputes is an amount of whole cents. -/
theorem recomputedPnl_eq (rt : Runtime) (n : NAVHistory) (base : Option NAVHistory)
    (flow : Option Cents) : recomputedPnl rt n base flow = flow.bind fun flow =>
      base.map fun base => n.totalValue - base.totalValue - flow := by
  cases flow with
  | none => rfl
  | some flow =>
    rw [recomputedPnl, Option.bind_some, periodPnl_eq, Option.map_map, Option.bind_some]
    congr 1
    funext base
    exact roundMoney_toDecimal rt _

section
variable {rt : Runtime} {r : NAVHistory} {prev : Option NAVHistory} {daily : Cents}

theorem auditTotal_eq (h : Decomposed r) : auditTotal rt r = [] := by
  obtain ⟨cash, stock, hcash, hstock, htotal⟩ := h.parts
  have hsum : stock.toDecimal + cash.toDecimal = r.totalValue.toDecimal := by
    rw [htotal, Cents.toDecimal, Cents.toDecimal, Cents.toDecimal]
    push_cast
    ring
  simp only [auditTotal, hcash, hstock, Option.getD_some]
  rw [failing_eq_nil, hsum, money_toDecimal]
  exact moneyEqual_self _

theorem auditWeights_eq (h : Decomposed r) : auditWeights rt r = [] := by
  unfold auditWeights
  split
  next stockWeight cashWeight hstock hcash =>
    rw [failing_eq_nil, Bool.or_eq_true, decide_eq_true_iff]
    rcases le_or_gt r.totalValue 0 with hle | hpos
    · exact .inl hle
    · obtain ⟨stockWeight', cashWeight', hstock', hcash', happrox⟩ := h.weights hpos
      rw [hstock, Option.some.injEq] at hstock'
      rw [hcash, Option.some.injEq] at hcash'
      subst hstock' hcash'
      exact .inr happrox
  next => rfl

theorem auditChange_eq_nil {label : String} {stored recomputed : Option Micro} :
    auditChange rt label stored recomputed = [] ↔ stored = recomputed ∨ recomputed = none := by
  rw [auditChange, failing_eq_nil, Bool.or_eq_true, navEqual_iff, Option.isNone_iff_eq_none]

theorem auditPnl_eq_nil {label : String} {base : Option NAVHistory}
    {stored recomputed : Option Cents} :
    auditPnl rt label base stored recomputed = [] ↔ stored = recomputed ∨ base = none := by
  rw [auditPnl, failing_eq_nil, Bool.or_eq_true, moneyEqual_iff, Option.isNone_iff_eq_none]

/-- On a day after another row without a flow of more than a cent, the shares are those of the
day before, up to a cent. -/
def SharesStill (prev : Option NAVHistory) (d : CivilDate) (daily shares : Cents) : Prop :=
  ∀ last ∈ prev, dayBefore d last = true → |daily| ≤ 1 → ∀ old ∈ last.shares, |shares - old| ≤ 1

theorem auditShares_eq_nil {shares : Cents} (h : r.shares = some shares) :
    auditShares rt r prev daily = [] ↔ SharesStill prev r.date daily shares := by
  have hzero : approxEqual daily.toDecimal 0 (1 / 100) = true ↔ |daily| ≤ 1 := by
    have hcents : approxEqual daily.toDecimal (0 : Cents).toDecimal (1 / 100) = true ↔ _ :=
      approxEqual_cents
    rwa [sub_zero, show (0 : Cents).toDecimal = 0 by simp [Cents.toDecimal]] at hcents
  cases prev with
  | none => simp [auditShares, SharesStill, quietPrevious]
  | some last =>
    unfold auditShares
    rw [quietPrevious, Option.filter_some]
    cases hold : last.shares with
    | none => simp [SharesStill, hold]
    | some old =>
      by_cases hquiet : |daily| ≤ 1
      · rw [if_pos (by simpa using hzero.mpr hquiet), Option.filter_some]
        by_cases hday : dayBefore r.date last = true
        · rw [if_pos hday]
          simp only [failing_eq_nil, h, hold, approxEqualMoney, approxEqual_cents]
          exact ⟨fun hle _ hlast _ _ old' hold' => by
            cases hlast
            rw [hold] at hold'
            cases hold'
            exact hle, fun hstill => hstill last rfl hday hquiet old hold⟩
        · rw [if_neg hday]
          exact ⟨fun _ _ hlast hday' => by
            cases hlast
            exact absurd hday' hday, fun _ => rfl⟩
      · rw [if_neg (by simpa using fun h => hquiet (hzero.mp h))]
        exact ⟨fun _ _ _ _ hquiet' => absurd hquiet' hquiet, fun _ => rfl⟩

end

/-! ## What the audit reports of a row -/

section
variable (lrt : Ledger.Runtime) (source : LedgerSource) (account : String)
  (navs : List NAVHistory) (d : CivilDate)

/-- The ledger answers what the audit asks for a date. -/
structure Answered : Prop where
  daily : ∃ flow, dailyFlow lrt source account d = .ok flow
  monthly : (NavIndex.build navs).findPrevMonthEnd d ≠ none →
    ∃ flow, monthlyFlow lrt source account (monthKey d) = .ok flow
  yearly : (NavIndex.build navs).findYearEnd (d.year - 1) ≠ none →
    ∃ flow, yearlyFlow lrt source account d.year = .ok flow

/-- What the audit recomputes for a row, from the present rows and flows. -/
structure Reaudited (rt : Runtime) (completed : List Ledger.CompletedCashFlowFacts)
    (r : NAVHistory) (m : Recomputed) : Prop where
  prevMonthEnd : m.prevMonthEnd = (NavIndex.build navs).findPrevMonthEnd r.date
  prevYearEnd : m.prevYearEnd = (NavIndex.build navs).findYearEnd (r.date.year - 1)
  mtdReturnBase : m.mtdReturnBase = (NavIndex.build navs).findMtdReturnBase r.date
  ytdReturnBase : m.ytdReturnBase = (NavIndex.build navs).findYtdReturnBase r.date
  mtdNavChange : m.mtdNavChange = (r.nav.bind fun nav =>
    calcMtdNavChange nav ((NavIndex.build navs).findMtdReturnBase r.date)).map (roundNav rt)
  ytdNavChange : m.ytdNavChange = (r.nav.bind fun nav =>
    calcYtdNavChange nav ((NavIndex.build navs).findYtdReturnBase r.date)).map (roundNav rt)
  mtdPnl : m.mtdPnl = ((NavIndex.build navs).findPrevMonthEnd r.date).map fun base =>
    r.totalValue - base.totalValue -
      (monthToDate completed r.date + laterInMonth completed r.date)
  ytdPnl : m.ytdPnl = ((NavIndex.build navs).findYearEnd (r.date.year - 1)).map fun base =>
    r.totalValue - base.totalValue -
      (yearToDate completed r.date + laterInYear completed r.date)

end

section
variable {lrt : Ledger.Runtime} {rt : Runtime} {source : LedgerSource} {account : String}
  {navs : List NAVHistory} {r : NAVHistory}

theorem flowFor_ok {base : Option NAVHistory} {query : Except Error Cents} :
    (∃ flow, flowFor base query = .ok flow) ↔ (base ≠ none → ∃ flow, query = .ok flow) := by
  unfold flowFor
  cases base <;> cases query <;> simp [Except.map]

/-- The result the audit recomputes, where the flow asked for is known. -/
theorem recomputedPnl_flowFor {base : Option NAVHistory} {query : Except Error Cents}
    {flow : Option Cents} {x : Cents} (h : flowFor base query = .ok flow)
    (hx : ∀ y, query = .ok y → y = x) : recomputedPnl rt r base flow =
      base.map fun base => r.totalValue - base.totalValue - x := by
  rw [recomputedPnl_eq]
  unfold flowFor at h
  cases base with
  | none => cases flow <;> rfl
  | some base =>
    cases hquery : query with
    | error exc => simp [hquery, Except.map] at h
    | ok y =>
      simp only [hquery, Except.map, Option.isSome_some, if_true, Except.ok.injEq] at h
      subst h
      rw [hx y hquery]
      rfl

/-- The audit reports a row exactly when the ledger answers. -/
theorem reconcileRow_ok_iff :
    (∃ row, reconcileRow rt lrt source account navs r = .ok row) ↔
      Answered lrt source account navs r.date := by
  have hmonthly := @flowFor_ok ((NavIndex.build navs).findPrevMonthEnd r.date)
    (monthlyFlow lrt source account (monthKey r.date))
  have hyearly := @flowFor_ok ((NavIndex.build navs).findYearEnd (r.date.year - 1))
    (yearlyFlow lrt source account r.date.year)
  constructor
  · rintro ⟨row, h⟩
    simp only [reconcileRow, recomputePeriodMetrics, bind, Except.bind] at h
    split at h
    · cases h
    next daily hdaily =>
    split at h
    · cases h
    next m hm =>
    split at hm
    · cases hm
    next monthly hmonthlyFlow =>
    split at hm
    · cases hm
    next yearly hyearlyFlow =>
    exact ⟨⟨daily, hdaily⟩, hmonthly.mp ⟨monthly, hmonthlyFlow⟩,
      hyearly.mp ⟨yearly, hyearlyFlow⟩⟩
  · rintro ⟨⟨daily, hdaily⟩, hm, hy⟩
    obtain ⟨monthly, hmonthlyFlow⟩ := hmonthly.mpr hm
    obtain ⟨yearly, hyearlyFlow⟩ := hyearly.mpr hy
    simp only [reconcileRow, recomputePeriodMetrics, bind, Except.bind, hdaily, hmonthlyFlow,
      hyearlyFlow, pure, Except.pure]
    exact ⟨_, rfl⟩

/-- What the audit reports of a row, on flows that fit the context. -/
theorem reconcileRow_spec
    (hfits : Representable (deriveRows lrt source.rows (strip account)).completedRows)
    {row : ReconcileRow} (h : reconcileRow rt lrt source account navs r = .ok row) :
    Reaudited navs rt (deriveRows lrt source.rows (strip account)).completedRows r
        row.recomputed ∧
      row.anomalies = anomaliesOf rt r ((NavIndex.build navs).findLatestBefore r.date)
        (dayFlow (deriveRows lrt source.rows (strip account)).completedRows r.date)
        row.recomputed := by
  simp only [reconcileRow, recomputePeriodMetrics, bind, Except.bind] at h
  split at h
  · cases h
  next daily hdaily =>
  split at h
  · cases h
  next m hm =>
  split at hm
  · cases hm
  next monthly hmonthly =>
  split at hm
  · cases hm
  next yearly hyearly =>
  cases hm
  cases h
  refine ⟨⟨rfl, rfl, rfl, rfl, rfl, rfl, recomputedPnl_flowFor hmonthly fun y hy => ?_,
    recomputedPnl_flowFor hyearly fun y hy => ?_⟩, ?_⟩
  · rw [Ledger.monthlyFlow_eq hfits hy, total_month]
  · rw [Ledger.yearlyFlow_eq hfits hy, total_year]
  · rw [dayFlow_eq, ← Ledger.dailyFlow_eq hfits hdaily]

end

/-! ## Stable rows -/

section
variable (rt : Runtime)

/-- The audit accepts the NAV of the exact shares against the one of the rounded shares. -/
def NavKept (totalValue shares : ℚ) : Prop :=
  matchNav rt (quantizeNav (totalValue / shares))
    (quantizeNav (totalValue / (money shares).toDecimal)).toDecimal ≠ .mismatch

/-- The writer and the audit round the change against a base row to the same millionth. -/
def RoundsAlike (nav : Micro) (base : Option NAVHistory) : Prop :=
  ∀ change ∈ navChange nav base, roundNav rt change = quantizeNav change

/-- No base row has a positive NAV. -/
def NoBaseNav (base : Option NAVHistory) : Prop := ∀ b ∈ base, ∀ nav ∈ b.nav, nav ≤ 0

variable (windowStart : CivilDate) (navs : List NAVHistory)
  (completed : List Ledger.CompletedCashFlowFacts) (r : NAVHistory)

/-- The recorded rows the audit accepts: the later flows of the month and of the year sum to zero
where there is a base row, the roundings of the NAV and of its changes do not show, and the shares
do not move on a quiet day. -/
structure RecordStable : Prop where
  month : (NavIndex.build navs).findPrevMonthEnd r.date ≠ none → laterInMonth completed r.date = 0
  year : (NavIndex.build navs).findYearEnd (r.date.year - 1) ≠ none →
    laterInYear completed r.date = 0
  nav : NavKept rt r.totalValue.toDecimal (sharesBefore windowStart navs completed r)
  mtdRounding : RoundsAlike rt
    (quantizeNav (r.totalValue.toDecimal / sharesBefore windowStart navs completed r))
    ((NavIndex.build navs).findMtdReturnBase r.date)
  ytdRounding : RoundsAlike rt
    (quantizeNav (r.totalValue.toDecimal / sharesBefore windowStart navs completed r))
    ((NavIndex.build navs).findYtdReturnBase r.date)
  shares : SharesStill ((NavIndex.build navs).findLatestBefore r.date) r.date
    (dayFlow completed r.date) (money (sharesBefore windowStart navs completed r))

/-- The closed rows the audit accepts: there is no base row to compare with, and the shares do not
move on a quiet day. -/
structure ClosedStable : Prop where
  month : (NavIndex.build navs).findPrevMonthEnd r.date = none
  year : (NavIndex.build navs).findYearEnd (r.date.year - 1) = none
  mtdBase : NoBaseNav ((NavIndex.build navs).findMtdReturnBase r.date)
  ytdBase : NoBaseNav ((NavIndex.build navs).findYtdReturnBase r.date)
  shares : SharesStill ((NavIndex.build navs).findLatestBefore r.date) r.date
    (dayFlow completed r.date) 0

/-- The rows the audit accepts. -/
def RowStable : Prop :=
  if isClosed r then ClosedStable navs completed r else RecordStable rt windowStart navs completed r

variable {rt windowStart navs completed r}

instance {totalValue shares : ℚ} : Decidable (NavKept rt totalValue shares) :=
  inferInstanceAs (Decidable (_ ≠ _))

instance {nav : Micro} {base : Option NAVHistory} : Decidable (RoundsAlike rt nav base) :=
  inferInstanceAs (Decidable (∀ change ∈ navChange nav base, _))

instance {base : Option NAVHistory} : Decidable (NoBaseNav base) :=
  inferInstanceAs (Decidable (∀ b ∈ base, ∀ nav ∈ b.nav, nav ≤ 0))

instance {prev : Option NAVHistory} {d : CivilDate} {daily shares : Cents} :
    Decidable (SharesStill prev d daily shares) :=
  inferInstanceAs (Decidable (∀ last ∈ prev, _ → _ → ∀ old ∈ last.shares, |shares - old| ≤ 1))

instance : Decidable (RecordStable rt windowStart navs completed r) :=
  decidable_of_iff (_ ∧ _ ∧ _ ∧ _ ∧ _ ∧ _)
    ⟨fun ⟨month, year, nav, mtd, ytd, shares⟩ => ⟨month, year, nav, mtd, ytd, shares⟩,
      fun h => ⟨h.month, h.year, h.nav, h.mtdRounding, h.ytdRounding, h.shares⟩⟩

instance : Decidable (ClosedStable navs completed r) :=
  decidable_of_iff (_ ∧ _ ∧ _ ∧ _ ∧ _)
    ⟨fun ⟨month, year, mtd, ytd, shares⟩ => ⟨month, year, mtd, ytd, shares⟩,
      fun h => ⟨h.month, h.year, h.mtdBase, h.ytdBase, h.shares⟩⟩

instance : Decidable (RowStable rt windowStart navs completed r) :=
  inferInstanceAs (Decidable (if isClosed r then ClosedStable navs completed r
    else RecordStable rt windowStart navs completed r))

end

section
variable {rt : Runtime} {windowStart : CivilDate} {navs : List NAVHistory}
  {completed : List Ledger.CompletedCashFlowFacts} {r : NAVHistory} {m : Recomputed}

/-- Two results against one base row agree where the flows do. -/
theorem result_eq_iff {base : Option NAVHistory} {totalValue toDate later : Cents} :
    (base.map fun base => totalValue - base.totalValue - toDate) =
        (base.map fun base => totalValue - base.totalValue - (toDate + later)) ↔
      (base ≠ none → later = 0) := by
  cases base with
  | none => simp
  | some base =>
    simp only [Option.map_some, Option.some.injEq, ne_eq, reduceCtorEq, not_false_eq_true,
      forall_const]
    constructor <;> intro h <;> linarith

theorem change_eq_iff {nav : Micro} {base : Option NAVHistory} :
    ((navChange nav base).map quantizeNav = (navChange nav base).map (roundNav rt) ∨
        (navChange nav base).map (roundNav rt) = none) ↔ RoundsAlike rt nav base := by
  unfold RoundsAlike
  cases navChange nav base with
  | none => simp
  | some change =>
    simp only [Option.map_some, Option.some.injEq, reduceCtorEq, or_false, Option.mem_def,
      forall_eq']
    exact eq_comm

theorem navChange_eq_none {nav : Micro} {base : Option NAVHistory} :
    navChange nav base = none ↔ NoBaseNav base := by
  unfold navChange NoBaseNav
  cases base with
  | none => simp
  | some b =>
    cases hnav : b.nav with
    | none => simp [hnav]
    | some baseNav =>
      simp only [Option.bind_some, hnav, Option.mem_def, Option.some.injEq, forall_eq']
      split
      next hle => simp [hle]
      next hlt => simp [hlt]

/-- Without a return base there is no row of the period before. -/
theorem findPrevMonthEnd_of_base {d : CivilDate}
    (h : (NavIndex.build navs).findMtdReturnBase d = none) :
    (NavIndex.build navs).findPrevMonthEnd d = none :=
  (Option.or_eq_none_iff.mp h).1

theorem findYearEnd_of_base {d : CivilDate}
    (h : (NavIndex.build navs).findYtdReturnBase d = none) :
    (NavIndex.build navs).findYearEnd (d.year - 1) = none :=
  (Option.or_eq_none_iff.mp h).1

/-- The result of a day that a run wrote is what the audit expects. -/
theorem RecordedRow.auditDaily_eq (h : RecordedRow windowStart navs completed r) :
    auditDaily rt r ((NavIndex.build navs).findLatestBefore r.date) (dayFlow completed r.date) =
      [] := by
  unfold auditDaily
  rw [h.pnl]
  cases hlast : yesterdayOf r ((NavIndex.build navs).findLatestBefore r.date) with
  | none => rfl
  | some last =>
    have hday : r.date.daysSince last.date = 1 :=
      of_decide_eq_true (Option.filter_eq_some_iff.mp hlast).2
    simp only [Option.map_some]
    rw [failing_eq_nil, expectedDaily, gapToDate_consecutive h.started hday]
    exact moneyEqual_self _

/-- The audit finds nothing in a recorded row exactly when it is stable. -/
theorem RecordedRow.anomalies_eq_nil (h : RecordedRow windowStart navs completed r)
    (hm : Reaudited navs rt completed r m) :
    anomaliesOf rt r ((NavIndex.build navs).findLatestBefore r.date) (dayFlow completed r.date) m =
      [] ↔ RecordStable rt windowStart navs completed r := by
  have hnav : auditNav rt r = [] ↔
      NavKept rt r.totalValue.toDecimal (sharesBefore windowStart navs completed r) := by
    rw [auditNav, failing_eq_nil, decide_eq_true_iff, rowNavMatch, h.shares, h.nav]
    simp only [h.positive, if_true]
    rfl
  have hmtd : (r.mtdNavChange = m.mtdNavChange ∨ m.mtdNavChange = none) ↔ RoundsAlike rt
      (quantizeNav (r.totalValue.toDecimal / sharesBefore windowStart navs completed r))
      ((NavIndex.build navs).findMtdReturnBase r.date) := by
    rw [h.mtdNavChange, hm.mtdNavChange, h.nav]
    exact change_eq_iff
  have hytd : (r.ytdNavChange = m.ytdNavChange ∨ m.ytdNavChange = none) ↔ RoundsAlike rt
      (quantizeNav (r.totalValue.toDecimal / sharesBefore windowStart navs completed r))
      ((NavIndex.build navs).findYtdReturnBase r.date) := by
    rw [h.ytdNavChange, hm.ytdNavChange, h.nav]
    exact change_eq_iff
  have hmonth : (r.mtdPnl = m.mtdPnl ∨ m.mtdReturnBase = none) ↔
      ((NavIndex.build navs).findPrevMonthEnd r.date ≠ none → laterInMonth completed r.date = 0) := by
    rw [h.mtdPnl, hm.mtdPnl, hm.mtdReturnBase, result_eq_iff]
    exact ⟨fun hor => hor.elim id fun hnone hsome => absurd (findPrevMonthEnd_of_base hnone) hsome,
      .inl⟩
  have hyear : (r.ytdPnl = m.ytdPnl ∨ m.ytdReturnBase = none) ↔
      ((NavIndex.build navs).findYearEnd (r.date.year - 1) ≠ none →
        laterInYear completed r.date = 0) := by
    rw [h.ytdPnl, hm.ytdPnl, hm.ytdReturnBase, result_eq_iff]
    exact ⟨fun hor => hor.elim id fun hnone hsome => absurd (findYearEnd_of_base hnone) hsome,
      .inl⟩
  simp only [anomaliesOf, List.append_eq_nil_iff, auditTotal_eq h.toDecomposed,
    auditWeights_eq h.toDecomposed, hnav, auditChange_eq_nil, auditPnl_eq_nil, hmtd, hytd, hmonth,
    hyear, h.auditDaily_eq, auditShares_eq_nil h.shares, true_and, and_true]
  exact ⟨fun ⟨⟨⟨⟨⟨hnav, hmtd⟩, hytd⟩, hmonth⟩, hyear⟩, hshares⟩ =>
      ⟨hmonth, hyear, hnav, hmtd, hytd, hshares⟩,
    fun hs => ⟨⟨⟨⟨⟨hs.nav, hs.mtdRounding⟩, hs.ytdRounding⟩, hs.month⟩, hs.year⟩, hs.shares⟩⟩

/-- The audit finds nothing in a closed row exactly when it is stable. -/
theorem ClosedRow.anomalies_eq_nil (h : ClosedRow r) (hm : Reaudited navs rt completed r m) :
    anomaliesOf rt r ((NavIndex.build navs).findLatestBefore r.date) (dayFlow completed r.date) m =
      [] ↔ ClosedStable navs completed r := by
  have hnav : auditNav rt r = [] := by
    rw [auditNav, failing_eq_nil, decide_eq_true_iff, rowNavMatch, h.shares, h.nav]
    simp
  have hmtd : (r.mtdNavChange = m.mtdNavChange ∨ m.mtdNavChange = none) ↔
      NoBaseNav ((NavIndex.build navs).findMtdReturnBase r.date) := by
    rw [h.mtdNavChange, hm.mtdNavChange, h.nav, eq_comm, or_self, Option.map_eq_none_iff]
    exact navChange_eq_none
  have hytd : (r.ytdNavChange = m.ytdNavChange ∨ m.ytdNavChange = none) ↔
      NoBaseNav ((NavIndex.build navs).findYtdReturnBase r.date) := by
    rw [h.ytdNavChange, hm.ytdNavChange, h.nav, eq_comm, or_self, Option.map_eq_none_iff]
    exact navChange_eq_none
  have hmonth : (r.mtdPnl = m.mtdPnl ∨ m.mtdReturnBase = none) ↔
      (NavIndex.build navs).findPrevMonthEnd r.date = none := by
    rw [h.mtdPnl, hm.mtdPnl, hm.mtdReturnBase, eq_comm, Option.map_eq_none_iff]
    exact ⟨fun hor => hor.elim id findPrevMonthEnd_of_base, .inl⟩
  have hyear : (r.ytdPnl = m.ytdPnl ∨ m.ytdReturnBase = none) ↔
      (NavIndex.build navs).findYearEnd (r.date.year - 1) = none := by
    rw [h.ytdPnl, hm.ytdPnl, hm.ytdReturnBase, eq_comm, Option.map_eq_none_iff]
    exact ⟨fun hor => hor.elim id findYearEnd_of_base, .inl⟩
  have hdaily : auditDaily rt r ((NavIndex.build navs).findLatestBefore r.date)
      (dayFlow completed r.date) = [] := by
    unfold auditDaily
    rw [h.pnl]
    split
    next hpnl => cases hpnl
    next => rfl
  simp only [anomaliesOf, List.append_eq_nil_iff, auditTotal_eq h.toDecomposed,
    auditWeights_eq h.toDecomposed, hnav, auditChange_eq_nil, auditPnl_eq_nil, hmtd, hytd, hmonth,
    hyear, hdaily, auditShares_eq_nil h.shares, true_and, and_true]
  exact ⟨fun ⟨⟨⟨⟨hmtd, hytd⟩, hmonth⟩, hyear⟩, hshares⟩ => ⟨hmonth, hyear, hmtd, hytd, hshares⟩,
    fun hs => ⟨⟨⟨⟨hs.mtdBase, hs.ytdBase⟩, hs.month⟩, hs.year⟩, hs.shares⟩⟩

end

end PortfolioManagement.Nav
