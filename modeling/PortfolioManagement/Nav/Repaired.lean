import PortfolioManagement.Nav.PeriodResults

/-!
# The history after a repair

A repair writes results and NAV changes only, and nothing that is recomputed depends on them: the
audit of the repaired history finds the same base rows, flows and expected values. So a repaired row
holds what is expected of it wherever something is expected, and a second repair writes what is there.
-/

namespace PortfolioManagement.Nav

open Ledger (LedgerSource dailyFlow monthlyFlow yearlyFlow monthKey)

/-! ## What a repair may change -/

/-- A row without the fields a repair may change. -/
def NAVHistory.basis (n : NAVHistory) : NAVHistory :=
  { n with pnl := none, mtdNavChange := none, mtdPnl := none, ytdNavChange := none, ytdPnl := none }

/-- The function changes nothing else. -/
def KeepsBasis (f : NAVHistory → NAVHistory) : Prop := ∀ n, (f n).basis = n.basis

namespace KeepsBasis

variable {f : NAVHistory → NAVHistory} (hf : KeepsBasis f)
include hf

theorem recordId (n : NAVHistory) : (f n).recordId = n.recordId :=
  congrArg (·.recordId) (hf n)

theorem date (n : NAVHistory) : (f n).date = n.date := congrArg (·.date) (hf n)

theorem totalValue (n : NAVHistory) : (f n).totalValue = n.totalValue :=
  congrArg (·.totalValue) (hf n)

theorem nav (n : NAVHistory) : (f n).nav = n.nav := congrArg (·.nav) (hf n)

theorem shares (n : NAVHistory) : (f n).shares = n.shares := congrArg (·.shares) (hf n)

theorem cashValue (n : NAVHistory) : (f n).cashValue = n.cashValue := congrArg (·.cashValue) (hf n)

theorem stockValue (n : NAVHistory) : (f n).stockValue = n.stockValue :=
  congrArg (·.stockValue) (hf n)

theorem stockWeight (n : NAVHistory) : (f n).stockWeight = n.stockWeight :=
  congrArg (·.stockWeight) (hf n)

theorem cashWeight (n : NAVHistory) : (f n).cashWeight = n.cashWeight :=
  congrArg (·.cashWeight) (hf n)

/-! ## The index of the changed rows -/

theorem sortNavs (navs : List NAVHistory) :
    Nav.sortNavs (navs.map f) = (Nav.sortNavs navs).map f :=
  (List.map_insertionSort _ _ f navs fun a _ b _ => by rw [hf.date, hf.date]).symm

omit hf in
theorem filter_map (p : NAVHistory → Bool) (hp : ∀ n, p (f n) = p n) (navs : List NAVHistory) :
    (navs.map f).filter p = (navs.filter p).map f := by
  rw [List.filter_map]
  congr 2
  exact funext hp

theorem findLatestBefore (navs : List NAVHistory) (d : CivilDate) :
    (NavIndex.build (navs.map f)).findLatestBefore d =
      ((NavIndex.build navs).findLatestBefore d).map f := by
  have hbefore : ((fun nav : NAVHistory => decide (nav.date < d)) ∘ f) = fun nav => decide (nav.date < d) :=
    funext fun n => by simp only [Function.comp_apply, hf.date]
  show ((Nav.sortNavs (navs.map f)).takeWhile fun nav => nav.date < d).getLast? =
    (((Nav.sortNavs navs).takeWhile fun nav => nav.date < d).getLast?).map f
  rw [hf.sortNavs, List.takeWhile_map, List.getLast?_map, hbefore]

theorem lookup_lastBy {κ : Type} [DecidableEq κ] {key : NAVHistory → κ} (hkey : ∀ n, key (f n) = key n)
    (navs : List NAVHistory) (k : κ) :
    (lastBy key (Nav.sortNavs (navs.map f))).lookup k =
      ((lastBy key (Nav.sortNavs navs)).lookup k).map f := by
  rw [Nav.lookup_lastBy, Nav.lookup_lastBy, hf.sortNavs, filter_map _ (fun n => by rw [hkey]),
    List.getLast?_map]

theorem lookup_firstBy {κ : Type} [DecidableEq κ] {key : NAVHistory → κ}
    (hkey : ∀ n, key (f n) = key n) (navs : List NAVHistory) (k : κ) :
    (firstBy key (Nav.sortNavs (navs.map f))).lookup k =
      ((firstBy key (Nav.sortNavs navs)).lookup k).map f := by
  rw [Nav.lookup_firstBy, Nav.lookup_firstBy, hf.sortNavs, filter_map _ (fun n => by rw [hkey]),
    List.head?_map]

theorem yearOf (n : NAVHistory) : Nav.yearOf (f n) = Nav.yearOf n := congrArg (·.year) (hf.date n)

theorem monthOf (n : NAVHistory) : Nav.monthOf (f n) = Nav.monthOf n := congrArg monthKey (hf.date n)

theorem findYearEnd (navs : List NAVHistory) (year : Nat) :
    (NavIndex.build (navs.map f)).findYearEnd year = ((NavIndex.build navs).findYearEnd year).map f :=
  hf.lookup_lastBy hf.yearOf navs year

theorem findPrevMonthEnd (navs : List NAVHistory) (d : CivilDate) :
    (NavIndex.build (navs.map f)).findPrevMonthEnd d =
      ((NavIndex.build navs).findPrevMonthEnd d).map f :=
  hf.lookup_lastBy hf.monthOf navs _

omit hf in
theorem filter_option {p : NAVHistory → Bool} (hp : ∀ n, p (f n) = p n) (base : Option NAVHistory) :
    (base.map f).filter p = (base.filter p).map f := by
  cases base with
  | none => rfl
  | some b =>
    rw [Option.map_some, Option.filter_some, Option.filter_some, hp]
    split
    · rfl
    · rfl

theorem filter_before (base : Option NAVHistory) (d : CivilDate) :
    (base.map f).filter (fun nav => nav.date < d) = (base.filter fun nav => nav.date < d).map f :=
  filter_option (f := f) (fun n => by rw [hf.date]) base

theorem findMtdReturnBase (navs : List NAVHistory) (d : CivilDate) :
    (NavIndex.build (navs.map f)).findMtdReturnBase d =
      ((NavIndex.build navs).findMtdReturnBase d).map f := by
  have hfirst : (NavIndex.build (navs.map f)).findFirstInMonthBefore d =
      ((NavIndex.build navs).findFirstInMonthBefore d).map f := by
    show ((firstBy Nav.monthOf (Nav.sortNavs (navs.map f))).lookup _).filter _ = _
    rw [hf.lookup_firstBy hf.monthOf, hf.filter_before]
    rfl
  rw [NavIndex.findMtdReturnBase, NavIndex.findMtdReturnBase, hfirst, hf.findPrevMonthEnd, Option.map_or]

theorem findYtdReturnBase (navs : List NAVHistory) (d : CivilDate) :
    (NavIndex.build (navs.map f)).findYtdReturnBase d =
      ((NavIndex.build navs).findYtdReturnBase d).map f := by
  have hfirst : (NavIndex.build (navs.map f)).findFirstInYearBefore d =
      ((NavIndex.build navs).findFirstInYearBefore d).map f := by
    show ((firstBy Nav.yearOf (Nav.sortNavs (navs.map f))).lookup _).filter _ = _
    rw [hf.lookup_firstBy hf.yearOf, hf.filter_before]
    rfl
  rw [NavIndex.findYtdReturnBase, NavIndex.findYtdReturnBase, hfirst, hf.findYearEnd, Option.map_or]

end KeepsBasis

/-! ## What is recomputed -/

/-- What is recomputed, with other rows for the base rows. -/
def Recomputed.mapBases (f : NAVHistory → NAVHistory) (m : Recomputed) : Recomputed :=
  { m with
    prevMonthEnd := m.prevMonthEnd.map f
    prevYearEnd := m.prevYearEnd.map f
    mtdReturnBase := m.mtdReturnBase.map f
    ytdReturnBase := m.ytdReturnBase.map f }

namespace KeepsBasis

variable {f : NAVHistory → NAVHistory} (hf : KeepsBasis f)
include hf

theorem navChange (nav : Micro) (base : Option NAVHistory) :
    Nav.navChange nav (base.map f) = Nav.navChange nav base := by
  have hbase : (base.map f).bind (·.nav) = base.bind (·.nav) := by
    cases base with
    | none => rfl
    | some b => exact hf.nav b
  rw [Nav.navChange, Nav.navChange, hbase]

theorem recomputedPnl (rt : Runtime) (n : NAVHistory) (base : Option NAVHistory) (flow : Option Cents) :
    Nav.recomputedPnl rt (f n) (base.map f) flow = Nav.recomputedPnl rt n base flow := by
  rw [recomputedPnl_eq, recomputedPnl_eq]
  congr 1
  funext flow
  rw [Option.map_map]
  congr 1
  funext b
  rw [Function.comp_apply, hf.totalValue, hf.totalValue]

variable {rt : Runtime} {lrt : Ledger.Runtime} {source : LedgerSource} {account : String}

/-- The same is recomputed for the changed rows. -/
theorem recomputePeriodMetrics (navs : List NAVHistory) (n : NAVHistory) :
    Nav.recomputePeriodMetrics rt lrt source account (navs.map f) (f n) =
      (Nav.recomputePeriodMetrics rt lrt source account navs n).map (Recomputed.mapBases f) := by
  simp only [Nav.recomputePeriodMetrics, hf.date, hf.findPrevMonthEnd, hf.findYearEnd,
    hf.findMtdReturnBase, hf.findYtdReturnBase, flowFor, Option.isSome_map, hf.recomputedPnl, hf.nav,
    calcMtdNavChange, calcYtdNavChange, hf.navChange, bind, Except.bind, pure, Except.pure]
  split
  · rfl
  · split
    · rfl
    · rfl

end KeepsBasis

/-! ## What is reported -/

section
variable (rt : Runtime) (n : NAVHistory) (prev : Option NAVHistory) (daily : Cents) (m : Recomputed)

/-- The anomalies of the fields a repair writes. -/
def metricAnomalies : List String :=
  auditChange rt "mtd_nav_change" n.mtdNavChange m.mtdNavChange ++
    auditChange rt "ytd_nav_change" n.ytdNavChange m.ytdNavChange ++
    auditPnl rt "mtd_pnl" m.mtdReturnBase n.mtdPnl m.mtdPnl ++
    auditPnl rt "ytd_pnl" m.ytdReturnBase n.ytdPnl m.ytdPnl ++ auditDaily rt n prev daily

/-- The anomalies are those of the other fields and these. -/
theorem anomaliesOf_eq : anomaliesOf rt n prev daily m =
    auditTotal rt n ++ auditWeights rt n ++ auditNav rt n ++ metricAnomalies rt n prev daily m ++
      auditShares rt n prev daily := by
  simp only [anomaliesOf, metricAnomalies, List.append_assoc]

/-- The row that is reported. -/
def reportedRow : ReconcileRow where
  recordId := n.recordId
  date := n.date
  anomalies := anomaliesOf rt n prev daily m
  exemptions := exemptionsOf rt n prev daily m
  recomputed := m
  expectedDailyPnl := (yesterdayOf n prev).map fun last => floatDaily rt n last daily

/-- The fields the row is repaired with. -/
def fieldsFor : RepairFields :=
  repairFields ⟨n, m, some (reportedRow rt n prev daily m)⟩ ⟨n, m, some (reportedRow rt n prev daily m)⟩

end

section
variable {rt : Runtime} {n : NAVHistory} {prev : Option NAVHistory} {daily : Cents} {m : Recomputed}

/-- What is recomputed has the base rows it needs. -/
structure Recomputed.Based (m : Recomputed) : Prop where
  mtdNavChange : m.mtdReturnBase = none → m.mtdNavChange = none
  mtdPnl : m.prevMonthEnd = none → m.mtdPnl = none
  mtdReturnBase : m.mtdReturnBase = none → m.prevMonthEnd = none
  ytdNavChange : m.ytdReturnBase = none → m.ytdNavChange = none
  ytdPnl : m.prevYearEnd = none → m.ytdPnl = none
  ytdReturnBase : m.ytdReturnBase = none → m.prevYearEnd = none

/-- A stored result without anything to compare it with, where that is no exemption. -/
def StandsAlone (base : Option NAVHistory) (stored recomputed : Option Cents) : Prop :=
  base ≠ none ∧ stored ≠ none ∧ recomputed = none

/-- The float difference of two consecutive days is their difference. -/
def DailyExact (rt : Runtime) (n : NAVHistory) (prev : Option NAVHistory) (daily : Cents) : Prop :=
  ∀ last, yesterdayOf n prev = some last → floatDaily rt n last daily = expectedDaily n last daily

theorem mem_failing {ok : Bool} {text text' : String} : text' ∈ failing ok text ↔ ok = false ∧ text' = text := by
  cases ok <;> simp [failing]

theorem nonConsecutive_mem : "non_consecutive_daily_pnl" ∈ exemptionsOf rt n prev daily m ↔
    n.pnl ≠ none ∧ yesterdayOf n prev = none := by
  have hmonth : "non_consecutive_daily_pnl" ∉ (if m.mtdReturnBase.isNone then ["missing_month_base"]
      else failing m.prevMonthEnd.isSome "fallback_month_base") := by
    split <;> simp [mem_failing]
  have hyear : "non_consecutive_daily_pnl" ∉ (if m.ytdReturnBase.isNone then ["missing_year_base"]
      else failing m.prevYearEnd.isSome "fallback_year_base") := by
    split <;> simp [mem_failing]
  have hdaily : (n.pnl.isNone || (yesterdayOf n prev).isSome) = false ↔
      n.pnl ≠ none ∧ yesterdayOf n prev = none := by
    rw [Bool.or_eq_false_iff, Option.isNone_eq_false_iff, Option.isSome_iff_ne_none,
      Option.isSome_eq_false_iff, Option.isNone_iff_eq_none]
  unfold exemptionsOf
  simp only [List.mem_append, mem_failing, hmonth, hyear, hdaily, or_false]
  cases quietPrevious prev daily with
  | none => simp
  | some last => simp [mem_failing]

/-- With the base rows it needs, what is recomputed is what is written. -/
theorem fieldsFor_eq (hm : m.Based) : fieldsFor rt n prev daily m =
    { pnl :=
        if n.pnl ≠ none ∧ yesterdayOf n prev = none then none
        else some ((yesterdayOf n prev).map fun last => floatDaily rt n last daily)
      mtdNavChange := m.mtdNavChange
      mtdPnl := m.mtdPnl
      ytdNavChange := m.ytdNavChange
      ytdPnl := m.ytdPnl } := by
  have hmtd : (if m.mtdReturnBase.isNone then none else m.mtdNavChange) = m.mtdNavChange := by
    split
    next hnone => exact (hm.mtdNavChange (Option.isNone_iff_eq_none.mp hnone)).symm
    next => rfl
  have hytd : (if m.ytdReturnBase.isNone then none else m.ytdNavChange) = m.ytdNavChange := by
    split
    next hnone => exact (hm.ytdNavChange (Option.isNone_iff_eq_none.mp hnone)).symm
    next => rfl
  have hmonth : (if m.mtdReturnBase.isNone ∨ m.prevMonthEnd.isNone then none else m.mtdPnl) =
      m.mtdPnl := by
    split
    next hnone =>
      rw [Option.isNone_iff_eq_none, Option.isNone_iff_eq_none] at hnone
      exact (hm.mtdPnl (hnone.elim hm.mtdReturnBase id)).symm
    next => rfl
  have hyear : (if m.ytdReturnBase.isNone ∨ m.prevYearEnd.isNone then none else m.ytdPnl) =
      m.ytdPnl := by
    split
    next hnone =>
      rw [Option.isNone_iff_eq_none, Option.isNone_iff_eq_none] at hnone
      exact (hm.ytdPnl (hnone.elim hm.ytdReturnBase id)).symm
    next => rfl
  simp only [fieldsFor, repairFields, reportedRow, Option.map_some, Option.getD_some,
    Option.bind_some, hmtd, hytd, hmonth, hyear, nonConsecutive_mem]

/-- The results of a repaired row are the recomputed ones where there are any. -/
theorem patch_fieldsFor (hm : m.Based) : (fieldsFor rt n prev daily m).patch n =
    { n with
      pnl := ((yesterdayOf n prev).map fun last => floatDaily rt n last daily).or n.pnl
      mtdNavChange := m.mtdNavChange.or n.mtdNavChange
      mtdPnl := m.mtdPnl.or n.mtdPnl
      ytdNavChange := m.ytdNavChange.or n.ytdNavChange
      ytdPnl := m.ytdPnl.or n.ytdPnl } := by
  rw [fieldsFor_eq hm, RepairFields.patch]
  congr 1
  split
  next hpnl => rw [hpnl.2]; rfl
  next => rfl

/-- After a repair, exactly the results that stand alone and an inexact difference are reported. -/
theorem metricAnomalies_patch (hm : m.Based) :
    metricAnomalies rt ((fieldsFor rt n prev daily m).patch n) prev daily m = [] ↔
      DailyExact rt n prev daily ∧ ¬ StandsAlone m.mtdReturnBase n.mtdPnl m.mtdPnl ∧
        ¬ StandsAlone m.ytdReturnBase n.ytdPnl m.ytdPnl := by
  have hchange : ∀ stored recomputed : Option Micro,
      recomputed.or stored = recomputed ∨ recomputed = none := by
    rintro stored (_ | _)
    · exact .inr rfl
    · exact .inl rfl
  have hpnl : ∀ (base : Option NAVHistory) (stored recomputed : Option Cents),
      recomputed.or stored = recomputed ∨ base = none ↔ ¬ StandsAlone base stored recomputed := by
    rintro (_ | _) (_ | _) (_ | _) <;> simp [StandsAlone]
  have hdaily : auditDaily rt ((fieldsFor rt n prev daily m).patch n) prev daily = [] ↔
      DailyExact rt n prev daily := by
    rw [patch_fieldsFor hm]
    simp only [auditDaily, DailyExact, yesterdayOf, expectedDaily]
    cases prev.filter (dayBefore n.date) with
    | none => simp
    | some last =>
      simp only [Option.map_some, Option.some_or, failing_eq_nil, Option.some.injEq, forall_eq']
      exact (moneyEqual_iff (a := some _) (b := some _)).trans Option.some_inj
  rw [metricAnomalies]
  simp only [List.append_eq_nil_iff, hdaily]
  rw [patch_fieldsFor hm]
  simp only [auditChange_eq_nil, auditPnl_eq_nil, hchange, hpnl, true_and]
  tauto

/-- A repaired row is not changed by the same repair. -/
theorem patch_patch (hm : m.Based) :
    (fieldsFor rt ((fieldsFor rt n prev daily m).patch n) prev daily m).patch
      ((fieldsFor rt n prev daily m).patch n) = (fieldsFor rt n prev daily m).patch n := by
  have hor : ∀ {α : Type} (a b : Option α), a.or (a.or b) = a.or b := by
    rintro _ (_ | _) (_ | _) <;> rfl
  rw [patch_fieldsFor hm, patch_fieldsFor hm]
  simp only [yesterdayOf, floatDaily, hor]

end

/-! ## The anomalies of the repaired fields -/

/-- The fields a repair writes. -/
def repairedFields : List String := ["pnl", "mtd_nav_change", "mtd_pnl", "ytd_nav_change", "ytd_pnl"]

/-- The anomaly is one of the fields a repair writes. -/
def concerns (anomaly : String) : Bool :=
  repairedFields.any fun field => (field ++ " mismatch").toList.isPrefixOf anomaly.toList

theorem concerns_mismatch {field : String} (hfield : field ∈ repairedFields) (rest : String) :
    concerns (field ++ " mismatch" ++ rest) = true := by
  refine List.any_eq_true.mpr ⟨field, hfield, List.isPrefixOf_iff_prefix.mpr ?_⟩
  have hrest : (field ++ " mismatch" ++ rest).toList = (field ++ " mismatch").toList ++ rest.toList :=
    String.toList_append
  rw [hrest]
  exact List.prefix_append _ _

theorem concerns_eq_false {c : Char} {anomaly : String} (h : anomaly.toList.head? = some c)
    (hm : c ≠ 'm') (hy : c ≠ 'y') (hp : c ≠ 'p') : concerns anomaly = false := by
  obtain ⟨rest, hrest⟩ := List.head?_eq_some_iff.mp h
  simp [concerns, repairedFields, hrest, List.isPrefixOf_cons_cons, hm.symm, hy.symm, hp.symm]

section
variable {rt : Runtime} {n : NAVHistory} {prev : Option NAVHistory} {daily : Cents} {m : Recomputed}

theorem concerns_of_mem_metricAnomalies {anomaly : String}
    (h : anomaly ∈ metricAnomalies rt n prev daily m) : concerns anomaly = true := by
  have hmismatch : ∀ field ∈ repairedFields, ∀ {ok : Bool} {a b : String},
      anomaly ∈ failing ok (field ++ " mismatch (" ++ a ++ " != " ++ b ++ ")") →
        concerns anomaly = true := by
    intro field hfield ok a b hmem
    rw [(mem_failing.mp hmem).2]
    have hsplit : field ++ " mismatch (" ++ a ++ " != " ++ b ++ ")" =
        field ++ " mismatch" ++ (" (" ++ a ++ " != " ++ b ++ ")") := by
      rw [show " mismatch (" = " mismatch" ++ " (" from rfl]
      simp only [String.append_assoc]
    rw [hsplit]
    exact concerns_mismatch hfield _
  rw [metricAnomalies] at h
  simp only [List.mem_append] at h
  rcases h with (((h | h) | h) | h) | h
  · exact hmismatch _ (by decide) h
  · exact hmismatch _ (by decide) h
  · exact hmismatch _ (by decide) h
  · exact hmismatch _ (by decide) h
  · unfold auditDaily at h
    split at h
    · exact hmismatch "pnl" (by decide) h
    · cases h

theorem concerns_of_mem_other {anomaly : String}
    (h : anomaly ∈ auditTotal rt n ++ auditWeights rt n ++ auditNav rt n ∨
      anomaly ∈ auditShares rt n prev daily) : concerns anomaly = false := by
  have hhead : ∀ {first : String} {c : Char}, first.toList.head? = some c → ∀ rest : String,
      (first ++ rest).toList.head? = some c := by
    intro first c hfirst rest
    rw [String.toList_append, List.head?_append, hfirst, Option.some_or]
  have htext : ∀ {ok : Bool} {first rest : String} {c : Char}, anomaly ∈ failing ok (first ++ rest) →
      first.toList.head? = some c → c ≠ 'm' → c ≠ 'y' → c ≠ 'p' → concerns anomaly = false := by
    intro ok first rest c hmem hfirst
    rw [(mem_failing.mp hmem).2]
    exact concerns_eq_false (hhead hfirst rest)
  simp only [List.mem_append] at h
  rcases h with ((h | h) | h) | h
  · rw [auditTotal] at h
    simp only [String.append_assoc] at h
    exact htext (c := 't') h (by decide) (by decide) (by decide) (by decide)
  · unfold auditWeights at h
    split at h
    · simp only [String.append_assoc] at h
      exact htext (c := 's') h (by decide) (by decide) (by decide) (by decide)
    · cases h
  · rw [auditNav] at h
    simp only [String.append_assoc] at h
    exact htext (c := 'n') h (by decide) (by decide) (by decide) (by decide)
  · unfold auditShares at h
    split at h
    · simp only [String.append_assoc] at h
      exact htext (c := 's') h (by decide) (by decide) (by decide) (by decide)
    · cases h

/-- The anomalies of the fields a repair writes, among all of them. -/
theorem filter_concerns : (anomaliesOf rt n prev daily m).filter concerns =
    metricAnomalies rt n prev daily m := by
  have hfirst : (auditTotal rt n ++ auditWeights rt n ++ auditNav rt n).filter concerns = [] :=
    List.filter_eq_nil_iff.mpr fun a ha => Bool.eq_false_iff.mp
      (concerns_of_mem_other (.inl ha : _ ∨ a ∈ auditShares rt n prev daily))
  have hlast : (auditShares rt n prev daily).filter concerns = [] :=
    List.filter_eq_nil_iff.mpr fun a ha => Bool.eq_false_iff.mp (concerns_of_mem_other (.inr ha))
  have hmetric : (metricAnomalies rt n prev daily m).filter concerns = _ :=
    List.filter_eq_self.mpr fun a ha => concerns_of_mem_metricAnomalies ha
  rw [anomaliesOf_eq, List.filter_append, List.filter_append, hfirst, hmetric, hlast,
    List.nil_append, List.append_nil]

/-- The anomalies of the other fields, among all of them. -/
theorem filter_not_concerns : (anomaliesOf rt n prev daily m).filter (! concerns ·) =
    auditTotal rt n ++ auditWeights rt n ++ auditNav rt n ++ auditShares rt n prev daily := by
  have hfirst : (auditTotal rt n ++ auditWeights rt n ++ auditNav rt n).filter (! concerns ·) = _ :=
    List.filter_eq_self.mpr fun a ha => by
      rw [concerns_of_mem_other (.inl ha : _ ∨ a ∈ auditShares rt n prev daily), Bool.not_false]
  have hlast : (auditShares rt n prev daily).filter (! concerns ·) = _ :=
    List.filter_eq_self.mpr fun a ha => by rw [concerns_of_mem_other (.inr ha), Bool.not_false]
  have hmetric : (metricAnomalies rt n prev daily m).filter (! concerns ·) = [] :=
    List.filter_eq_nil_iff.mpr fun a ha => by
      rw [concerns_of_mem_metricAnomalies ha]
      exact Bool.false_ne_true
  rw [anomaliesOf_eq, List.filter_append, List.filter_append, hfirst, hmetric, hlast,
    List.append_nil]

end

/-! ## Reports of changed rows -/

theorem Recomputed.Based.mapBases {m : Recomputed} (hm : m.Based) (f : NAVHistory → NAVHistory) :
    (m.mapBases f).Based where
  mtdNavChange h := hm.mtdNavChange (Option.map_eq_none_iff.mp h)
  mtdPnl h := hm.mtdPnl (Option.map_eq_none_iff.mp h)
  mtdReturnBase h := by
    rw [Recomputed.mapBases, hm.mtdReturnBase (Option.map_eq_none_iff.mp h), Option.map_none]
  ytdNavChange h := hm.ytdNavChange (Option.map_eq_none_iff.mp h)
  ytdPnl h := hm.ytdPnl (Option.map_eq_none_iff.mp h)
  ytdReturnBase h := by
    rw [Recomputed.mapBases, hm.ytdReturnBase (Option.map_eq_none_iff.mp h), Option.map_none]

namespace KeepsBasis

variable {f : NAVHistory → NAVHistory} (hf : KeepsBasis f) {rt : Runtime} {n : NAVHistory}
  {prev : Option NAVHistory} {daily : Cents} {m : Recomputed}
include hf

theorem dayBefore (d : CivilDate) : Nav.dayBefore d (f n) = Nav.dayBefore d n := by
  rw [Nav.dayBefore, Nav.dayBefore, hf.date]

theorem yesterdayOf : Nav.yesterdayOf (f n) (prev.map f) = (Nav.yesterdayOf n prev).map f := by
  rw [Nav.yesterdayOf, Nav.yesterdayOf, hf.date, filter_option (f := f) fun _ => hf.dayBefore _]

theorem yesterdayOf_left : Nav.yesterdayOf (f n) prev = Nav.yesterdayOf n prev := by
  rw [Nav.yesterdayOf, Nav.yesterdayOf, hf.date]

theorem quietPrevious : Nav.quietPrevious (prev.map f) daily = (Nav.quietPrevious prev daily).map f :=
  filter_option (f := f) (fun last => by rw [hf.shares]) prev

theorem auditDaily : Nav.auditDaily rt (f n) (prev.map f) daily = Nav.auditDaily rt (f n) prev daily := by
  rw [Nav.auditDaily, Nav.auditDaily, hf.yesterdayOf, hf.yesterdayOf_left]
  cases Nav.yesterdayOf n prev with
  | none => rfl
  | some last =>
    cases (f n).pnl with
    | none => rfl
    | some pnl => simp only [Option.map_some, expectedDaily, hf.totalValue]

theorem metricAnomalies : Nav.metricAnomalies rt (f n) (prev.map f) daily (m.mapBases f) =
    Nav.metricAnomalies rt (f n) prev daily m := by
  simp only [Nav.metricAnomalies, hf.auditDaily, Recomputed.mapBases, auditPnl, Option.isNone_map]

theorem fieldsFor (hm : m.Based) :
    Nav.fieldsFor rt (f n) (prev.map f) daily (m.mapBases f) = Nav.fieldsFor rt (f n) prev daily m := by
  rw [fieldsFor_eq (hm.mapBases f), fieldsFor_eq hm, hf.yesterdayOf, hf.yesterdayOf_left]
  simp only [Recomputed.mapBases, Option.map_eq_none_iff, Option.map_map, Function.comp_def, Nav.floatDaily,
    hf.totalValue]

theorem otherAnomalies :
    auditTotal rt (f n) ++ auditWeights rt (f n) ++ auditNav rt (f n) ++
        auditShares rt (f n) (prev.map f) daily =
      auditTotal rt n ++ auditWeights rt n ++ auditNav rt n ++ auditShares rt n prev daily := by
  have hexpected : expectedNav (f n) = expectedNav n := funext fun shares => by
    rw [expectedNav, expectedNav, hf.totalValue]
  have hmatch : rowNavMatch rt (f n) = rowNavMatch rt n := by
    simp only [rowNavMatch, hf.shares, hf.nav, hexpected]
  have hshares : auditShares rt (f n) (prev.map f) daily = auditShares rt n prev daily := by
    simp only [auditShares, hf.quietPrevious, hf.date,
      filter_option (f := f) fun _ => hf.dayBefore _]
    cases (Nav.quietPrevious prev daily).filter (Nav.dayBefore n.date) with
    | none => rfl
    | some last => simp only [Option.map_some, hf.shares]
  rw [hshares]
  simp only [auditTotal, auditWeights, auditNav, hf.stockValue, hf.cashValue, hf.totalValue,
    hf.stockWeight, hf.cashWeight, hf.nav, hf.shares, hmatch, hexpected]

end KeepsBasis

end PortfolioManagement.Nav
