import Mathlib.Data.Int.Log
import Mathlib.Data.List.Perm.Subperm
import Mathlib.Order.Basic
import Mathlib.Tactic.IntervalCases
import Mathlib.Tactic.Linarith
import PortfolioManagement.Lib.Joined

/-!
# Calendar dates

The proleptic Gregorian calendar of `datetime.date`, years 1 to 9999. A date carries its own
validity, so a day outside its month cannot be built. Dates are ordered as their digits
`yyyymmdd` are, which is the order of year, month and day.
-/

namespace PortfolioManagement

/-- Whether February has 29 days. -/
def isLeap (year : Nat) : Bool := year % 4 == 0 && (year % 100 != 0 || year % 400 == 0)

/-- The number of days of a month. -/
def daysInMonth (year month : Nat) : Nat :=
  if month = 2 then (if isLeap year then 29 else 28)
  else if month = 4 ∨ month = 6 ∨ month = 9 ∨ month = 11 then 30
  else 31

/-- The triples that are dates. -/
def ValidDate (year month day : Nat) : Prop :=
  1 ≤ year ∧ year ≤ 9999 ∧ 1 ≤ month ∧ month ≤ 12 ∧ 1 ≤ day ∧ day ≤ daysInMonth year month

instance (year month day : Nat) : Decidable (ValidDate year month day) :=
  inferInstanceAs (Decidable (_ ∧ _))

/-- `datetime.date`. -/
structure CivilDate where
  /-- the year -/
  year : Nat
  /-- the month -/
  month : Nat
  /-- the day of the month -/
  day : Nat
  /-- the day exists -/
  valid : ValidDate year month day
deriving DecidableEq

namespace CivilDate

/-- `date(year, month, day)`; `none` where Python raises `ValueError`. -/
def make? (year month day : Nat) : Option CivilDate :=
  if h : ValidDate year month day then some ⟨year, month, day, h⟩ else none

theorem daysInMonth_le (year month : Nat) : daysInMonth year month ≤ 31 := by
  unfold daysInMonth
  split_ifs <;> omega

theorem month_le (d : CivilDate) : d.month ≤ 12 := d.valid.2.2.2.1

theorem one_le_month (d : CivilDate) : 1 ≤ d.month := d.valid.2.2.1

theorem one_le_day (d : CivilDate) : 1 ≤ d.day := d.valid.2.2.2.2.1

theorem day_le (d : CivilDate) : d.day ≤ 31 :=
  le_trans d.valid.2.2.2.2.2 (daysInMonth_le d.year d.month)

/-! ## Order -/

/-- The digits `yyyymmdd` as a number. -/
def stamp (d : CivilDate) : Nat := d.year * 10000 + d.month * 100 + d.day

theorem stamp_injective : Function.Injective stamp := by
  intro a b h
  have ha := a.month_le
  have hb := b.month_le
  have ha' := a.day_le
  have hb' := b.day_le
  unfold stamp at h
  have hyear : a.year = b.year := by omega
  have hmonth : a.month = b.month := by omega
  have hday : a.day = b.day := by omega
  cases a
  cases b
  cases hyear
  cases hmonth
  cases hday
  rfl

instance : LinearOrder CivilDate := LinearOrder.lift' stamp stamp_injective

theorem le_iff_stamp {a b : CivilDate} : a ≤ b ↔ a.stamp ≤ b.stamp := Iff.rfl

theorem lt_iff_stamp {a b : CivilDate} : a < b ↔ a.stamp < b.stamp := Iff.rfl

/-- A later date is not in an earlier year. -/
theorem year_le_of_le {a b : CivilDate} (h : a ≤ b) : a.year ≤ b.year := by
  have hb := b.month_le
  have hb' := b.day_le
  rw [le_iff_stamp, stamp, stamp] at h
  omega

/-- Within a year a later date is not in an earlier month. -/
theorem month_le_of_le {a b : CivilDate} (h : a ≤ b) (hyear : a.year = b.year) :
    a.month ≤ b.month := by
  have hb' := b.day_le
  rw [le_iff_stamp, stamp, stamp] at h
  omega

theorem lt_of_year_lt {a b : CivilDate} (h : a.year < b.year) : a < b := by
  have ha := a.month_le
  have ha' := a.day_le
  rw [lt_iff_stamp, stamp, stamp]
  omega

/-- `date(year, 1, 1)` is the first date of its year. -/
theorem firstOfYear_le {start d : CivilDate} (hmonth : start.month = 1) (hday : start.day = 1) :
    start ≤ d ↔ start.year ≤ d.year := by
  refine ⟨year_le_of_le, fun h => ?_⟩
  have h1 := d.one_le_month
  have h2 := d.one_le_day
  rw [le_iff_stamp, stamp, stamp]
  omega

/-! ## Ordinals -/

/-- The days of the years before a year. -/
def daysBeforeYear (year : Nat) : Nat :=
  let y := year - 1
  y * 365 + y / 4 - y / 100 + y / 400

/-- The days of a year before a month. -/
def daysBeforeMonth (year month : Nat) : Nat :=
  ((List.range (month - 1)).map fun m => daysInMonth year (m + 1)).sum

/-- `date.toordinal()`: 1 January of year 1 has ordinal 1. -/
def toOrdinal (d : CivilDate) : Nat := daysBeforeYear d.year + daysBeforeMonth d.year d.month + d.day

/-- `(a - b).days`. -/
def daysSince (a b : CivilDate) : Int := (a.toOrdinal : Int) - b.toOrdinal

theorem isLeap_iff {year : Nat} :
    isLeap year = true ↔ 4 ∣ year ∧ (¬ 100 ∣ year ∨ 400 ∣ year) := by
  simp [isLeap, Nat.dvd_iff_mod_eq_zero]

theorem daysBeforeYear_succ {year : Nat} (h : 1 ≤ year) :
    daysBeforeYear (year + 1) = daysBeforeYear year + (if isLeap year then 366 else 365) := by
  obtain ⟨n, rfl⟩ : ∃ n, year = n + 1 := ⟨year - 1, by omega⟩
  have hunfold : ∀ m, daysBeforeYear (m + 1) = m * 365 + m / 4 - m / 100 + m / 400 := fun _ => rfl
  have h100 : 100 ∣ n + 1 → 4 ∣ n + 1 := fun hd => dvd_trans (by decide) hd
  have h400 : 400 ∣ n + 1 → 100 ∣ n + 1 := fun hd => dvd_trans (by decide) hd
  have hle : n / 100 ≤ n / 4 := Nat.div_le_div_left (by decide) (by decide)
  rw [hunfold, hunfold, Nat.succ_div, Nat.succ_div, Nat.succ_div]
  simp only [isLeap_iff]
  generalize n / 4 = q4 at *
  generalize n / 100 = q100 at *
  generalize n / 400 = q400 at *
  by_cases h4 : 4 ∣ n + 1
  · by_cases hh : 100 ∣ n + 1
    · by_cases hf : 400 ∣ n + 1
      · simp only [h4, hh, hf, if_true, not_true, false_or, and_self]
        omega
      · simp only [h4, hh, hf, if_true, if_false, not_true, false_or, and_false]
        omega
    · have hf : ¬ 400 ∣ n + 1 := fun hf => hh (h400 hf)
      simp only [h4, hh, hf, if_true, if_false, not_false_eq_true, true_or, and_self]
      omega
  · have hh : ¬ 100 ∣ n + 1 := fun hh => h4 (h100 hh)
    have hf : ¬ 400 ∣ n + 1 := fun hf => hh (h400 hf)
    simp only [h4, hh, hf, if_false, false_and]
    omega

theorem daysBeforeYear_mono {a b : Nat} (ha : 1 ≤ a) (h : a ≤ b) :
    daysBeforeYear a ≤ daysBeforeYear b := by
  induction b, h using Nat.le_induction with
  | base => exact le_rfl
  | succ b hab ih =>
    rw [daysBeforeYear_succ (ha.trans hab)]
    omega

/-- The days before a month and the days of the month fit the year. -/
theorem daysBeforeMonth_add_le {year month : Nat} (h1 : 1 ≤ month) (h12 : month ≤ 12) :
    daysBeforeMonth year month + daysInMonth year month ≤ if isLeap year then 366 else 365 := by
  interval_cases month <;> cases h : isLeap year <;>
    simp [daysBeforeMonth, daysInMonth, h, List.range_succ]

theorem daysBeforeMonth_add_le_of_lt {year a b : Nat} (h1 : 1 ≤ a) (h : a < b) :
    daysBeforeMonth year a + daysInMonth year a ≤ daysBeforeMonth year b := by
  induction b, h using Nat.le_induction with
  | base =>
    obtain ⟨a, rfl⟩ : ∃ a', a = a' + 1 := ⟨a - 1, by omega⟩
    simp [daysBeforeMonth, List.range_succ]
  | succ b hab ih =>
    obtain ⟨b, rfl⟩ : ∃ b', b = b' + 1 := ⟨b - 1, by omega⟩
    refine ih.trans ?_
    simp [daysBeforeMonth, List.range_succ]

/-- Later dates have larger ordinals. -/
theorem toOrdinal_lt_of_lt {a b : CivilDate} (h : a < b) : a.toOrdinal < b.toOrdinal := by
  have ha : daysBeforeMonth a.year a.month + daysInMonth a.year a.month ≤ _ :=
    daysBeforeMonth_add_le a.one_le_month a.month_le
  have had := a.valid.2.2.2.2.2
  have hbd := b.one_le_day
  unfold toOrdinal
  rcases lt_or_eq_of_le (year_le_of_le h.le) with hyear | hyear
  · have hmono := daysBeforeYear_mono (a.valid.1.trans (Nat.le_succ _)) hyear
    rw [daysBeforeYear_succ a.valid.1] at hmono
    omega
  · rcases lt_or_eq_of_le (month_le_of_le h.le hyear) with hmonth | hmonth
    · have hle : daysBeforeMonth a.year a.month + daysInMonth a.year a.month ≤
        daysBeforeMonth a.year b.month := daysBeforeMonth_add_le_of_lt a.one_le_month hmonth
      rw [← hyear]
      omega
    · have hday : a.day < b.day := by
        rw [lt_iff_stamp, stamp, stamp] at h
        omega
      rw [← hyear, ← hmonth]
      omega

theorem toOrdinal_injective : Function.Injective toOrdinal := by
  intro a b h
  rcases lt_trichotomy a b with hlt | heq | hgt
  · exact absurd h (toOrdinal_lt_of_lt hlt).ne
  · exact heq
  · exact absurd h (toOrdinal_lt_of_lt hgt).ne'

/-- The day after a date: no other date lies between. -/
theorem between_consecutive {previous d f : CivilDate} (h : d.daysSince previous = 1) :
    previous < f ∧ f ≤ d ↔ f = d := by
  unfold daysSince at h
  constructor
  · rintro ⟨hlow, hhigh⟩
    rcases lt_or_eq_of_le hhigh with hlt | heq
    · have h1 := toOrdinal_lt_of_lt hlow
      have h2 := toOrdinal_lt_of_lt hlt
      omega
    · exact heq
  · rintro rfl
    refine ⟨?_, le_rfl⟩
    by_contra hnot
    rcases lt_or_eq_of_le (not_lt.mp hnot) with hlt | heq
    · have := toOrdinal_lt_of_lt hlt
      omega
    · rw [heq] at h
      omega

/-- The month that holds the day after `n` days of a year, from a month on. -/
def monthOfDay (year n : Nat) : Nat :=
  ((List.range 12).filter fun m => daysBeforeMonth year (m + 1) ≤ n).length

/-- `date.fromordinal(n)`; `none` outside the years 1 to 9999. -/
def ofOrdinal (ordinal : Int) : Option CivilDate :=
  if ordinal < 1 then none
  else
    let n := ordinal.toNat - 1
    let n400 := n / 146097
    let n := n % 146097
    let n100 := n / 36524
    let n := n % 36524
    let n4 := n / 1461
    let n := n % 1461
    let n1 := n / 365
    let n := n % 365
    let year := n400 * 400 + n100 * 100 + n4 * 4 + n1 + 1
    if n1 = 4 ∨ n100 = 4 then make? (year - 1) 12 31
    else make? year (monthOfDay year n) (n - daysBeforeMonth year (monthOfDay year n) + 1)

/-- The last day of a year. -/
theorem toOrdinal_lastDay {year : Nat} (h : 1 ≤ year) :
    daysBeforeYear year + daysBeforeMonth year 12 + 31 = daysBeforeYear (year + 1) := by
  rw [daysBeforeYear_succ h]
  cases hleap : isLeap year <;> simp [daysBeforeMonth, daysInMonth, hleap, List.range_succ]

/-- The days before a year, by its place in the cycle of 400 years. -/
theorem daysBeforeYear_cycle {n400 n100 n4 n1 : Nat} (h100 : n100 ≤ 3) (h4 : n4 ≤ 24) (h1 : n1 ≤ 3) :
    daysBeforeYear (n400 * 400 + n100 * 100 + n4 * 4 + n1 + 1) =
      n400 * 146097 + n100 * 36524 + n4 * 1461 + n1 * 365 := by
  show (n400 * 400 + n100 * 100 + n4 * 4 + n1) * 365 + (n400 * 400 + n100 * 100 + n4 * 4 + n1) / 4 -
    (n400 * 400 + n100 * 100 + n4 * 4 + n1) / 100 + (n400 * 400 + n100 * 100 + n4 * 4 + n1) / 400 = _
  omega

/-- The month of a day starts on or before it. -/
theorem daysBeforeMonth_monthOfDay_le (year n : Nat) : daysBeforeMonth year (monthOfDay year n) ≤ n := by
  by_contra hnot
  have hmono : ∀ {a b : Nat}, a ≤ b → daysBeforeMonth year (a + 1) ≤ daysBeforeMonth year (b + 1) := by
    intro a b hab
    rcases eq_or_lt_of_le hab with rfl | hlt
    · exact le_rfl
    · have hle : daysBeforeMonth year (a + 1) + daysInMonth year (a + 1) ≤ daysBeforeMonth year (b + 1) :=
        daysBeforeMonth_add_le_of_lt (Nat.succ_pos a) (Nat.succ_lt_succ hlt)
      omega
  -- were the last counted month to start after the day, no later month would be counted
  obtain ⟨k, hk⟩ : ∃ k, monthOfDay year n = k + 1 := by
    refine Nat.exists_eq_succ_of_ne_zero fun hzero => hnot ?_
    rw [hzero]
    exact Nat.zero_le n
  have hsub : ((List.range 12).filter fun m => daysBeforeMonth year (m + 1) ≤ n) ⊆ List.range k := by
    intro m hm
    have hle := of_decide_eq_true (List.mem_filter.mp hm).2
    rw [List.mem_range]
    by_contra hge
    rw [hk] at hnot
    exact hnot ((hmono (not_lt.mp hge)).trans hle)
  have hlen := (List.Nodup.subperm (List.nodup_range.filter _) hsub).length_le
  rw [List.length_range] at hlen
  have hle : monthOfDay year n ≤ k := hlen
  omega

theorem ofOrdinal_of_make {year month day : Nat} {d : CivilDate} (h : make? year month day = some d) :
    d.year = year ∧ d.month = month ∧ d.day = day := by
  unfold make? at h
  split at h
  · cases h
    exact ⟨rfl, rfl, rfl⟩
  · cases h

/-- The date of an ordinal has that ordinal. -/
theorem toOrdinal_of_ofOrdinal {ordinal : Int} {d : CivilDate} (h : ofOrdinal ordinal = some d) :
    (d.toOrdinal : Int) = ordinal := by
  unfold ofOrdinal at h
  split at h
  · cases h
  next hpos =>
  obtain ⟨n, rfl⟩ : ∃ n : Nat, ordinal = n + 1 := ⟨(ordinal - 1).toNat, by omega⟩
  have hn : ((n : Int) + 1).toNat - 1 = n := by omega
  rw [hn] at h
  dsimp only at h
  split at h
  · next hlast =>
    obtain ⟨hy, hm, hd⟩ := ofOrdinal_of_make h
    unfold toOrdinal
    rw [hy, hm, hd]
    simp only [Nat.add_sub_cancel]
    -- the last day of the fourth year of four, or of the fourth century of four
    generalize ha : n / 146097 = a at *
    generalize hb : n % 146097 / 36524 = b at *
    generalize hc : n % 146097 % 36524 / 1461 = c at *
    generalize he : n % 146097 % 36524 % 1461 / 365 = e at *
    obtain ⟨y, hy'⟩ : ∃ y, a * 400 + b * 100 + c * 4 + e = y + 1 :=
      Nat.exists_eq_succ_of_ne_zero (by omega)
    rw [hy', toOrdinal_lastDay (Nat.succ_pos y)]
    show ((((y + 1) * 365 + (y + 1) / 4 - (y + 1) / 100 + (y + 1) / 400 : Nat)) : Int) = n + 1
    rcases hlast with rfl | rfl
    · have hn' : n = a * 146097 + b * 36524 + c * 1461 + 1460 := by omega
      have hc' : c ≤ 23 ∧ b ≤ 3 := by omega
      have hquad : (y + 1) / 4 = a * 100 + b * 25 + c + 1 := by omega
      have hcentury : (y + 1) / 100 = a * 4 + b := by omega
      have hcycle : (y + 1) / 400 = a := by omega
      rw [hquad, hcentury, hcycle, ← hy', hn']
      omega
    · have hn' : n = a * 146097 + 146096 := by omega
      have hc' : c = 0 ∧ e = 0 := by omega
      have hquad : (y + 1) / 4 = a * 100 + 100 := by omega
      have hcentury : (y + 1) / 100 = a * 4 + 4 := by omega
      have hcycle : (y + 1) / 400 = a + 1 := by omega
      rw [hquad, hcentury, hcycle, ← hy', hn', hc'.1, hc'.2]
      omega
  · next hnot =>
    obtain ⟨hy, hm, hd⟩ := ofOrdinal_of_make h
    have hmonth := daysBeforeMonth_monthOfDay_le d.year (n % 146097 % 36524 % 1461 % 365)
    have hyear : daysBeforeYear (n / 146097 * 400 + n % 146097 / 36524 * 100 +
        n % 146097 % 36524 / 1461 * 4 + n % 146097 % 36524 % 1461 / 365 + 1) = _ :=
      daysBeforeYear_cycle (by omega) (by omega) (by omega)
    rw [← hy] at hyear hm hd
    unfold toOrdinal
    rw [hyear, hm, hd]
    omega

/-! ## Texts -/

/-- A number with leading zeros. -/
def padded (width n : Nat) : String :=
  let digits := toString n
  String.ofList (List.replicate (width - digits.length) '0') ++ digits

/-- `date.isoformat()`. -/
def isoformat (d : CivilDate) : String :=
  padded 4 d.year ++ "-" ++ padded 2 d.month ++ "-" ++ padded 2 d.day

theorem toList_padded (width n : Nat) : (padded width n).toList =
    List.replicate (width - (toString n).length) '0' ++ Nat.toDigits 10 n := by
  simp [padded, String.toList_append]

/-- The digits of a padded number are digits. -/
theorem isDigit_of_mem_padded {width n : Nat} {c : Char} (h : c ∈ (padded width n).toList) :
    c.isDigit := by
  rw [toList_padded] at h
  rcases List.mem_append.mp h with hzero | hdigit
  · rw [List.eq_of_mem_replicate hzero]
    rfl
  · exact Nat.isDigit_of_mem_toDigits (by decide) (by decide) hdigit

/-- A padded number is read back. -/
theorem padded_injective (width : Nat) : Function.Injective (padded width) := by
  intro m n h
  have hread : ∀ k, Nat.ofDigitChars 10 (padded width k).toList 0 = k := by
    intro k
    rw [toList_padded, Nat.ofDigitChars_append, Nat.ofDigitChars_replicate_zero, Nat.mul_zero,
      Nat.ofDigitChars_ten_toDigits]
  rw [← hread m, h, hread n]

/-- The parts of an ISO date. -/
theorem toList_isoformat (d : CivilDate) : d.isoformat.toList = (padded 4 d.year).toList ++
    '-' :: ((padded 2 d.month).toList ++ '-' :: (padded 2 d.day).toList) := by
  simp [isoformat, String.toList_append]

/-- The text of a date determines it. -/
theorem isoformat_injective : Function.Injective isoformat := by
  intro a b h
  have hdash : ∀ width n, '-' ∉ (padded width n).toList :=
    fun _ _ hmem => absurd (isDigit_of_mem_padded hmem) (by decide)
  rw [← String.toList_inj, toList_isoformat, toList_isoformat] at h
  obtain ⟨hyear, hrest⟩ := Joined.cut_front (hdash _ _) (hdash _ _) h
  obtain ⟨hmonth, hday⟩ := Joined.cut_front (hdash _ _) (hdash _ _) hrest
  have := padded_injective 4 (String.toList_inj.mp hyear)
  have := padded_injective 2 (String.toList_inj.mp hmonth)
  have := padded_injective 2 (String.toList_inj.mp hday)
  cases a
  cases b
  simp_all

/-- The characters of an ISO date. -/
theorem mem_isoformat {d : CivilDate} {c : Char} (h : c ∈ d.isoformat.toList) :
    c.isDigit ∨ c = '-' := by
  rw [toList_isoformat] at h
  simp only [List.mem_append, List.mem_cons] at h
  rcases h with hyear | rfl | hmonth | rfl | hday
  · exact .inl (isDigit_of_mem_padded hyear)
  · exact .inr rfl
  · exact .inl (isDigit_of_mem_padded hmonth)
  · exact .inr rfl
  · exact .inl (isDigit_of_mem_padded hday)

example : (CivilDate.make? 2024 2 29).map toOrdinal = some 738945 ∧
    ofOrdinal 738945 = CivilDate.make? 2024 2 29 ∧
    (CivilDate.make? 2024 2 29).map isoformat = some "2024-02-29" := by decide +kernel

end CivilDate

end PortfolioManagement
