import PortfolioManagement.MarketTime.Sessions

/-!
# The scan and the sessions

The scan of `has_market_session_between` visits the openings of its market in their order, those of weekends
too. It ends at the first that is after the window, or that is of a weekday and after its start.
-/

namespace PortfolioManagement.MarketTime

variable {ζ : Type} [DecidableEq ζ] {zs : MarketZones ζ} {m : Market}

/-- A minute of the day. -/
def minutes (time : ℤ × ℤ) : ℤ := 60 * time.1 + time.2

/-- The zone of a market. -/
def Market.zone (m : Market) (zs : MarketZones ζ) : Zone := zs.zone (probes zs m).tz

/-- One of the sessions opens after `a`, and at or before `b`. -/
def OpensIn (m : Market) (z : Zone) (a b : ℚ) : Prop :=
  ∃ i, m.HasSession i ∧ a < opensAt z i ∧ opensAt z i ≤ b

/-- The minute of the last opening of a day. -/
def Market.lastOpening : Market → ℤ
  | .cn | .hk => 780
  | .us => 570

/-- The last opening of the calendar, on December 31 of the year 9999, a Friday. -/
def Market.finalOpening (m : Market) (z : Zone) : ℚ := instantOf z (calendarDays - 1) m.lastOpening

theorem openTimes_minutes (zs : MarketZones ζ) (m : Market) :
    (probes zs m).openTimes.map minutes = m.sessions.map Prod.fst := by
  cases m <;> rfl

theorem mem_openTimes {time : ℤ × ℤ} (h : time ∈ (probes zs m).openTimes) :
    570 ≤ minutes time ∧ minutes time ≤ m.lastOpening ∧ m.lastOpening ≤ 780 := by
  cases m <;> simp only [probes, List.mem_cons, List.not_mem_nil, or_false] at h
  · rcases h with rfl | rfl <;> decide
  · rcases h with rfl | rfl <;> decide
  · rcases h with rfl
    decide

theorem openTimes_sorted (zs : MarketZones ζ) (m : Market) :
    (probes zs m).openTimes.Pairwise fun a b => minutes a < minutes b := by
  cases m <;> simp [probes, minutes]

theorem exists_session {time : ℤ × ℤ} (h : time ∈ (probes zs m).openTimes) :
    ∃ s ∈ m.sessions, s.1 = minutes time := by
  have hmem : minutes time ∈ m.sessions.map Prod.fst := openTimes_minutes zs m ▸
    List.mem_map_of_mem h
  obtain ⟨s, hs, heq⟩ := List.mem_map.mp hmem
  exact ⟨s, hs, heq⟩

theorem exists_openTime (zs : MarketZones ζ) {s : ℤ × ℤ} (h : s ∈ m.sessions) :
    ∃ time ∈ (probes zs m).openTimes, minutes time = s.1 := by
  have hmem : s.1 ∈ (probes zs m).openTimes.map minutes := openTimes_minutes zs m ▸
    List.mem_map_of_mem h
  exact List.mem_map.mp hmem

theorem weekday_final : Weekday (calendarDays - 1) := by decide

/-- A weekday is at most three days away. -/
theorem exists_weekday (day : ℤ) : ∃ next, day < next ∧ next ≤ day + 3 ∧ Weekday next := by
  unfold Weekday weekday
  rcases lt_or_ge ((day + 1) % 7) 5 with h | h
  · exact ⟨day + 1, by omega, by omega, h⟩
  · rcases lt_or_ge ((day + 2) % 7) 5 with h' | h'
    · exact ⟨day + 2, by omega, by omega, h'⟩
    · exact ⟨day + 3, by omega, by omega, by omega⟩

theorem wall_day {wall : ℚ} (h : InCalendar wall) : 0 ≤ dayOf wall ∧ dayOf wall < calendarDays := by
  obtain ⟨hnonneg, hlt⟩ := h
  have hfloor : 0 ≤ ⌊wall⌋ := Int.floor_nonneg.mpr hnonneg
  have hfloor' : ⌊wall⌋ < 1440 * calendarDays := Int.floor_lt.mpr hlt
  unfold dayOf
  omega

/-- The openings of the days before a day are not after the start. -/
def Past (m : Market) (z : Zone) (start : ℚ) (day : ℤ) : Prop :=
  ∀ i, m.HasSession i → i.1 < day → opensAt z i ≤ start

/-- The openings of a day are past when its probes are. -/
theorem past_next {start end_ : ℚ} {day : ℤ} (hpast : Past m (m.zone zs) start day)
    (htimes : Weekday day → ∀ time ∈ (probes zs m).openTimes,
      instantOf (m.zone zs) day (minutes time) ≤ start ∧ instantOf (m.zone zs) day (minutes time) ≤ end_) :
    Past m (m.zone zs) start (day + 1) := by
  rintro ⟨day', s⟩ ⟨hday', hs⟩ hlt
  have hcases : day' < day ∨ day' = day := by
    have hlt' : day' < day + 1 := hlt
    omega
  rcases hcases with hbefore | rfl
  · exact hpast (day', s) ⟨hday', hs⟩ hbefore
  · obtain ⟨time, htime, heq⟩ := exists_openTime zs hs
    have hle := (htimes hday' time htime).1
    rw [heq] at hle
    exact hle

/-! ## One probe -/

omit [DecidableEq ζ] in
theorem probeDt_some (tz : ζ) {day : ℤ} {time : ℤ × ℤ} (hday : 0 ≤ day) (hlast : day < calendarDays)
    (hfirst : 570 ≤ minutes time) (hle : minutes time ≤ 780) :
    ∃ dt, probeDt tz day time = some dt ∧ dt.wall = wallAt day (minutes time) ∧ dt.fold = false ∧
      dt.tzinfo = tz := by
  have hvalid : InCalendar (wallAt day (60 * time.1 + time.2)) := by
    unfold minutes at hfirst hle
    refine ⟨Int.cast_nonneg ?_, Int.cast_lt.mpr ?_⟩
    · omega
    · omega
  unfold probeDt
  rw [dif_pos hvalid]
  exact ⟨_, rfl, rfl, rfl, rfl⟩

/-- The predicate of a market on a probe in its own zone. -/
theorem isOpen_probe {dt : DateTime ζ} (h : dt.tzinfo = (probes zs m).tz) :
    (probes zs m).isOpen dt = some (m.isOpen dt.wall) := by
  cases m
  · rfl
  · rfl
  · have hsame : dt.astimezone zs.toZones zs.newYork = some dt := if_pos h
    show isUsMarketOpen zs dt = _
    unfold isUsMarketOpen
    rw [hsame]
    rfl

/-- An opening is open on weekdays. -/
theorem isOpen_opening {day : ℤ} {time : ℤ × ℤ} (h : time ∈ (probes zs m).openTimes) :
    m.isOpen (wallAt day (minutes time)) = decide (Weekday day) := by
  obtain ⟨s, hs, heq⟩ := exists_session h
  have hbounds := session_bounds hs
  have hday : dayOf (wallAt day (minutes time)) = day := by
    unfold dayOf
    rw [floor_wallAt]
    omega
  have hminute : minuteOf (wallAt day (minutes time)) = minutes time := by
    unfold minuteOf
    rw [floor_wallAt]
    omega
  rw [Bool.eq_iff_iff, isOpen_iff_minutes, hday, hminute, decide_eq_true_eq]
  exact ⟨fun h => h.1, fun h => ⟨h, s, hs, heq.le, heq ▸ hbounds.2.2.1⟩⟩

section
variable (hz : Steady (m.zone zs))
include hz

/-- A time is before an opening of a weekday when its instant is. -/
theorem before_opening {a dt : DateTime ζ} {day : ℤ} {time : ℤ × ℤ} (hday : Weekday day)
    (htime : time ∈ (probes zs m).openTimes) (hwall : dt.wall = wallAt day (minutes time))
    (htz : dt.tzinfo = (probes zs m).tz) :
    a.before zs.toZones dt ↔ a.utc zs.toZones < instantOf (m.zone zs) day (minutes time) := by
  have hbounds := mem_openTimes htime
  unfold DateTime.before
  split_ifs with hsame
  · rw [hwall, hz.lt_iff hday hbounds.1 (by omega) a.wall a.fold]
    unfold DateTime.utc Market.zone
    rw [hsame, htz]
  · have hutc : dt.utc zs.toZones = instantOf (m.zone zs) day (minutes time) := by
      unfold DateTime.utc
      rw [htz, hwall]
      exact hz.utc_eq hday hbounds.1 (by omega) _
    rw [hutc]

/-- A time that is before a probe is before the openings after it. -/
theorem before_later {a dt : DateTime ζ} {day minute : ℤ} (hday : Weekday day) (hfirst : 570 ≤ minute)
    (hlast : minute < 961) (htz : dt.tzinfo = (probes zs m).tz) (hle : dt.wall ≤ wallAt day minute)
    (h : a.before zs.toZones dt) : a.utc zs.toZones < instantOf (m.zone zs) day minute := by
  unfold DateTime.before at h
  split_ifs at h with hsame
  · have hlt := (hz.lt_iff hday hfirst hlast.le a.wall a.fold).mp (h.trans_le hle)
    unfold DateTime.utc
    rw [hsame, htz]
    exact hlt
  · have hutc := hz.utc_le hday hfirst hlast dt.fold hle
    unfold DateTime.utc at h ⊢
    rw [htz] at h
    exact h.trans_le hutc

/-! ## The scan -/

/-- Openings of later days are later. -/
theorem instantOf_le_of_le {day day' minute minute' : ℤ} (hday : Weekday day) (hday' : Weekday day')
    (hfirst : 570 ≤ minute) (hlast : minute < 961) (hfirst' : 570 ≤ minute') (hlast' : minute' < 961)
    (hle : 1440 * day + minute ≤ 1440 * day' + minute') :
    instantOf (m.zone zs) day minute ≤ instantOf (m.zone zs) day' minute' := by
  rw [← hz.utc_eq hday hfirst hlast false]
  exact hz.utc_le hday' hfirst' hlast' false (wallAt_le_wallAt.mpr hle)

/-- The probes of one day: they decide whether a session opens in the window, or none of them is after it or
after its start. -/
theorem scanDay_spec {start : DateTime ζ} (end_ : DateTime ζ) {day : ℤ} (hday : 0 ≤ day) (hlast : day < calendarDays)
    (hpast : Past m (m.zone zs) (start.utc zs.toZones) day) {times : List (ℤ × ℤ)} :
    ∀ {done : List (ℤ × ℤ)}, (probes zs m).openTimes = done ++ times →
      (∀ time ∈ done, Weekday day →
        instantOf (m.zone zs) day (minutes time) ≤ start.utc zs.toZones ∧
        instantOf (m.zone zs) day (minutes time) ≤ end_.utc zs.toZones) →
      (∃ answer, scanDay zs (probes zs m) start end_ day times = some (some answer) ∧
        (answer = true ↔ OpensIn m (m.zone zs) (start.utc zs.toZones) (end_.utc zs.toZones)) ∧
        (start.utc zs.toZones < m.finalOpening (m.zone zs) ∨
          end_.utc zs.toZones < m.finalOpening (m.zone zs))) ∨
      (scanDay zs (probes zs m) start end_ day times = some none ∧
        (Weekday day → ∀ time ∈ (probes zs m).openTimes,
          instantOf (m.zone zs) day (minutes time) ≤ start.utc zs.toZones ∧
          instantOf (m.zone zs) day (minutes time) ≤ end_.utc zs.toZones)) := by
  induction times with
  | nil =>
    intro done hsplit hdone
    rw [List.append_nil] at hsplit
    exact .inr ⟨rfl, fun hweekday time htime => hdone time (hsplit ▸ htime) hweekday⟩
  | cons time times ih =>
    intro done hsplit hdone
    have hmem : time ∈ (probes zs m).openTimes :=
      hsplit ▸ List.mem_append_right _ List.mem_cons_self
    obtain ⟨hfirst, hle, hlatest⟩ := mem_openTimes hmem
    have hfinal : 570 ≤ m.lastOpening := hfirst.trans hle
    obtain ⟨dt, hprobe, hwall, -, htz⟩ := probeDt_some (probes zs m).tz hday hlast hfirst
      (hle.trans hlatest)
    have hsplit' : (probes zs m).openTimes = (done ++ [time]) ++ times := by
      rw [hsplit, List.append_assoc]
      rfl
    have hlater : 1440 * day + minutes time ≤ 1440 * (calendarDays - 1) + m.lastOpening := by omega
    unfold scanDay
    rw [hprobe]
    simp only [Option.bind_eq_bind, Option.bind_some]
    by_cases hend : end_.before zs.toZones dt
    · -- every opening from here on is after the window
      rw [if_pos hend]
      refine .inl ⟨false, rfl, ⟨fun h => Bool.noConfusion h, ?_⟩, .inr ?_⟩
      · rintro ⟨⟨day', s⟩, ⟨hday', hs⟩, hafter, hbefore⟩
        have hsession : s ∈ m.sessions := hs
        have hbounds := session_bounds hsession
        have hend' : 1440 * day + minutes time ≤ 1440 * day' + s.1 →
            end_.utc zs.toZones < instantOf (m.zone zs) day' s.1 :=
          fun hle' => before_later hz hday' hbounds.1 (by omega) htz (hwall ▸ wallAt_le_wallAt.mpr hle') hend
        rcases lt_trichotomy day' day with hlt | rfl | hgt
        · exact absurd (hpast (day', s) ⟨hday', hs⟩ hlt) (not_le.mpr hafter)
        · obtain ⟨other, hother, heq⟩ := exists_openTime zs hsession
          rw [hsplit] at hother
          rcases List.mem_append.mp hother with hother | hother
          · have hstart := (hdone other hother hday').1
            rw [heq] at hstart
            exact absurd hstart (not_le.mpr hafter)
          · have hsorted := openTimes_sorted zs m
            rw [hsplit] at hsorted
            have hminute : minutes time ≤ s.1 := by
              rcases List.mem_cons.mp hother with rfl | hother
              · exact heq.le
              · have hlt : minutes time < minutes other := List.rel_of_pairwise_cons (List.pairwise_append.mp hsorted).2.1 hother
                omega
            exact absurd hbefore (not_le.mpr (hend' (by omega)))
        · exact absurd hbefore (not_le.mpr (hend' (by omega)))
      · exact before_later hz weekday_final hfinal (by omega) htz (hwall ▸ wallAt_le_wallAt.mpr hlater) hend
    · rw [if_neg hend]
      by_cases hweekday : Weekday day
      · have hends := not_lt.mp ((not_congr (before_opening hz hweekday hmem hwall htz)).mp hend)
        by_cases hstart : start.before zs.toZones dt
        · rw [if_pos hstart, isOpen_probe htz, hwall, isOpen_opening hmem, decide_eq_true hweekday]
          have hafter := (before_opening hz hweekday hmem hwall htz).mp hstart
          obtain ⟨s, hs, heq⟩ := exists_session hmem
          have hopens : opensAt (m.zone zs) (day, s) = instantOf (m.zone zs) day (minutes time) := by
            unfold opensAt
            rw [heq]
          refine .inl ⟨true, rfl, ⟨fun _ => ⟨(day, s), ⟨hweekday, hs⟩, ?_, ?_⟩, fun _ => rfl⟩, .inl ?_⟩
          · rw [hopens]
            exact hafter
          · rw [hopens]
            exact hends
          · exact hafter.trans_le (instantOf_le_of_le hz hweekday weekday_final hfirst (by omega) hfinal
              (by omega) hlater)
        · rw [if_neg hstart]
          have hstarts := not_lt.mp ((not_congr (before_opening hz hweekday hmem hwall htz)).mp hstart)
          refine ih hsplit' (List.forall_mem_append.mpr ⟨hdone, List.forall_mem_singleton.mpr ?_⟩)
          exact fun _ => ⟨hstarts, hends⟩
      · have hrest := ih hsplit' (List.forall_mem_append.mpr ⟨hdone, List.forall_mem_singleton.mpr
          (fun h => absurd h hweekday)⟩)
        by_cases hstart : start.before zs.toZones dt
        · rw [if_pos hstart, isOpen_probe htz, hwall, isOpen_opening hmem, decide_eq_false hweekday]
          exact hrest
        · rw [if_neg hstart]
          exact hrest

/-- The scan from a day on, when `first` is the day of the start: it finds whether a session opens in the
window, unless it runs out of the calendar. -/
theorem scan_spec {start : DateTime ζ} (end_ : DateTime ζ) {first : ℤ}
    (hfirst : ∀ i, m.HasSession i → first < i.1 → start.utc zs.toZones < opensAt (m.zone zs) i) {days : Nat} :
    ∀ {day : ℤ}, 0 ≤ day → day < calendarDays → first + 4 ≤ day + days →
      Past m (m.zone zs) (start.utc zs.toZones) day →
      (∃ answer, scan zs (probes zs m) start end_ days day = some answer ∧
        (answer = true ↔ OpensIn m (m.zone zs) (start.utc zs.toZones) (end_.utc zs.toZones)) ∧
        (start.utc zs.toZones < m.finalOpening (m.zone zs) ∨
          end_.utc zs.toZones < m.finalOpening (m.zone zs))) ∨
      (scan zs (probes zs m) start end_ days day = none ∧
        m.finalOpening (m.zone zs) ≤ start.utc zs.toZones ∧
        m.finalOpening (m.zone zs) ≤ end_.utc zs.toZones) := by
  induction days with
  | zero =>
    intro day _ _ hnear hpast
    -- a weekday after the start has been visited
    obtain ⟨next, hnext, hle, hweekday⟩ := exists_weekday first
    obtain ⟨s, hs⟩ : ∃ s, s ∈ m.sessions := by
      cases m <;> exact ⟨_, List.mem_cons_self⟩
    have hbefore := hpast (next, s) ⟨hweekday, hs⟩ (by
      show next < day
      omega)
    exact absurd (hfirst (next, s) ⟨hweekday, hs⟩ hnext) (not_lt.mpr hbefore)
  | succ days ih =>
    intro day hday hlast hnear hpast
    have hspec := scanDay_spec hz end_ hday hlast hpast (List.nil_append (probes zs m).openTimes).symm
      (fun _ h => absurd h List.not_mem_nil)
    unfold scan
    rcases hspec with ⟨answer, hscan, hanswer, hfinal⟩ | ⟨hscan, htimes⟩
    · rw [hscan]
      exact .inl ⟨answer, rfl, hanswer, hfinal⟩
    · rw [hscan]
      simp only [Option.bind_eq_bind, Option.bind_some]
      by_cases hnext : day + 1 < calendarDays
      · rw [if_pos hnext]
        exact ih (by omega) hnext (by omega) (past_next hpast htimes)
      · rw [if_neg hnext]
        have hday' : day = calendarDays - 1 := by omega
        obtain ⟨time, htime, heq⟩ : ∃ time ∈ (probes zs m).openTimes, minutes time = m.lastOpening := by
          cases m
          · exact ⟨(13, 0), List.mem_cons_of_mem _ List.mem_cons_self, rfl⟩
          · exact ⟨(13, 0), List.mem_cons_of_mem _ List.mem_cons_self, rfl⟩
          · exact ⟨(9, 30), List.mem_cons_self, rfl⟩
        have hle := htimes (hday' ▸ weekday_final) time htime
        rw [heq, hday'] at hle
        exact .inr ⟨rfl, hle⟩

/-! ## Windows -/

/-- The scan from the day of the start in the zone of the market. -/
theorem scan_start {start shown : DateTime ζ} (end_ : DateTime ζ)
    (hshown : start.astimezone zs.toZones (probes zs m).tz = some shown) :
    (∃ answer, scan zs (probes zs m) start end_ 45 (dayOf shown.wall) = some answer ∧
      (answer = true ↔ OpensIn m (m.zone zs) (start.utc zs.toZones) (end_.utc zs.toZones)) ∧
      (start.utc zs.toZones < m.finalOpening (m.zone zs) ∨
        end_.utc zs.toZones < m.finalOpening (m.zone zs))) ∨
    (scan zs (probes zs m) start end_ 45 (dayOf shown.wall) = none ∧
      m.finalOpening (m.zone zs) ≤ start.utc zs.toZones ∧
      m.finalOpening (m.zone zs) ≤ end_.utc zs.toZones) := by
  obtain ⟨htz, hutc⟩ := astimezone_some hshown
  have horder : ∀ i, m.HasSession i →
      (shown.wall < wallAt i.1 i.2.1 ↔ start.utc zs.toZones < opensAt (m.zone zs) i) := by
    intro i hi
    have hbounds := session_bounds hi.2
    rw [hz.lt_iff hi.1 hbounds.1 (by omega) shown.wall shown.fold, ← hutc]
    unfold DateTime.utc Market.zone
    rw [htz]
    rfl
  obtain ⟨hday, hlast⟩ := wall_day shown.valid
  have hfirst : ∀ i, m.HasSession i → dayOf shown.wall < i.1 →
      start.utc zs.toZones < opensAt (m.zone zs) i := by
    intro i hi hlt
    refine (horder i hi).mp (lt_wallAt_iff.mpr ?_)
    have hbounds := session_bounds hi.2
    unfold dayOf at hlt
    omega
  have hpast : Past m (m.zone zs) (start.utc zs.toZones) (dayOf shown.wall) := by
    intro i hi hlt
    refine not_lt.mp fun hafter => ?_
    have hwall := lt_wallAt_iff.mp ((horder i hi).mpr hafter)
    have hbounds := session_bounds hi.2
    unfold dayOf at hlt
    omega
  exact scan_spec hz end_ hfirst hday hlast (by omega) hpast

/-- Some instant of the window `(a, b]` is open. -/
def OpenBetween (m : Market) (z : Zone) (a b : ℚ) : Prop := ∃ u, a < u ∧ u ≤ b ∧ m.openAt z u = true

/-- A window with an open instant starts in a session, or has an opening. -/
theorem openBetween_iff {a b : ℚ} : OpenBetween m (m.zone zs) a b ↔
    (a < b ∧ m.openAt (m.zone zs) a = true) ∨ OpensIn m (m.zone zs) a b := by
  unfold OpenBetween
  simp only [hz.openAt_iff]
  exact HalfOpen.window_iff (fun i hi => opensAt_lt_closesAt i hi)

end

/-! ## The query -/

section
variable (zs m)
variable (start end_ : DateTime (Option ζ))

/-- What the query is asked: whether some instant after `start` and not after `end` is open. -/
def SessionBetween : Prop :=
  OpenBetween m (m.zone zs) ((asAware start zs.shanghai).utc zs.toZones) ((asAware end_ zs.shanghai).utc zs.toZones)

/-- `has_market_session_between` gives the answer. -/
def SessionsAgree : Prop :=
  ∃ answer, hasMarketSessionBetween zs m.value (some start) (some end_) = some answer ∧
    (answer = true ↔ SessionBetween zs m start end_)

/-- The start is in a session and before the end, or a session opens in the window. -/
def InSessionOrOpens : Prop :=
  let a := (asAware start zs.shanghai).utc zs.toZones
  let b := (asAware end_ zs.shanghai).utc zs.toZones
  (a < b ∧ m.openAt (m.zone zs) a = true) ∨ OpensIn m (m.zone zs) a b

/-- When the query gives the answer. By cases: the end is not after the start as `datetime` compares them, and
neither does the window hold a session; the clock of the start shows a time of a session, and it is one, or a
session opens in the window; or the clock shows no such time, the start is not in a session (or one opens in
the window), and the calendar does not end before the scan does. -/
def QueryCondition : Prop :=
  let startAware := asAware start zs.shanghai
  let endAware := asAware end_ zs.shanghai
  let a := startAware.utc zs.toZones
  let b := endAware.utc zs.toZones
  if startAware.before zs.toZones endAware then
    match (probes zs m).isOpen startAware with
    | none => False
    | some true => InSessionOrOpens zs m start end_
    | some false =>
      (startAware.astimezone zs.toZones (probes zs m).tz).isSome = true ∧
        (a < m.finalOpening (m.zone zs) ∨ b < m.finalOpening (m.zone zs)) ∧
        (a < b → m.openAt (m.zone zs) a = true → OpensIn m (m.zone zs) a b)
  else ¬ InSessionOrOpens zs m start end_

end

theorem probeOf_value (zs : MarketZones ζ) (m : Market) : probeOf zs m.value = some (probes zs m) := by
  cases m <;> rfl

/-- The query gives the answer exactly under its condition. -/
theorem sessionsAgree_iff (hz : Steady (m.zone zs)) {start end_ : DateTime (Option ζ)} :
    SessionsAgree zs m start end_ ↔ QueryCondition zs m start end_ := by
  have htruth : SessionBetween zs m start end_ ↔ InSessionOrOpens zs m start end_ := openBetween_iff hz
  unfold SessionsAgree QueryCondition
  rw [htruth]
  unfold hasMarketSessionBetween
  simp only [probeOf_value]
  split_ifs with hbefore
  · cases hopen : (probes zs m).isOpen (asAware start zs.shanghai) with
    | none =>
      simp only [Option.bind_eq_bind, Option.bind_none]
      refine ⟨?_, False.elim⟩
      rintro ⟨_, h, -⟩
      cases h
    | some opened =>
      cases opened with
      | true =>
        simp only [Option.bind_eq_bind, Option.bind_some, if_true, Option.pure_def]
        exact ⟨fun ⟨_, h, hanswer⟩ => hanswer.mp (Option.some.inj h).symm, fun h => ⟨true, rfl, fun _ => h, fun _ => rfl⟩⟩
      | false =>
        simp only [Option.bind_eq_bind, Option.bind_some, Bool.false_eq_true, if_false]
        cases hshown : (asAware start zs.shanghai).astimezone zs.toZones (probes zs m).tz with
        | none =>
          simp only [Option.bind_none]
          refine ⟨?_, ?_⟩
          · rintro ⟨_, h, -⟩
            cases h
          · rintro ⟨h, -⟩
            cases h
        | some shown =>
          simp only [Option.bind_some, Option.isSome_some, true_and]
          rcases scan_start hz (asAware end_ zs.shanghai) hshown with
            ⟨answer, hscan, hanswer, hfinal⟩ | ⟨hscan, hstart, hend⟩
          · rw [hscan]
            constructor
            · rintro ⟨answer', hsame, hanswer'⟩
              cases hsame
              exact ⟨hfinal, fun hlt hin => hanswer.mp (hanswer'.mpr (.inl ⟨hlt, hin⟩))⟩
            · rintro ⟨-, hin⟩
              refine ⟨answer, rfl, hanswer.trans ⟨.inr, ?_⟩⟩
              rintro (⟨hlt, hsession⟩ | hopens)
              · exact hin hlt hsession
              · exact hopens
          · rw [hscan]
            constructor
            · rintro ⟨_, h, -⟩
              cases h
            · rintro ⟨hlt | hlt, -⟩
              · exact absurd hlt (not_lt.mpr hstart)
              · exact absurd hlt (not_lt.mpr hend)
  · exact ⟨fun ⟨_, h, hanswer⟩ hin => Bool.noConfusion ((hanswer.mpr hin).symm.trans (Option.some.inj h).symm),
      fun h => ⟨false, rfl, fun h' => Bool.noConfusion h', fun hin => absurd hin h⟩⟩

end PortfolioManagement.MarketTime
