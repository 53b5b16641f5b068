import PortfolioManagement.MarketTime.Agreement

/-!
# Cache lifetimes

The lifetime that `get_cache_ttl` gives while a market is closed ends, on the wall of the market or of
Shanghai, when the market opens next. On the wall of Shanghai it is also the time until then when the zone
does not put its clocks forward before.
-/

namespace PortfolioManagement.MarketTime

variable {ζ : Type} [DecidableEq ζ] {zs : MarketZones ζ} {m : Market}

/-- The first opening after a wall. -/
structure NextOpening (m : Market) (wall : ℚ) (i : ℤ × ℤ × ℤ) : Prop where
  session : m.HasSession i
  after : wall < wallAt i.1 i.2.1
  next : ∀ j, m.HasSession j → wall < wallAt j.1 j.2.1 → wallAt i.1 i.2.1 ≤ wallAt j.1 j.2.1

/-! ## The next opening on a wall -/

theorem daysLater_eq {wall : ℚ} {days hour minute : ℤ} (hwall : InCalendar wall) (hdays : 0 ≤ days) :
    daysLater wall days hour minute = if dayOf wall + days < calendarDays then
      some (wallAt (dayOf wall + days) (60 * hour + minute)) else none := by
  have hiff : InCalendar (wall + (1440 * days : ℤ)) ↔ dayOf wall + days < calendarDays := by
    have hnonneg : (0 : ℚ) ≤ (1440 * days : ℤ) := Int.cast_nonneg (by omega)
    have hfloor : ⌊wall + (1440 * days : ℤ)⌋ = ⌊wall⌋ + 1440 * days := Int.floor_add_intCast _ _
    unfold InCalendar
    rw [← Int.floor_lt, hfloor]
    have hstart : 0 ≤ wall + (1440 * days : ℤ) := add_nonneg hwall.1 hnonneg
    unfold dayOf
    constructor
    · rintro ⟨-, hlt⟩
      omega
    · intro hlt
      exact ⟨hstart, by omega⟩
  unfold daysLater
  exact if_congr hiff rfl rfl

theorem wallAt_lt_iff {wall : ℚ} {day minute : ℤ} :
    wall < wallAt day minute ↔ minuteOf wall + 1440 * dayOf wall < 1440 * day + minute := by
  rw [lt_wallAt_iff]
  unfold minuteOf dayOf
  omega

/-- A market that opens at `open` minutes of a weekday, and nowhere else after the wall before. -/
theorem nextOpening_of {wall : ℚ} {day : ℤ} {s : ℤ × ℤ} (hday : Weekday day) (hs : s ∈ m.sessions)
    (hafter : minuteOf wall + 1440 * dayOf wall < 1440 * day + s.1)
    (hnext : ∀ day' s', Weekday day' → s' ∈ m.sessions →
      minuteOf wall + 1440 * dayOf wall < 1440 * day' + s'.1 → 1440 * day + s.1 ≤ 1440 * day' + s'.1) :
    NextOpening m wall (day, s) :=
  ⟨⟨hday, hs⟩, wallAt_lt_iff.mpr hafter, fun j hj hlt =>
    wallAt_le_wallAt.mpr (hnext j.1 j.2 hj.1 hj.2 (wallAt_lt_iff.mp hlt))⟩

/-- What `_seconds_until_next_cn_open` and its sibling give while the market is closed: the seconds on the wall
to the next opening, unless that is after the calendar. -/
theorem secondsUntilNextOpen_spec {lunch close first last : ℤ} {wall : ℚ} (hwall : InCalendar wall)
    (hsessions : m.sessions = [(570, first), (780, last)])
    (hlunch : lunch = 1130 ∧ first = 691 ∧ close = 1500 ∧ last = 901 ∨
      lunch = 1200 ∧ first = 721 ∧ close = 1600 ∧ last = 961)
    (hclosed : m.isOpen wall = false) : ∃ i, NextOpening m wall i ∧
      secondsUntilNextOpen lunch close wall = if i.1 < calendarDays then
        some (wholeSeconds (wallAt i.1 i.2.1 - wall)) else none := by
  have hminute := minuteOf_bounds wall
  have htime : timeVal wall = minuteOf wall / 60 * 100 + minuteOf wall % 60 := rfl
  have hinside := wall_day hwall
  have hmem : ∀ s, s ∈ m.sessions ↔ s = (570, first) ∨ s = (780, last) := fun s => by
    rw [hsessions, List.mem_cons, List.mem_singleton]
  have hopens : ∀ s ∈ m.sessions, s.1 = 570 ∨ s.1 = 780 := by
    intro s hs
    rcases (hmem s).mp hs with rfl | rfl
    · exact .inl rfl
    · exact .inr rfl
  have hmorning : ((570, first) : ℤ × ℤ) ∈ m.sessions := (hmem _).mpr (.inl rfl)
  have hafternoon : ((780, last) : ℤ × ℤ) ∈ m.sessions := (hmem _).mpr (.inr rfl)
  -- while the market is closed no wall is in one of its sessions
  have hout : Weekday (dayOf wall) → (minuteOf wall < 570 ∨ first ≤ minuteOf wall) ∧
      (minuteOf wall < 780 ∨ last ≤ minuteOf wall) := by
    intro hday
    have hno := (Bool.eq_false_iff.mp hclosed)
    constructor
    · by_contra hin
      exact hno (isOpen_iff_minutes.mpr ⟨hday, _, hmorning, by omega, by omega⟩)
    · by_contra hin
      exact hno (isOpen_iff_minutes.mpr ⟨hday, _, hafternoon, by omega, by omega⟩)
  unfold Weekday at hout
  unfold secondsUntilNextOpen
  simp only
  by_cases hweekend : 5 ≤ weekday (dayOf wall)
  · -- the next Monday
    rw [if_pos hweekend, daysLater_eq hwall (by unfold weekday; omega)]
    refine ⟨(dayOf wall + (7 - weekday (dayOf wall)), 570, first), nextOpening_of ?_ hmorning ?_ ?_, ?_⟩
    · unfold Weekday weekday
      omega
    · unfold weekday at hweekend ⊢
      omega
    · intro day' s' hday' hs' hlt
      have hopen := hopens s' hs'
      unfold Weekday at hday'
      unfold weekday at hweekend hday' ⊢
      omega
    · split_ifs <;> rfl
  · rw [if_neg hweekend]
    have hweekday : weekday (dayOf wall) < 5 := by omega
    have hclosing := hout hweekday
    by_cases hearly : timeVal wall < 930
    · rw [if_pos hearly]
      refine ⟨(dayOf wall, 570, first), nextOpening_of hweekday hmorning ?_ ?_, ?_⟩
      · show minuteOf wall + 1440 * dayOf wall < 1440 * dayOf wall + 570
        omega
      · intro day' s' hday' hs' hlt
        have hopen := hopens s' hs'
        show 1440 * dayOf wall + 570 ≤ 1440 * day' + s'.1
        omega
      · rw [if_pos hinside.2]
        rfl
    · rw [if_neg hearly]
      by_cases hlate : close ≤ timeVal wall
      · -- the next weekday
        rw [if_pos hlate, daysLater_eq hwall (by split_ifs <;> decide)]
        have hlast : last ≤ minuteOf wall := by omega
        refine ⟨(dayOf wall + (if weekday (dayOf wall) = 4 then 3 else 1), 570, first),
          nextOpening_of ?_ hmorning ?_ ?_, ?_⟩
        · unfold Weekday weekday
          unfold weekday at hweekday
          split_ifs <;> omega
        · show _ < 1440 * (dayOf wall + _) + 570
          split_ifs <;> omega
        · intro day' s' hday' hs' hlt
          have hopen := hopens s' hs'
          show 1440 * (dayOf wall + _) + 570 ≤ 1440 * day' + s'.1
          unfold Weekday at hday'
          unfold weekday at hweekday hday' ⊢
          split_ifs <;> omega
        · split_ifs <;> rfl
      · -- the lunch break
        rw [if_neg hlate, if_pos (by omega)]
        refine ⟨(dayOf wall, 780, last), nextOpening_of hweekday hafternoon ?_ ?_, ?_⟩
        · show minuteOf wall + 1440 * dayOf wall < 1440 * dayOf wall + 780
          omega
        · intro day' s' hday' hs' hlt
          have hopen := hopens s' hs'
          show 1440 * dayOf wall + 780 ≤ 1440 * day' + s'.1
          omega
        · rw [if_pos hinside.2]
          rfl

theorem skipWeekend_spec (day : ℤ) : Weekday (skipWeekend day) ∧ day ≤ skipWeekend day ∧
    ∀ day', Weekday day' → day ≤ day' → skipWeekend day ≤ day' := by
  unfold Weekday
  fun_induction skipWeekend day with
  | case1 day hweekend ih =>
    obtain ⟨hweekday, hle, hleast⟩ := ih
    refine ⟨hweekday, by omega, fun day' hday' hlt => hleast day' hday' ?_⟩
    rcases hlt.lt_or_eq with hlt | rfl
    · omega
    · omega
  | case2 day hweekday => exact ⟨by omega, le_rfl, fun _ _ hle => hle⟩

omit [DecidableEq ζ] in
/-- The next opening on the wall of New York. -/
theorem nextOpenLocal_spec {now next : DateTime ζ} (hclosed : isUsSession now.wall = false)
    (h : nextOpenLocal now = some next) : ∃ i, NextOpening .us now.wall i ∧ next.wall = wallAt i.1 i.2.1 ∧
      next.tzinfo = now.tzinfo := by
  have hminute := minuteOf_bounds now.wall
  have htime : timeVal now.wall = minuteOf now.wall / 60 * 100 + minuteOf now.wall % 60 := rfl
  have hmem : ((570, 960) : ℤ × ℤ) ∈ Market.us.sessions := List.mem_cons_self
  have hopens : ∀ s ∈ Market.us.sessions, s.1 = 570 := fun s hs => by
    rcases List.mem_singleton.mp hs with rfl
    rfl
  have hout : weekday (dayOf now.wall) < 5 → minuteOf now.wall < 570 ∨ 960 ≤ minuteOf now.wall := by
    intro hday
    by_contra hin
    refine Bool.eq_false_iff.mp hclosed (isOpen_iff_minutes.mpr ⟨hday, _, hmem, ?_, ?_⟩)
    · show 570 ≤ minuteOf now.wall
      omega
    · show minuteOf now.wall < 960
      omega
  unfold nextOpenLocal at h
  by_cases hearly : weekday (dayOf now.wall) < 5 ∧ timeVal now.wall < 930
  · rw [if_pos hearly] at h
    split_ifs at h with hvalid
    cases h
    refine ⟨(dayOf now.wall, 570, 960), nextOpening_of hearly.1 hmem ?_ ?_, rfl, rfl⟩
    · show _ < 1440 * dayOf now.wall + 570
      omega
    · intro day' s' hday' hs' hlt
      have hopen := hopens s' hs'
      show 1440 * dayOf now.wall + 570 ≤ 1440 * day' + s'.1
      omega
  · rw [if_neg hearly] at h
    split_ifs at h with hvalid
    cases h
    obtain ⟨hweekday, hle, hleast⟩ := skipWeekend_spec (dayOf now.wall + 1)
    refine ⟨(skipWeekend (dayOf now.wall + 1), 570, 960), nextOpening_of hweekday hmem ?_ ?_, rfl, rfl⟩
    · show _ < 1440 * skipWeekend (dayOf now.wall + 1) + 570
      omega
    · intro day' s' hday' hs' hlt
      have hopen := hopens s' hs'
      show 1440 * skipWeekend (dayOf now.wall + 1) + 570 ≤ 1440 * day' + s'.1
      have hnot : dayOf now.wall < day' := by
        by_contra hnot
        have hsame : day' = dayOf now.wall := by omega
        have hclosing := hout (hsame ▸ hday')
        have htoday : weekday (dayOf now.wall) < 5 := hsame ▸ hday'
        omega
      have hskip := hleast day' hday' (by omega)
      omega

/-! ## Lifetimes -/

/-- From a closed time on, the market is not open before its next opening. -/
theorem opensAt_le {z : Zone} (hz : Steady z) {wall now : ℚ} {fold : Bool} {i : ℤ × ℤ × ℤ}
    (hutc : z.utc wall fold = now) (hnext : NextOpening m wall i) (hclosed : m.openAt z now = false)
    {u : ℚ} (hu : now ≤ u) (hopen : m.openAt z u = true) : opensAt z i ≤ u := by
  have hbounds := session_bounds hnext.session.2
  rcases HalfOpen.covers_or_lt (hz.openAt_iff.mp hopen) hu with hcovers | ⟨j, hj, hlt, hle⟩
  · rw [hz.openAt_iff.mpr hcovers] at hclosed
    cases hclosed
  · have hbounds' := session_bounds hj.2
    have hwall : wall < wallAt j.1 j.2.1 := by
      rw [hz.lt_iff hj.1 hbounds'.1 (by omega) wall fold, hutc]
      exact hlt
    refine le_trans ?_ hle
    unfold opensAt
    rw [← hz.utc_eq hnext.session.1 hbounds.1 (by omega) false]
    exact hz.utc_le hj.1 hbounds'.1 (by omega) false (hnext.next j hj hwall)

/-- Whole seconds do not reach past a time that is whole seconds away from their end, when it is not before
it. -/
theorem wholeSeconds_le_iff {x : ℚ} (hx : 0 ≤ x) (k : ℤ) :
    (wholeSeconds x : ℚ) / 60 ≤ x - k / 60 ↔ k ≤ 0 := by
  unfold wholeSeconds
  rw [if_pos hx]
  have hle : ((⌊60 * x⌋ : ℤ) : ℚ) ≤ 60 * x := Int.floor_le _
  have hlt : 60 * x < ((⌊60 * x⌋ : ℤ) : ℚ) + 1 := Int.lt_floor_add_one _
  constructor
  · intro h
    have hk : (k : ℚ) < 1 := by linarith
    have hk' : k < 1 := by exact_mod_cast hk
    omega
  · intro hk
    have hk' : (k : ℚ) ≤ 0 := by exact_mod_cast hk
    linarith

section
variable (zs m)

/-- The lifetime chosen while the market is closed never reaches past an instant at which it is open. -/
def LifetimeSafe (now : ℚ) : Prop :=
  ∀ ttl, getCacheTtl zs m.value now = some ttl → m.openAt (m.zone zs) now = false →
    ∀ u, now ≤ u → m.openAt (m.zone zs) u = true → now + ttl / 60 ≤ u

/-- When the lifetime is safe: for the United States always, for the others when the clocks of Shanghai are not
ahead, at the next opening, of what they are while the market is closed. -/
def ClockCondition (now : ℚ) : Prop :=
  m = .us ∨ ∀ i, m.openAt (m.zone zs) now = false → InCalendar ((m.zone zs).fromutc now).1 →
    NextOpening m ((m.zone zs).fromutc now).1 i → i.1 < calendarDays →
    (m.zone zs).offset (wallAt i.1 i.2.1) false ≤
      (m.zone zs).offset ((m.zone zs).fromutc now).1 ((m.zone zs).fromutc now).2

end

omit [DecidableEq ζ] in
theorem nowIn_eq {tz : ζ} {u : ℚ} (h : InCalendar ((zs.zone tz).fromutc u).1) :
    nowIn zs.toZones tz u = some ⟨_, ((zs.zone tz).fromutc u).2, tz, h⟩ := dif_pos h

/-- The lifetime of a closed market that takes its next opening from the wall of Shanghai. -/
theorem lifetime_of_wall (hz : Steady (m.zone zs)) (now : ℚ)
    (httl : m.openAt (m.zone zs) now = false → InCalendar ((m.zone zs).fromutc now).1 →
      ∃ i, NextOpening m ((m.zone zs).fromutc now).1 i ∧ getCacheTtl zs m.value now =
        if i.1 < calendarDays then some (wholeSeconds (wallAt i.1 i.2.1 - ((m.zone zs).fromutc now).1))
        else none)
    (hnone : ¬ InCalendar ((m.zone zs).fromutc now).1 → getCacheTtl zs m.value now = none) :
    LifetimeSafe zs m now ↔ ∀ i, m.openAt (m.zone zs) now = false →
      InCalendar ((m.zone zs).fromutc now).1 → NextOpening m ((m.zone zs).fromutc now).1 i →
      i.1 < calendarDays → (m.zone zs).offset (wallAt i.1 i.2.1) false ≤
        (m.zone zs).offset ((m.zone zs).fromutc now).1 ((m.zone zs).fromutc now).2 := by
  have hutc := (m.zone zs).utc_fromutc now
  -- the seconds reach the opening when the offset has not grown
  have hreach : ∀ i, NextOpening m ((m.zone zs).fromutc now).1 i →
      (now + (wholeSeconds (wallAt i.1 i.2.1 - ((m.zone zs).fromutc now).1) : ℚ) / 60 ≤
        opensAt (m.zone zs) i ↔ (m.zone zs).offset (wallAt i.1 i.2.1) false ≤
          (m.zone zs).offset ((m.zone zs).fromutc now).1 ((m.zone zs).fromutc now).2) := by
    intro i hi
    have hbounds := session_bounds hi.session.2
    obtain ⟨k, hk⟩ := (m.zone zs).wholeSeconds (wallAt i.1 i.2.1) false
    obtain ⟨k', hk'⟩ := (m.zone zs).wholeSeconds ((m.zone zs).fromutc now).1 ((m.zone zs).fromutc now).2
    have hopens : opensAt (m.zone zs) i = wallAt i.1 i.2.1 - k / 60 := by
      unfold opensAt
      rw [← hz.utc_eq hi.session.1 hbounds.1 (by omega) false]
      unfold Zone.utc
      rw [hk]
    have hseconds := wholeSeconds_le_iff (sub_nonneg.mpr hi.after.le) (k - k')
    rw [hk'] at hutc
    have hcast : ((k - k' : ℤ) : ℚ) = k - k' := Int.cast_sub k k'
    have hdivide : ((k - k' : ℤ) : ℚ) / 60 = k / 60 - k' / 60 := by rw [hcast, sub_div]
    rw [hdivide] at hseconds
    have hoffsets : ((k : ℚ) / 60 ≤ k' / 60) ↔ k - k' ≤ 0 := by
      constructor
      · intro h
        have hle : (k : ℚ) ≤ k' := by linarith
        have hle' : k ≤ k' := by exact_mod_cast hle
        omega
      · intro h
        have hle : k ≤ k' := by omega
        have hle' : (k : ℚ) ≤ k' := by exact_mod_cast hle
        linarith
    rw [hopens, hk, hk', hoffsets, ← hseconds]
    constructor
    · intro h
      linarith
    · intro h
      linarith
  constructor
  · intro hsafe i hclosed hin hi hcalendar
    obtain ⟨j, hj, hget⟩ := httl hclosed hin
    have hsame : wallAt i.1 i.2.1 = wallAt j.1 j.2.1 :=
      le_antisymm (hi.next j hj.session hj.after) (hj.next i hi.session hi.after)
    have hbounds := session_bounds hi.session.2
    have hbounds' := session_bounds hj.session.2
    have hday : i.1 = j.1 := by
      have h₁ := wallAt_le_wallAt.mp hsame.le
      have h₂ := wallAt_le_wallAt.mp hsame.ge
      omega
    rw [if_pos (hday ▸ hcalendar), ← hsame] at hget
    have hopen : m.openAt (m.zone zs) (opensAt (m.zone zs) i) = true :=
      hz.openAt_iff.mpr ⟨i, hi.session, le_rfl, opensAt_lt_closesAt i hi.session⟩
    have hlater : now ≤ opensAt (m.zone zs) i := by
      have hlt := (hz.lt_iff hi.session.1 hbounds.1 (by omega) ((m.zone zs).fromutc now).1
        ((m.zone zs).fromutc now).2).mp hi.after
      unfold Zone.utc at hlt
      rw [hutc] at hlt
      exact hlt.le
    exact (hreach i hi).mp (hsafe _ hget hclosed _ hlater hopen)
  · intro hclock ttl hget hclosed u hu hopen
    have hin : InCalendar ((m.zone zs).fromutc now).1 := by
      by_contra hout
      rw [hnone hout] at hget
      cases hget
    obtain ⟨i, hi, hget'⟩ := httl hclosed hin
    rw [hget'] at hget
    split_ifs at hget with hcalendar
    cases hget
    have hle := (hreach i hi).mpr (hclock i hclosed hin hi hcalendar)
    exact hle.trans (opensAt_le hz hutc hi hclosed hu hopen)

omit [DecidableEq ζ] in
theorem nowIn_none {tz : ζ} {u : ℚ} (h : ¬ InCalendar ((zs.zone tz).fromutc u).1) :
    nowIn zs.toZones tz u = none := dif_neg h

theorem getCacheTtl_none {key : String} {now : ℚ} (h : ¬ InCalendar ((zs.zone zs.shanghai).fromutc now).1) :
    getCacheTtl zs key now = none := by
  unfold getCacheTtl
  rw [nowIn_none h]
  rfl

theorem getCacheTtl_cn {now : ℚ} (h : InCalendar ((zs.zone zs.shanghai).fromutc now).1)
    (hclosed : isCnMarketOpen ((zs.zone zs.shanghai).fromutc now).1 = false) :
    getCacheTtl zs "cn" now = secondsUntilNextCnOpen ((zs.zone zs.shanghai).fromutc now).1 := by
  unfold getCacheTtl
  rw [nowIn_eq h]
  simp only [Option.bind_eq_bind, Option.bind_some, if_true, hclosed, Bool.false_eq_true, if_false]

theorem getCacheTtl_hk {now : ℚ} (h : InCalendar ((zs.zone zs.shanghai).fromutc now).1)
    (hclosed : isHkMarketOpen ((zs.zone zs.shanghai).fromutc now).1 = false) :
    getCacheTtl zs "hk" now = secondsUntilNextHkOpen ((zs.zone zs.shanghai).fromutc now).1 := by
  have hkey : ¬ "hk" = "cn" := by decide
  unfold getCacheTtl
  rw [nowIn_eq h]
  simp only [Option.bind_eq_bind, Option.bind_some, if_true, if_neg hkey, hclosed, Bool.false_eq_true, if_false]

/-- A time shown in another zone is shown as its instant is. -/
theorem shown_wall {now shown : DateTime ζ} {tz tz' : ζ} {u : ℚ} (hnow : nowIn zs.toZones tz u = some now)
    (hshown : now.astimezone zs.toZones tz' = some shown) : shown.wall = ((zs.zone tz').fromutc u).1 := by
  obtain ⟨htz, hutc, hwall⟩ := nowIn_some hnow
  unfold DateTime.astimezone at hshown
  split_ifs at hshown with hsame hin
  · cases hshown
    rw [hwall, ← htz, hsame]
  · simp only [hutc] at hshown
    split_ifs at hshown with hvalid
    cases hshown
    rfl

/-- The lifetime of the United States. -/
theorem getCacheTtl_us {now : ℚ} {ttl : ℤ} (h : getCacheTtl zs "us" now = some ttl)
    (hclosed : Market.us.openAt (zs.zone zs.newYork) now = false) :
    ∃ shown next : DateTime ζ, shown.wall = ((zs.zone zs.newYork).fromutc now).1 ∧ shown.tzinfo = zs.newYork ∧
      shown.utc zs.toZones = now ∧ nextOpenLocal shown = some next ∧
      ttl = max 0 (wholeSeconds (next.utc zs.toZones - now)) := by
  have hkey : ¬ "us" = "cn" := by decide
  have hkey' : ¬ "us" = "hk" := by decide
  unfold getCacheTtl at h
  cases hnow : nowIn zs.toZones zs.shanghai now with
  | none =>
    rw [hnow] at h
    cases h
  | some aware =>
    obtain ⟨-, hutc, -⟩ := nowIn_some hnow
    rw [hnow] at h
    simp only [Option.bind_eq_bind, Option.bind_some, if_neg hkey, if_neg hkey', if_true] at h
    unfold isUsMarketOpen at h
    cases hshown : aware.astimezone zs.toZones zs.newYork with
    | none =>
      rw [hshown] at h
      cases h
    | some shown =>
      have hwall := shown_wall hnow hshown
      obtain ⟨htz, hinstant⟩ := astimezone_some hshown
      have hsession : isUsSession shown.wall = false := by
        rw [hwall]
        exact hclosed
      rw [hshown] at h
      simp only [Option.map_some, Option.bind_some, hsession, Bool.false_eq_true, if_false] at h
      unfold secondsUntilNextUsOpen at h
      rw [hshown] at h
      simp only [Option.bind_eq_bind, Option.bind_some, hsession, Bool.false_eq_true, if_false] at h
      obtain ⟨next, hnext, h⟩ := Option.bind_eq_some_iff.mp h
      obtain ⟨nextUtc, hnextUtc, h⟩ := Option.bind_eq_some_iff.mp h
      obtain ⟨nowUtc, hnowUtc, h⟩ := Option.bind_eq_some_iff.mp h
      obtain ⟨htz', hnextInstant⟩ := astimezone_some hnextUtc
      obtain ⟨htz'', hnowInstant⟩ := astimezone_some hnowUtc
      refine ⟨shown, next, hwall, htz, hinstant.trans hutc, hnext, ?_⟩
      rw [← Option.some.inj h, ← utc_of_utc htz', ← utc_of_utc htz'', hnextInstant, hnowInstant, hutc]

/-- The lifetime of the United States never reaches past an open instant. -/
theorem lifetimeSafe_us (hz : Steady (zs.zone zs.newYork)) (now : ℚ) : LifetimeSafe zs .us now := by
  intro ttl hget hclosed u hu hopen
  obtain ⟨shown, next, hwall, htz, hutc, hnext, rfl⟩ := getCacheTtl_us hget hclosed
  have hsession : isUsSession shown.wall = false := by
    rw [hwall]
    exact hclosed
  obtain ⟨i, hi, hnextWall, hnextTz⟩ := nextOpenLocal_spec hsession hnext
  have hbounds := session_bounds hi.session.2
  have hinstant : (zs.zone zs.newYork).utc shown.wall shown.fold = now := by
    rw [← hutc]
    unfold DateTime.utc
    rw [htz]
  have hopens : next.utc zs.toZones = opensAt (zs.zone zs.newYork) i := by
    unfold DateTime.utc
    rw [hnextTz, htz, hnextWall]
    exact hz.utc_eq hi.session.1 hbounds.1 (by omega) _
  have hafter : now < opensAt (zs.zone zs.newYork) i := by
    have hlt := (hz.lt_iff hi.session.1 hbounds.1 (by omega) shown.wall shown.fold).mp hi.after
    rw [hinstant] at hlt
    exact hlt
  have hseconds := (wholeSeconds_le_iff (sub_nonneg.mpr hafter.le) 0).mpr le_rfl
  have hpositive : 0 ≤ wholeSeconds (opensAt (zs.zone zs.newYork) i - now) := by
    unfold wholeSeconds
    rw [if_pos (sub_nonneg.mpr hafter.le)]
    exact Int.floor_nonneg.mpr (by linarith)
  rw [Int.cast_zero, zero_div, sub_zero] at hseconds
  rw [hopens, max_eq_right hpositive]
  have hle := opensAt_le hz hinstant hi hclosed hu hopen
  linarith

/-- The lifetime is safe exactly under its condition. -/
theorem lifetimeSafe_iff (hsh : Steady (zs.zone zs.shanghai)) (hny : Steady (zs.zone zs.newYork)) (now : ℚ) :
    LifetimeSafe zs m now ↔ ClockCondition zs m now := by
  cases m with
  | cn =>
    have hiff := lifetime_of_wall (show Steady (Market.cn.zone zs) from hsh) now (fun hclosed hin => by
      obtain ⟨i, hi, hseconds⟩ := secondsUntilNextOpen_spec (m := .cn) hin rfl
        (.inl ⟨rfl, rfl, rfl, rfl⟩) hclosed
      exact ⟨i, hi, (getCacheTtl_cn hin hclosed).trans hseconds⟩) (fun hout => getCacheTtl_none hout)
    unfold ClockCondition
    rw [hiff]
    exact (or_iff_right (fun h => Market.noConfusion h)).symm
  | hk =>
    have hiff := lifetime_of_wall (show Steady (Market.hk.zone zs) from hsh) now (fun hclosed hin => by
      obtain ⟨i, hi, hseconds⟩ := secondsUntilNextOpen_spec (m := .hk) hin rfl
        (.inr ⟨rfl, rfl, rfl, rfl⟩) hclosed
      exact ⟨i, hi, (getCacheTtl_hk hin hclosed).trans hseconds⟩) (fun hout => getCacheTtl_none hout)
    unfold ClockCondition
    rw [hiff]
    exact (or_iff_right (fun h => Market.noConfusion h)).symm
  | us => exact ⟨fun _ => .inl rfl, fun _ => lifetimeSafe_us hny now⟩

theorem steady_zone (hsh : Steady (zs.zone zs.shanghai)) (hny : Steady (zs.zone zs.newYork)) (m : Market) :
    Steady (m.zone zs) := by
  cases m
  · exact hsh
  · exact hsh
  · exact hny

/-- When the zones of the markets are steady during their sessions: the query answers whether the window has an
open instant exactly under its condition, and the lifetime of a price never reaches past an open instant exactly
under its own. -/
theorem market_queries_agree (hsh : Steady (zs.zone zs.shanghai)) (hny : Steady (zs.zone zs.newYork))
    (m : Market) (start end_ : DateTime (Option ζ)) (now : ℚ) :
    (SessionsAgree zs m start end_ ↔ QueryCondition zs m start end_) ∧
      (LifetimeSafe zs m now ↔ ClockCondition zs m now) :=
  ⟨sessionsAgree_iff (steady_zone hsh hny m), lifetimeSafe_iff hsh hny now⟩

/-! ## Concrete zones -/

theorem fixed_short {hours : ℤ} (h : -24 < hours ∧ hours < 24) : |((60 * hours : ℤ) : ℚ)| < 1440 := by
  rw [abs_lt, ← Int.cast_ofNat, ← Int.cast_neg, Int.cast_lt, Int.cast_lt]
  omega

theorem fixed_seconds (hours : ℤ) : ∃ k : ℤ, ((60 * hours : ℤ) : ℚ) = k / 60 :=
  ⟨3600 * hours, by push_cast; ring⟩

theorem fixed_utc (hours : ℤ) (u : ℚ) : u + (60 * hours : ℤ) - (60 * hours : ℤ) = u := add_sub_cancel_right u _

/-- A zone whose offset is a number of hours. -/
def fixedZone (hours : ℤ) (h : -24 < hours ∧ hours < 24) : Zone where
  offset _ _ := (60 * hours : ℤ)
  fromutc u := (u + (60 * hours : ℤ), false)
  utc_fromutc := fixed_utc hours
  short _ _ := fixed_short h
  wholeSeconds _ _ := fixed_seconds hours

theorem steady_fixedZone {hours : ℤ} (h : -24 < hours ∧ hours < 24) : Steady (fixedZone hours h) where
  inside _ _ _ _ _ _ := rfl
  before _ _ _ _ hlt := sub_lt_sub_right hlt _
  after _ _ _ _ hle := sub_le_sub_right hle _

/-- The zones of the markets, and UTC. -/
inductive Place
  | shanghai
  | newYork
  | utc
deriving DecidableEq

theorem east_bounds : (-24 : ℤ) < 8 ∧ (8 : ℤ) < 24 := by decide

theorem west_bounds : (-24 : ℤ) < -5 ∧ (-5 : ℤ) < 24 := by decide

theorem zero_bounds : (-24 : ℤ) < 0 ∧ (0 : ℤ) < 24 := by decide

/-- Their offsets in winter. -/
def winterZone : Place → Zone
  | .shanghai => fixedZone 8 east_bounds
  | .newYork => fixedZone (-5) west_bounds
  | .utc => fixedZone 0 zero_bounds

theorem winter_utc (wall : ℚ) (fold : Bool) : (winterZone .utc).offset wall fold = 0 := Int.cast_zero

/-- The zones in winter. -/
def winterZones : MarketZones Place where
  zone := winterZone
  utc := .utc
  utc_offset := winter_utc
  shanghai := .shanghai
  newYork := .newYork

theorem winter_inCalendar {minute : ℤ} (h : 0 ≤ minute ∧ minute < 1440) : InCalendar (wallAt 738885 minute) :=
  ⟨Int.cast_nonneg (by omega), Int.cast_lt.mpr (by unfold calendarDays; omega)⟩

/-- A time of January 1, 2024, a Monday. -/
def newYear (minute : ℤ) (h : 0 ≤ minute ∧ minute < 1440) (tzinfo : Option Place) :
    DateTime (Option Place) :=
  ⟨wallAt 738885 minute, false, tzinfo, winter_inCalendar h⟩

/-- On a Monday morning, Shanghai is open between ten and half past ten, and a price that is fetched at four is
kept until it opens again. -/
theorem new_year_is_open :
    SessionsAgree winterZones .cn (newYear 600 (by decide) none) (newYear 630 (by decide) none) ∧
      LifetimeSafe winterZones .cn (wallAt 738885 480) := by
  have hsh : Steady (winterZones.zone winterZones.shanghai) := steady_fixedZone east_bounds
  have hny : Steady (winterZones.zone winterZones.newYork) := steady_fixedZone west_bounds
  have hagree := market_queries_agree hsh hny .cn (newYear 600 (by decide) none)
    (newYear 630 (by decide) none) (wallAt 738885 480)
  have hbefore : (asAware (newYear 600 (by decide) none) winterZones.shanghai).before winterZones.toZones
      (asAware (newYear 630 (by decide) none) winterZones.shanghai) := by decide +kernel
  have hopen : (probes winterZones .cn).isOpen (asAware (newYear 600 (by decide) none) winterZones.shanghai) =
      some true := by decide +kernel
  refine ⟨hagree.1.mpr ?_, hagree.2.mpr (.inr fun _ _ _ _ _ => le_rfl)⟩
  unfold QueryCondition
  simp only [if_pos hbefore, hopen]
  exact .inl ⟨by decide +kernel, by decide +kernel⟩

/-- Between ten and eleven in UTC Shanghai is closed, but the wall of the start shows ten. -/
theorem evening_is_taken_for_morning :
    ¬ SessionsAgree winterZones .cn (newYear 600 (by decide) (some .utc)) (newYear 660 (by decide) (some .utc)) := by
  have hsteady : Steady (Market.cn.zone winterZones) := steady_fixedZone east_bounds
  have hbefore : (asAware (newYear 600 (by decide) (some .utc)) winterZones.shanghai).before winterZones.toZones
      (asAware (newYear 660 (by decide) (some .utc)) winterZones.shanghai) := by decide +kernel
  have hopen : (probes winterZones .cn).isOpen
      (asAware (newYear 600 (by decide) (some .utc)) winterZones.shanghai) = some true := by decide +kernel
  rw [sessionsAgree_iff hsteady]
  unfold QueryCondition
  simp only [if_pos hbefore, hopen]
  rintro (⟨-, hsession⟩ | ⟨⟨day, s⟩, ⟨hday, hs⟩, hafter, hbefore⟩)
  · exact absurd hsession (by decide +kernel)
  · have hopens : s.1 = 570 ∨ s.1 = 780 := by
      rcases List.mem_cons.mp hs with rfl | hs
      · exact .inl rfl
      · rcases List.mem_singleton.mp hs with rfl
        exact .inr rfl
    have hafter' : (wallAt 738885 600 : ℚ) - (60 * 0 : ℤ) < wallAt day s.1 - (60 * 8 : ℤ) := hafter
    have hbefore' : (wallAt day s.1 : ℚ) - (60 * 8 : ℤ) ≤ wallAt 738885 660 - (60 * 0 : ℤ) := hbefore
    unfold wallAt at hafter' hbefore'
    rw [← Int.cast_sub, ← Int.cast_sub, Int.cast_lt] at hafter'
    rw [← Int.cast_sub, ← Int.cast_sub, Int.cast_le] at hbefore'
    omega

end PortfolioManagement.MarketTime
