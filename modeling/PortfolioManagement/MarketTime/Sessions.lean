import PortfolioManagement.Lib.HalfOpen
import PortfolioManagement.MarketTime.MarketTimeUtil

/-!
# Sessions of the markets

The sessions as half-open intervals: of the minutes of a weekday, and, in a zone that keeps its offset
during them, of instants. The scan of `has_market_session_between` finds whether one of them opens in its
window.
-/

namespace PortfolioManagement.MarketTime

/-! ## Walls -/

/-- The sessions of a weekday, in minutes. The last minute of a session of Shanghai or Hong Kong is open. -/
def Market.sessions : Market → List (ℤ × ℤ)
  | .cn => [(570, 691), (780, 901)]
  | .hk => [(570, 721), (780, 961)]
  | .us => [(570, 960)]

/-- The market's own session predicate on the wall of its own zone. -/
def Market.isOpen : Market → ℚ → Bool
  | .cn => isCnMarketOpen
  | .hk => isHkMarketOpen
  | .us => isUsSession

/-- The days of a week on which the markets open. -/
def Weekday (day : ℤ) : Prop := weekday day < 5

instance (day : ℤ) : Decidable (Weekday day) := inferInstanceAs (Decidable (weekday day < 5))

/-- A session of a market, with its day. -/
def Market.HasSession (m : Market) (i : ℤ × ℤ × ℤ) : Prop := Weekday i.1 ∧ i.2 ∈ m.sessions

theorem session_bounds {m : Market} {s : ℤ × ℤ} (h : s ∈ m.sessions) :
    570 ≤ s.1 ∧ s.1 ≤ 780 ∧ s.1 < s.2 ∧ s.2 ≤ 961 := by
  cases m <;> simp only [Market.sessions, List.mem_cons, List.not_mem_nil, or_false] at h
  · rcases h with rfl | rfl <;> decide
  · rcases h with rfl | rfl <;> decide
  · rcases h with rfl
    decide

theorem minuteOf_bounds (wall : ℚ) : 0 ≤ minuteOf wall ∧ minuteOf wall < 1440 := by
  unfold minuteOf
  omega

/-- The predicate of a market in minutes of the day. -/
theorem isOpen_iff_minutes {m : Market} {wall : ℚ} : m.isOpen wall = true ↔
    Weekday (dayOf wall) ∧ ∃ s ∈ m.sessions, s.1 ≤ minuteOf wall ∧ minuteOf wall < s.2 := by
  have hbounds := minuteOf_bounds wall
  have htime : timeVal wall = minuteOf wall / 60 * 100 + minuteOf wall % 60 := rfl
  unfold Weekday
  cases m
  · simp only [Market.isOpen, isCnMarketOpen, Market.sessions, List.mem_cons, List.not_mem_nil,
      or_false, exists_eq_or_imp, exists_eq_left]
    split_ifs with hweekend
    · exact ⟨False.elim, fun h => absurd h.1 (not_lt.mpr hweekend)⟩
    · rw [decide_eq_true_eq]
      omega
  · simp only [Market.isOpen, isHkMarketOpen, Market.sessions, List.mem_cons, List.not_mem_nil,
      or_false, exists_eq_or_imp, exists_eq_left]
    split_ifs with hweekend
    · exact ⟨False.elim, fun h => absurd h.1 (not_lt.mpr hweekend)⟩
    · rw [decide_eq_true_eq]
      omega
  · simp only [Market.isOpen, isUsSession, Market.sessions, List.mem_cons, List.not_mem_nil,
      or_false, exists_eq_left, decide_eq_true_eq]
    omega

/-- A market is open on the walls of its sessions. -/
theorem isOpen_iff {m : Market} {wall : ℚ} : m.isOpen wall = true ↔
    ∃ i, m.HasSession i ∧ wallAt i.1 i.2.1 ≤ wall ∧ wall < wallAt i.1 i.2.2 := by
  rw [isOpen_iff_minutes]
  constructor
  · rintro ⟨hday, s, hs, hopen, hclose⟩
    refine ⟨(dayOf wall, s), ⟨hday, hs⟩, wallAt_le_iff.mpr ?_, lt_wallAt_iff.mpr ?_⟩
    · show 1440 * dayOf wall + s.1 ≤ ⌊wall⌋
      unfold minuteOf at hopen
      unfold dayOf
      omega
    · show ⌊wall⌋ < 1440 * dayOf wall + s.2
      unfold minuteOf at hclose
      unfold dayOf
      omega
  · rintro ⟨⟨day, s⟩, ⟨hday, hs⟩, hopen, hclose⟩
    have hbounds : 570 ≤ s.1 ∧ s.1 ≤ 780 ∧ s.1 < s.2 ∧ s.2 ≤ 961 := session_bounds hs
    have hle : 1440 * day + s.1 ≤ ⌊wall⌋ := wallAt_le_iff.mp hopen
    have hlt : ⌊wall⌋ < 1440 * day + s.2 := lt_wallAt_iff.mp hclose
    have hsame : dayOf wall = day := by
      show ⌊wall⌋ / 1440 = day
      omega
    have hminute : minuteOf wall = ⌊wall⌋ - 1440 * day := by
      unfold minuteOf
      omega
    refine ⟨hsame ▸ hday, s, hs, ?_, ?_⟩
    · omega
    · omega

/-! ## Instants -/

/-- A zone that keeps its offset from 9:30 to 16:01 of a weekday, and whose other walls of the same or another
day are on the same side of these hours as their instants. -/
structure Steady (z : Zone) : Prop where
  /-- the offset is that of 9:30 -/
  inside : ∀ day, Weekday day → ∀ wall fold, wallAt day 570 ≤ wall → wall < wallAt day 961 →
    z.offset wall fold = z.offset (wallAt day 570) false
  /-- walls before 9:30 are earlier -/
  before : ∀ day, Weekday day → ∀ wall fold, wall < wallAt day 570 →
    z.utc wall fold < z.utc (wallAt day 570) false
  /-- walls from 16:01 on are later -/
  after : ∀ day, Weekday day → ∀ wall fold, wallAt day 961 ≤ wall →
    wallAt day 961 - z.offset (wallAt day 570) false ≤ z.utc wall fold

/-- The instant of a minute of the trading hours of a weekday. -/
def instantOf (z : Zone) (day minute : ℤ) : ℚ := wallAt day minute - z.offset (wallAt day 570) false

/-- When a session opens. -/
def opensAt (z : Zone) (i : ℤ × ℤ × ℤ) : ℚ := instantOf z i.1 i.2.1

/-- When a session closes. -/
def closesAt (z : Zone) (i : ℤ × ℤ × ℤ) : ℚ := instantOf z i.1 i.2.2

/-- The market is open at an instant. -/
def Market.openAt (m : Market) (z : Zone) (u : ℚ) : Bool := m.isOpen (z.fromutc u).1

section
variable {z : Zone}

theorem instantOf_lt {day minute minute' : ℤ} :
    instantOf z day minute < instantOf z day minute' ↔ minute < minute' := by
  unfold instantOf
  rw [sub_lt_sub_iff_right, wallAt_lt_wallAt]
  omega

theorem instantOf_le {day minute minute' : ℤ} :
    instantOf z day minute ≤ instantOf z day minute' ↔ minute ≤ minute' := by
  unfold instantOf
  rw [sub_le_sub_iff_right, wallAt_le_wallAt]
  omega

theorem Steady.utc_eq (hz : Steady z) {day minute : ℤ} (hday : Weekday day) (hfirst : 570 ≤ minute)
    (hlast : minute < 961) (fold : Bool) : z.utc (wallAt day minute) fold = instantOf z day minute := by
  unfold Zone.utc instantOf
  rw [hz.inside day hday (wallAt day minute) fold (wallAt_le_wallAt.mpr (by omega))
    (wallAt_lt_wallAt.mpr (by omega))]

/-- In the trading hours, walls are ordered as their instants are. -/
theorem Steady.lt_iff (hz : Steady z) {day minute : ℤ} (hday : Weekday day) (hfirst : 570 ≤ minute)
    (hlast : minute ≤ 961) (wall : ℚ) (fold : Bool) :
    wall < wallAt day minute ↔ z.utc wall fold < instantOf z day minute := by
  rcases lt_or_ge wall (wallAt day 570) with hearly | hopen
  · have hutc := hz.before day hday wall fold hearly
    rw [hz.utc_eq hday le_rfl (by decide)] at hutc
    have hle : instantOf z day 570 ≤ instantOf z day minute := instantOf_le.mpr hfirst
    have hwall : wallAt day 570 ≤ wallAt day minute := wallAt_le_wallAt.mpr (by omega)
    exact ⟨fun _ => hutc.trans_le hle, fun _ => hearly.trans_le hwall⟩
  · rcases lt_or_ge wall (wallAt day 961) with hinside | hlate
    · unfold Zone.utc instantOf
      rw [hz.inside day hday wall fold hopen hinside, sub_lt_sub_iff_right]
    · have hutc := hz.after day hday wall fold hlate
      have hle : instantOf z day minute ≤ instantOf z day 961 := instantOf_le.mpr hlast
      have hwall : wallAt day minute ≤ wallAt day 961 := wallAt_le_wallAt.mpr (by omega)
      exact ⟨fun h => absurd (h.trans_le hwall) (not_lt.mpr hlate),
        fun h => absurd (h.trans_le hle) (not_lt.mpr hutc)⟩

/-- A wall that is not later is not a later instant. -/
theorem Steady.utc_le (hz : Steady z) {day minute : ℤ} (hday : Weekday day) (hfirst : 570 ≤ minute)
    (hlast : minute < 961) {wall : ℚ} (fold : Bool) (h : wall ≤ wallAt day minute) :
    z.utc wall fold ≤ instantOf z day minute := by
  rcases h.lt_or_eq with hlt | rfl
  · exact ((hz.lt_iff hday hfirst hlast.le wall fold).mp hlt).le
  · exact (hz.utc_eq hday hfirst hlast fold).le

/-- The instants at which a market is open are those of its sessions. -/
theorem Steady.openAt_iff (hz : Steady z) {m : Market} {u : ℚ} :
    m.openAt z u = true ↔ HalfOpen.Covers m.HasSession (opensAt z) (closesAt z) u := by
  have hutc : z.utc (z.fromutc u).1 (z.fromutc u).2 = u := z.utc_fromutc u
  unfold Market.openAt HalfOpen.Covers
  rw [isOpen_iff]
  refine exists_congr fun i => and_congr_right fun hi => ?_
  have hbounds := session_bounds hi.2
  have hopen := hz.lt_iff hi.1 hbounds.1 (by omega) (z.fromutc u).1 (z.fromutc u).2
  have hlater : 570 ≤ i.2.2 := by omega
  have hclose := hz.lt_iff hi.1 hlater hbounds.2.2.2 (z.fromutc u).1 (z.fromutc u).2
  rw [hutc] at hopen hclose
  exact and_congr (not_lt.symm.trans ((not_congr hopen).trans not_lt)) hclose

theorem opensAt_lt_closesAt {m : Market} (i : ℤ × ℤ × ℤ) (hi : m.HasSession i) :
    opensAt z i < closesAt z i := instantOf_lt.mpr (session_bounds hi.2).2.2.1

end

end PortfolioManagement.MarketTime
