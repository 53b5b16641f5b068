import Mathlib.Algebra.Order.Floor.Ring
import Mathlib.Data.Rat.Floor
import Mathlib.Tactic.Linarith
import Mathlib.Tactic.Push

/-!
# Wall clocks

`datetime.datetime` with its zone. A wall time is the minutes since the start of the calendar, Monday,
January 1 of the year 1; so is an instant, in UTC. A zone gives the offset of each of its wall times, of
which two may be the same (`fold`), and the wall time of each instant. Two times of one zone are compared by
their walls, others by their instants.
-/

namespace PortfolioManagement

/-- The days of the years 1 to 9999. -/
def calendarDays : ℤ := 3652059

/-- A wall time of the years 1 to 9999. -/
def InCalendar (wall : ℚ) : Prop := 0 ≤ wall ∧ wall < (1440 * calendarDays : ℤ)

instance (wall : ℚ) : Decidable (InCalendar wall) := inferInstanceAs (Decidable (_ ∧ _))

/-- The day of a wall time. -/
def dayOf (wall : ℚ) : ℤ := ⌊wall⌋ / 1440

/-- `weekday()`: 0 is Monday. -/
def weekday (day : ℤ) : ℤ := day % 7

/-- The whole minutes of the day. -/
def minuteOf (wall : ℚ) : ℤ := ⌊wall⌋ % 1440

/-- The wall time at a minute of a day. -/
def wallAt (day minute : ℤ) : ℚ := (1440 * day + minute : ℤ)

theorem floor_wallAt (day minute : ℤ) : ⌊wallAt day minute⌋ = 1440 * day + minute := Int.floor_intCast _

theorem wallAt_le_iff {day minute : ℤ} {wall : ℚ} :
    wallAt day minute ≤ wall ↔ 1440 * day + minute ≤ ⌊wall⌋ := Int.le_floor.symm

theorem lt_wallAt_iff {day minute : ℤ} {wall : ℚ} :
    wall < wallAt day minute ↔ ⌊wall⌋ < 1440 * day + minute := Int.floor_lt.symm

theorem wallAt_lt_wallAt {day minute day' minute' : ℤ} :
    wallAt day minute < wallAt day' minute' ↔ 1440 * day + minute < 1440 * day' + minute' := Int.cast_lt

theorem wallAt_le_wallAt {day minute day' minute' : ℤ} :
    wallAt day minute ≤ wallAt day' minute' ↔ 1440 * day + minute ≤ 1440 * day' + minute' := Int.cast_le

/-- A time zone. -/
structure Zone where
  /-- `utcoffset()`, in minutes -/
  offset : ℚ → Bool → ℚ
  /-- `fromutc()`: the wall time of an instant, and its fold -/
  fromutc : ℚ → ℚ × Bool
  /-- the wall time is one of the instant -/
  utc_fromutc : ∀ u, (fromutc u).1 - offset (fromutc u).1 (fromutc u).2 = u
  /-- offsets are shorter than a day -/
  short : ∀ wall fold, |offset wall fold| < 1440
  /-- offsets are whole seconds -/
  wholeSeconds : ∀ wall fold, ∃ k : ℤ, offset wall fold = k / 60

/-- What the zones are. -/
structure Zones (ζ : Type) where
  /-- the zone of a `tzinfo` -/
  zone : ζ → Zone
  /-- `ZoneInfo('UTC')` -/
  utc : ζ
  /-- its walls show the instants -/
  utc_offset : ∀ wall fold, (zone utc).offset wall fold = 0

/-- A `datetime`. -/
structure DateTime (ζ : Type) where
  /-- date and time -/
  wall : ℚ
  /-- `fold` -/
  fold : Bool
  /-- `tzinfo` -/
  tzinfo : ζ
  /-- it is in the calendar -/
  valid : InCalendar wall

section
variable {ζ : Type} (zs : Zones ζ)

/-- The instant of a wall time of a zone. -/
def Zone.utc (z : Zone) (wall : ℚ) (fold : Bool) : ℚ := wall - z.offset wall fold

/-- The instant of a `datetime`. -/
def DateTime.utc (a : DateTime ζ) : ℚ := (zs.zone a.tzinfo).utc a.wall a.fold

/-- `datetime.now(tz)` at an instant. -/
def nowIn (tz : ζ) (u : ℚ) : Option (DateTime ζ) :=
  let shown := (zs.zone tz).fromutc u
  if h : InCalendar shown.1 then some ⟨shown.1, shown.2, tz, h⟩ else none

variable {zs}

theorem nowIn_some {tz : ζ} {u : ℚ} {a : DateTime ζ} (h : nowIn zs tz u = some a) :
    a.tzinfo = tz ∧ a.utc zs = u ∧ a.wall = ((zs.zone tz).fromutc u).1 := by
  unfold nowIn at h
  simp only at h
  split_ifs at h with hvalid
  cases h
  exact ⟨rfl, (zs.zone tz).utc_fromutc u, rfl⟩

/-- In UTC the wall is the instant. -/
theorem utc_of_utc {a : DateTime ζ} (h : a.tzinfo = zs.utc) : a.utc zs = a.wall := by
  unfold DateTime.utc Zone.utc
  rw [h, zs.utc_offset, sub_zero]

end

section
variable {ζ : Type} [DecidableEq ζ] (zs : Zones ζ)

/-- `a < b` -/
def DateTime.before (a b : DateTime ζ) : Prop :=
  if a.tzinfo = b.tzinfo then a.wall < b.wall else a.utc zs < b.utc zs

instance (a b : DateTime ζ) : Decidable (a.before zs b) := by
  unfold DateTime.before
  exact inferInstance

/-- `astimezone(tz)`; `none` is an `OverflowError`. -/
def DateTime.astimezone (a : DateTime ζ) (tz : ζ) : Option (DateTime ζ) :=
  if a.tzinfo = tz then some a
  else if InCalendar (a.utc zs) then
    let shown := (zs.zone tz).fromutc (a.utc zs)
    if h : InCalendar shown.1 then some ⟨shown.1, shown.2, tz, h⟩ else none
  else none

variable {zs}

/-- A conversion keeps the instant. -/
theorem astimezone_some {a b : DateTime ζ} {tz : ζ} (h : a.astimezone zs tz = some b) :
    b.tzinfo = tz ∧ b.utc zs = a.utc zs := by
  unfold DateTime.astimezone at h
  split_ifs at h with hsame hin
  · cases h
    exact ⟨hsame, rfl⟩
  · simp only at h
    split_ifs at h with hvalid
    cases h
    exact ⟨rfl, (zs.zone tz).utc_fromutc _⟩

end

end PortfolioManagement
