import PortfolioManagement.Lib.WallClock

/-!
# Market hours

`MarketTimeUtil`: when the markets are open, whether one was open since a price was fetched, and how long a
price is kept. The zones are those of `zoneinfo`; an instant is any rational number of minutes, so between
two times there is always another one. An `OverflowError` of the calendar is `none`.
-/

namespace PortfolioManagement.MarketTime

/-- The zones of `MarketTimeUtil`. -/
structure MarketZones (ζ : Type) extends Zones ζ where
  /-- `TZ_SHANGHAI` -/
  shanghai : ζ
  /-- `TZ_NEW_YORK` -/
  newYork : ζ

/-- `hour * 100 + minute` -/
def timeVal (wall : ℚ) : ℤ := minuteOf wall / 60 * 100 + minuteOf wall % 60

/-- `is_cn_market_open`: it looks at the wall of its argument. -/
def isCnMarketOpen (wall : ℚ) : Bool :=
  if 5 ≤ weekday (dayOf wall) then false
  else decide (930 ≤ timeVal wall ∧ timeVal wall ≤ 1130 ∨ 1300 ≤ timeVal wall ∧ timeVal wall ≤ 1500)

/-- `is_hk_market_open` -/
def isHkMarketOpen (wall : ℚ) : Bool :=
  if 5 ≤ weekday (dayOf wall) then false
  else decide (930 ≤ timeVal wall ∧ timeVal wall ≤ 1200 ∨ 1300 ≤ timeVal wall ∧ timeVal wall ≤ 1600)

/-- What `is_us_market_open` asks of the time in New York. -/
def isUsSession (wall : ℚ) : Bool :=
  decide (weekday (dayOf wall) < 5 ∧ 930 ≤ timeVal wall ∧ timeVal wall < 1600)

/-- The markets with sessions. -/
inductive Market
  /-- A shares -/
  | cn
  /-- Hong Kong -/
  | hk
  /-- the United States -/
  | us
deriving DecidableEq

/-- `market_type.value` -/
def Market.value : Market → String
  | .cn => "cn"
  | .hk => "hk"
  | .us => "us"

section
variable {ζ : Type} [DecidableEq ζ] (zs : MarketZones ζ)

/-- `is_us_market_open`: the time in New York decides. -/
def isUsMarketOpen (dt : DateTime ζ) : Option Bool :=
  (dt.astimezone zs.toZones zs.newYork).map fun shown => isUsSession shown.wall

/-- `_as_aware`: a time without a zone is one of the default. -/
def asAware (dt : DateTime (Option ζ)) (default : ζ) : DateTime ζ :=
  ⟨dt.wall, dt.fold, dt.tzinfo.getD default, dt.valid⟩

/-! ## Sessions since a time -/

/-- An entry of `probes`. -/
structure Probe (ζ : Type) where
  /-- `is_open` -/
  isOpen : DateTime ζ → Option Bool
  /-- `tz` -/
  tz : ζ
  /-- `open_times`, hours and minutes -/
  openTimes : List (ℤ × ℤ)

/-- `probes` -/
def probes : Market → Probe ζ
  | .cn => ⟨fun dt => some (isCnMarketOpen dt.wall), zs.shanghai, [(9, 30), (13, 0)]⟩
  | .hk => ⟨fun dt => some (isHkMarketOpen dt.wall), zs.shanghai, [(9, 30), (13, 0)]⟩
  | .us => ⟨isUsMarketOpen zs, zs.newYork, [(9, 30)]⟩

/-- `probes.get(key)` -/
def probeOf (key : String) : Option (Probe ζ) :=
  if key = "cn" then some (probes zs .cn)
  else if key = "hk" then some (probes zs .hk)
  else if key = "us" then some (probes zs .us)
  else none

/-- `datetime(day.year, day.month, day.day, hour, minute, tzinfo=tz)`; the day is in the calendar. -/
def probeDt (tz : ζ) (day : ℤ) (time : ℤ × ℤ) : Option (DateTime ζ) :=
  if h : InCalendar (wallAt day (60 * time.1 + time.2)) then some ⟨_, false, tz, h⟩ else none

/-- The probes of one day: `some (some answer)` returns from the scan. -/
def scanDay (probe : Probe ζ) (start end_ : DateTime ζ) (day : ℤ) : List (ℤ × ℤ) → Option (Option Bool)
  | [] => some none
  | time :: times => do
    let dt ← probeDt probe.tz day time
    if end_.before zs.toZones dt then return some false
    else if start.before zs.toZones dt then
      if ← probe.isOpen dt then return some true
      else scanDay probe start end_ day times
    else scanDay probe start end_ day times

/-- The scan of the days from a day on. -/
def scan (probe : Probe ζ) (start end_ : DateTime ζ) : Nat → ℤ → Option Bool
  | 0, _ => some true
  | days + 1, day => do
    match ← scanDay zs probe start end_ day probe.openTimes with
    | some answer => return answer
    | none => if day + 1 < calendarDays then scan probe start end_ days (day + 1) else none

/-- `has_market_session_between` -/
def hasMarketSessionBetween (key : String) (start end_ : Option (DateTime (Option ζ))) : Option Bool :=
  match start, end_ with
  | some start, some end_ =>
    match probeOf zs key with
    | none => some true
    | some probe => do
      let startAware := asAware start zs.shanghai
      let endAware := asAware end_ zs.shanghai
      if startAware.before zs.toZones endAware then
        if ← probe.isOpen startAware then return true
        else
          let local_ ← startAware.astimezone zs.toZones probe.tz
          scan zs probe startAware endAware 45 (dayOf local_.wall)
      else return false
  | _, _ => some true

/-! ## Cache lifetimes -/

/-- `int(...)` of seconds between two walls -/
def wholeSeconds (minutes : ℚ) : ℤ := if 0 ≤ minutes then ⌊60 * minutes⌋ else ⌈60 * minutes⌉

/-- `(now + timedelta(days=days)).replace(hour=hour, minute=minute, second=0, microsecond=0)` -/
def daysLater (wall : ℚ) (days hour minute : ℤ) : Option ℚ :=
  if InCalendar (wall + (1440 * days : ℤ)) then some (wallAt (dayOf wall + days) (60 * hour + minute))
  else none

/-- `_seconds_until_next_cn_open` and `_seconds_until_next_hk_open`, which differ in the start of the lunch
break and in the close of the day. -/
def secondsUntilNextOpen (lunch close : ℤ) (now : ℚ) : Option ℤ :=
  let currentWeekday := weekday (dayOf now)
  if 5 ≤ currentWeekday then
    (daysLater now (7 - currentWeekday) 9 30).map fun nextOpen => wholeSeconds (nextOpen - now)
  else if timeVal now < 930 then
    some (wholeSeconds (wallAt (dayOf now) (60 * 9 + 30) - now))
  else if close ≤ timeVal now then
    (daysLater now (if currentWeekday = 4 then 3 else 1) 9 30).map fun nextOpen =>
      wholeSeconds (nextOpen - now)
  else if lunch ≤ timeVal now ∧ timeVal now < 1300 then
    some (wholeSeconds (wallAt (dayOf now) (60 * 13) - now))
  else some 600

/-- `_seconds_until_next_cn_open` -/
def secondsUntilNextCnOpen (now : ℚ) : Option ℤ := secondsUntilNextOpen 1130 1500 now

/-- `_seconds_until_next_hk_open` -/
def secondsUntilNextHkOpen (now : ℚ) : Option ℤ := secondsUntilNextOpen 1200 1600 now

/-- `while next_open_local.weekday() >= 5: next_open_local += timedelta(days=1)` -/
def skipWeekend (day : ℤ) : ℤ := if 5 ≤ weekday day then skipWeekend (day + 1) else day
termination_by ((7 - weekday day) % 7).toNat
decreasing_by
  unfold weekday at *
  omega

/-- The next opening on the wall of New York, outside of the session. -/
def nextOpenLocal (now : DateTime ζ) : Option (DateTime ζ) :=
  if weekday (dayOf now.wall) < 5 ∧ timeVal now.wall < 930 then
    if h : InCalendar (wallAt (dayOf now.wall) (60 * 9 + 30)) then some ⟨_, now.fold, now.tzinfo, h⟩
    else none
  else
    if h : InCalendar (wallAt (skipWeekend (dayOf now.wall + 1)) (60 * 9 + 30)) then
      some ⟨_, false, now.tzinfo, h⟩
    else none

/-- `_seconds_until_next_us_open` -/
def secondsUntilNextUsOpen (now : DateTime ζ) : Option ℤ := do
  let local_ ← now.astimezone zs.toZones zs.newYork
  if isUsSession local_.wall then return 600
  else
    let nextOpen ← nextOpenLocal local_
    let nextUtc ← nextOpen.astimezone zs.toZones zs.utc
    let nowUtc ← now.astimezone zs.toZones zs.utc
    return max 0 (wholeSeconds (nextUtc.wall - nowUtc.wall))

/-- `_seconds_until_next_fund_update` -/
def secondsUntilNextFundUpdate (now : ℚ) : Option ℤ :=
  let currentWeekday := weekday (dayOf now)
  let days := if currentWeekday ≤ 3 then 1 else if currentWeekday = 4 then 3
    else if currentWeekday = 5 then 2 else 1
  (daysLater now days 19 0).map fun nextUpdate => wholeSeconds (nextUpdate - now)

/-- `get_cache_ttl` at an instant -/
def getCacheTtl (key : String) (instant : ℚ) : Option ℤ := do
  let now ← nowIn zs.toZones zs.shanghai instant
  if key = "cn" then
    if isCnMarketOpen now.wall then return 1800 else secondsUntilNextCnOpen now.wall
  else if key = "hk" then
    if isHkMarketOpen now.wall then return 1800 else secondsUntilNextHkOpen now.wall
  else if key = "us" then
    if ← isUsMarketOpen zs now then return 1800 else secondsUntilNextUsOpen zs now
  else if key = "fund" then secondsUntilNextFundUpdate now.wall
  else return 3600

end

end PortfolioManagement.MarketTime
