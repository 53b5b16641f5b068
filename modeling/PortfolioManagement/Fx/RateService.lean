import PortfolioManagement.Compensation.Log
import PortfolioManagement.Lib.JsonValues
import PortfolioManagement.Lib.Lists

/-!
# Exchange rates

`FxRateService` gives the rates of the dollars to the yuan: from memory for a day, then from the cache file,
then from the providers, and when these fail from what is still at hand. The file belongs to every process,
so each request finds any content there; the providers answer each attempt with any value or not at all, and
the clock shows any time.

Times are microseconds. Rates are floats; what `positive_finite_decimal` makes of a value, and of a float
once more, is a parameter.
-/

namespace PortfolioManagement.Fx

/-- `timedelta(seconds=86400)` -/
def day : Int := 86400 * 1000000

/-- What the interpreter adds to the service. -/
structure FxRuntime (R : Type) where
  /-- `float(positive_finite_decimal(value))` -/
  rate : Json → Option R
  /-- the same of a float -/
  again : R → Option R
  /-- `round(rate, 4)` -/
  round4 : R → R
  /-- the text runs into a limit of the interpreter: its nesting, or the digits of an integer -/
  overLimit : Codes → Bool
  /-- `datetime.fromisoformat(value)` in Shanghai; an error is the `OverflowError` of the conversion -/
  timestamp : Json → Except Unit (Option Int)
  /-- the time can be converted to UTC -/
  shown : Int → Bool

/-- The two rates. -/
structure Rates (R : Type) where
  /-- `USDCNY` -/
  usdcny : R
  /-- `HKDCNY` -/
  hkdcny : R

/-- Rates that were fetched together, when, and from where. -/
structure Fetched (R : Type) where
  /-- the rates -/
  rates : Rates R
  /-- the time of the fetch, when it is known -/
  time : Option Int
  /-- the sources -/
  sources : Members

/-- The fields of `FxRateService`. -/
structure Service (R : Type) where
  /-- `_rate_cache` -/
  cache : Option (Rates R)
  /-- `_rate_cache_time` -/
  time : Option Int
  /-- `_rate_cache_sources` -/
  sources : Members

/-- A new service. -/
def Service.start {R : Type} : Service R := ⟨none, none, []⟩

/-! ## The cache file -/

/-- What is at the path of the cache file. -/
inductive CacheFile
  /-- no file -/
  | missing
  /-- a file that raises `IOError` -/
  | unreadable
  /-- a file -/
  | bytes (content : List UInt8)

/-- What an exception is raised by. -/
inductive Cause
  /-- all providers failed and no rates are at hand -/
  | noRates
  /-- the content of the cache file -/
  | cacheFile
  /-- the time of the rates cannot be converted to UTC -/
  | observedTime
deriving DecidableEq

/-- What `load_cache_from_file` gives. -/
structure Loaded where
  /-- `rates` -/
  rates : Json
  /-- `timestamp` -/
  timestamp : Json
  /-- `sources` -/
  sources : Json

section
variable {R : Type} (rt : FxRuntime R)

/-- `load_cache_from_file`: a text that is no JSON is caught, bytes that are no text and a value that is no
dict are not. -/
def loadCacheFromFile : CacheFile → Except Cause (Option Loaded)
  | .missing | .unreadable => .ok none
  | .bytes content =>
    match decodeUtf8 content with
    | none => .error .cacheFile
    | some text =>
      if rt.overLimit text then .error .cacheFile
      else
        match loads text with
        | none => .ok none
        | some (.object members) => .ok (some ⟨(getItem (codes "rates") members).getD (.object []),
            Json.get members "timestamp", (getItem (codes "sources") members).getD (.object [])⟩)
        | some _ => .error .cacheFile

/-- `_validated_rates` of a value. -/
def validatedRates : Json → Option (Rates R)
  | .object members => do
    let usdcny ← (getItem (codes "USDCNY") members).bind rt.rate
    let hkdcny ← (getItem (codes "HKDCNY") members).bind rt.rate
    return ⟨usdcny, hkdcny⟩
  | _ => none

/-- `_validated_rates` of rates that are floats. -/
def validatedAgain (rates : Rates R) : Option (Rates R) := do
  let usdcny ← rt.again rates.usdcny
  let hkdcny ← rt.again rates.hkdcny
  return ⟨usdcny, hkdcny⟩

/-- `file_sources`. -/
def Loaded.fileSources (loaded : Loaded) : Members :=
  match loaded.sources with
  | .object members => members
  | _ => []

/-- `file_cache_time`. -/
def Loaded.fileTime (loaded : Loaded) : Except Cause (Option Int) :=
  if loaded.timestamp.truthy = true then
    match rt.timestamp loaded.timestamp with
    | .ok time => .ok time
    | .error () => .error .cacheFile
  else .ok none

/-- What a request takes from the file: rates, when they are valid, their time and their sources. -/
def readCacheFile (file : CacheFile) : Except Cause (Option (Rates R) × Option Int × Members) := do
  match ← loadCacheFromFile rt file with
  | none => return (none, none, [])
  | some loaded =>
    let time ← loaded.fileTime rt
    return (validatedRates rt loaded.rates, time, loaded.fileSources)

/-! ## The providers -/

/-- `USD` and `HKD`. -/
inductive Currency
  | usd
  | hkd

/-- The providers, in the order in which they are tried. -/
def providers : List String :=
  ["_fetch_from_open_er_api", "_fetch_from_exchangerate_api", "_fetch_from_chinamoney",
    "_fetch_from_exchangerate_host"]

/-- One attempt at a provider. -/
structure Attempt where
  /-- the value it gives, when it does not raise -/
  value : Option Json
  /-- the sleep after it, when it fails, runs into the deadline -/
  deadline : Bool

/-- What the attempts at providers come to. -/
inductive Tried (R : Type)
  /-- a rate, and its provider -/
  | rate (r : R) (provider : String)
  /-- no attempt gives one -/
  | failed
  /-- the deadline is over -/
  | timedOut

/-- The attempts at one provider: `left` of them are left. The last one is not followed by a sleep. -/
def tryProvider (attempt : Nat → Attempt) (provider : String) (maxRetries : Nat) : Nat → Tried R
  | 0 => .failed
  | left + 1 =>
    let tried := attempt (maxRetries - (left + 1))
    match tried.value.bind rt.rate with
    | some r => .rate r provider
    | none =>
      if tried.deadline = true ∧ left ≠ 0 then .timedOut
      else tryProvider attempt provider maxRetries left

/-- `fetch_single_rate`. -/
def fetchSingleRate (attempt : String → Nat → Attempt) (maxRetries : Nat) : List String → Tried R
  | [] => .failed
  | provider :: rest =>
    match tryProvider rt (attempt provider) provider maxRetries maxRetries with
    | .failed => fetchSingleRate attempt maxRetries rest
    | tried => tried

/-! ## Requests -/

/-- A request, with what it finds. -/
structure Request where
  /-- `max_retries` -/
  maxRetries : Nat
  /-- `require_source` -/
  requireSource : Bool
  /-- `bj_now_naive()` -/
  now : Int
  /-- the cache file -/
  file : CacheFile
  /-- the attempts at the providers -/
  attempt : Currency → String → Nat → Attempt

/-- The sources of rates of two providers. -/
def providerSources (usd hkd : String) : Members :=
  Json.display [("USDCNY", .text usd), ("HKDCNY", .text hkd)]

/-- What the providers give. -/
def fetchRates (q : Request) : Option (Fetched R) :=
  match fetchSingleRate rt (q.attempt .usd) q.maxRetries providers with
  | .rate usd usdSource =>
    match fetchSingleRate rt (q.attempt .hkd) q.maxRetries providers with
    | .rate hkd hkdSource =>
      (validatedAgain rt ⟨rt.round4 usd, rt.round4 hkd⟩).map fun rates =>
        ⟨rates, some q.now, providerSources usdSource hkdSource⟩
    | _ => none
  | _ => none

/-- `cache_status`. -/
inductive Status
  /-- `memory` -/
  | memory
  /-- `file` -/
  | file
  /-- `provider` -/
  | provider
  /-- `stale_fallback` -/
  | staleFallback
deriving DecidableEq

/-- What a request comes to. -/
inductive Outcome (R : Type)
  /-- the rates, with their evidence -/
  | rates (fetched : Fetched R) (status : Status)
  /-- an exception -/
  | raised (cause : Cause)

/-- Both rates have a source that is a text and not blank. -/
def named (sources : Members) : Bool :=
  ["USDCNY", "HKDCNY"].all fun key =>
    match Json.get sources key with
    | .string s => !isBlankLine s
    | _ => false

/-- The rates are less than a day old, and their sources are named when that is asked for. -/
def usable (q : Request) (time : Int) (sources : Members) : Bool :=
  q.now - time < day && (!q.requireSource || named sources)

/-- The result with its evidence. -/
def answer (fetched : Fetched R) (status : Status) : Outcome R :=
  match fetched.time with
  | none => .rates fetched status
  | some time => if rt.shown time then .rates fetched status else .raised .observedTime

/-- `memory_rates`. -/
def memoryRates (s : Service R) : Option (Rates R) := s.cache.bind (validatedAgain rt)

/-- `_rate_cache_time`, once the rates in memory are checked. -/
def checkedTime (s : Service R) : Option Int := if (memoryRates rt s).isSome then s.time else none

/-- The service that keeps rates. -/
def Service.keep (fetched : Fetched R) : Service R := ⟨some fetched.rates, fetched.time, fetched.sources⟩

/-- What the request finds in memory, when it can be used. -/
def inMemory (s : Service R) (q : Request) : Option (Fetched R) :=
  match memoryRates rt s, s.time with
  | some rates, some time =>
    if usable q time s.sources then some ⟨rates, some time, s.sources⟩ else none
  | _, _ => none

/-- The file, when the service asks for it. -/
def consulted (s : Service R) (q : Request) : Except Cause (Option (Rates R) × Option Int × Members) :=
  match checkedTime rt s with
  | none => readCacheFile rt q.file
  | some _ => .ok (none, none, [])

/-- What the request finds in the file, when it can be used. -/
def fromFile (q : Request) : Option (Rates R) × Option Int × Members → Option (Fetched R)
  | (some rates, some time, sources) =>
    if usable q time sources then some ⟨rates, some time, sources⟩ else none
  | _ => none

/-- What the request falls back to: the rates it found in memory, under the time and the sources that the
service holds by then, or those of the file. -/
def fallBack (memory : Option (Rates R)) (held : Service R)
    (file : Option (Rates R) × Option Int × Members) : Service R × Outcome R :=
  match memory, file.1 with
  | some rates, _ =>
    (.keep ⟨rates, held.time, held.sources⟩, answer rt ⟨rates, held.time, held.sources⟩ .staleFallback)
  | none, some rates =>
    (.keep ⟨rates, file.2.1, file.2.2⟩, answer rt ⟨rates, file.2.1, file.2.2⟩ .staleFallback)
  | none, none => ({ held with time := none }, .raised .noRates)

/-- `fetch_exchange_rates_with_evidence`: the service after it, and what it comes to. The evidence of the
providers' rates is written where its exception is caught. -/
def fetchWithEvidence (s : Service R) (q : Request) : Service R × Outcome R :=
  match inMemory rt s q with
  | some fetched => (.keep fetched, answer rt fetched .memory)
  | none =>
    match consulted rt s q with
    | .error cause => ({ s with time := checkedTime rt s }, .raised cause)
    | .ok file =>
      match fromFile q file with
      | some fetched => (.keep fetched, answer rt fetched .file)
      | none =>
        match fetchRates rt q with
        | some fetched =>
          if rt.shown q.now then (.keep fetched, .rates fetched .provider)
          else fallBack rt (memoryRates rt s) (.keep fetched) file
        | none => fallBack rt (memoryRates rt s) { s with time := checkedTime rt s } file

end

end PortfolioManagement.Fx
