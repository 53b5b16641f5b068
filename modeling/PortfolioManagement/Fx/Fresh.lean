import PortfolioManagement.Fx.RateService
import PortfolioManagement.Lib.Machine

/-!
# Fresh rates

A run is a sequence of requests to one service. Beside the service, the fetches of the run are kept: what
the providers gave together, and what a file held when it was asked for. In a run whose requests find a file
that can be read, and nothing in it that is more recent than what memory falls back to, every result that is
not stale is one of these fetches and less than a day old.
-/

namespace PortfolioManagement.Fx

variable {R : Type} {rt : FxRuntime R}

/-- A request, the service that got it and what it came to. -/
structure Answer (R : Type) where
  /-- the service before -/
  before : Service R
  /-- the request -/
  request : Request
  /-- what it came to -/
  outcome : Outcome R

/-- A service in use. -/
structure World (R : Type) where
  /-- the service -/
  service : Service R
  /-- the fetches so far -/
  fetches : List (Fetched R)
  /-- the answers so far -/
  answers : List (Answer R)

section
variable (rt : FxRuntime R)

/-- The rates in memory. -/
def memoryQuote (s : Service R) : Option (Fetched R) :=
  (memoryRates rt s).map fun rates => ⟨rates, s.time, s.sources⟩

/-- The rates in the file. -/
def fileQuote (file : CacheFile) : Option (Fetched R) :=
  match readCacheFile rt file with
  | .ok (some rates, time, sources) => some ⟨rates, time, sources⟩
  | _ => none

/-- What a request fetches: what it finds in the file, when it asks for it, and what the providers give,
when it tries them. -/
def made (s : Service R) (q : Request) : List (Fetched R) :=
  match inMemory rt s q, consulted rt s q with
  | none, .ok file =>
    (file.1.map fun rates => (⟨rates, file.2.1, file.2.2⟩ : Fetched R)).toList ++
      if (fromFile q file).isSome then [] else (fetchRates rt q).toList
  | _, _ => []

/-- The service gets a request. -/
def step (w : World R) (q : Request) : Option (World R) :=
  let (service, outcome) := fetchWithEvidence rt w.service q
  some ⟨service, w.fetches ++ made rt w.service q, w.answers ++ [⟨w.service, q, outcome⟩]⟩

/-- The service before its first request. -/
def World.start : World R := ⟨.start, [], []⟩

end

/-- A time that is known is not earlier than one that is not, nor than itself. -/
def NotLater (a b : Option Int) : Prop := ∀ t ∈ a, ∃ u ∈ b, t ≤ u

/-- The rates the request has at hand: those of memory and those of the file. -/
def atHand (rt : FxRuntime R) (s : Service R) (q : Request) : List (Fetched R) :=
  (memoryQuote rt s).toList ++ (fileQuote rt q.file).toList

/-- What an answer should be. -/
structure Right (rt : FxRuntime R) (fetches : List (Fetched R)) (a : Answer R) : Prop where
  /-- rates that are not stale were fetched together, less than a day ago, from named sources -/
  fresh : ∀ fetched status, a.outcome = .rates fetched status → status ≠ .staleFallback →
    fetched ∈ fetches ∧ named fetched.sources = true ∧ ∃ t, fetched.time = some t ∧ a.request.now - t < day
  /-- nothing but missing rates raises -/
  survives : ∀ cause, a.outcome = .raised cause → cause = .noRates
  /-- stale rates are the most recent ones at hand, and the providers failed -/
  mostRecent : ∀ fetched, a.outcome = .rates fetched .staleFallback →
    fetchRates rt a.request = none ∧ fetched ∈ atHand rt a.before a.request ∧
      ∀ other ∈ atHand rt a.before a.request, NotLater other.time fetched.time
  /-- without rates, the providers failed and none are at hand -/
  exhausted : a.outcome = .raised .noRates →
    fetchRates rt a.request = none ∧ atHand rt a.before a.request = []

/-- When a request is answered as it should be. -/
structure Meets (rt : FxRuntime R) (s : Service R) (q : Request) : Prop where
  /-- it asks for sources, or they are there -/
  asks : q.requireSource = true ∨ ∀ fetched ∈ atHand rt s q, named fetched.sources = true
  /-- the clock shows a time that can be converted -/
  clock : rt.shown q.now = true
  /-- the file can be read, when it is asked for, and the time it gives converted, when it is used -/
  file : checkedTime rt s = none → ∃ file, readCacheFile rt q.file = .ok file ∧
    ∀ t ∈ file.2.1, usable q t file.2.2 = true ∨ (memoryRates rt s = none ∧ fetchRates rt q = none) →
      rt.shown t = true
  /-- the file is not more recent than what the request falls back to -/
  recent : inMemory rt s q = none → (∀ file, consulted rt s q = .ok file → fromFile q file = none) →
    fetchRates rt q = none → ∀ m ∈ memoryQuote rt s, ∀ f ∈ fileQuote rt q.file, NotLater f.time m.time

/-! ## One request -/

section
variable {s : Service R} {q : Request}

/-- A float that is checked once more is the same. -/
theorem memoryRates_eq (hagain : ∀ r r', rt.again r = some r' → r' = r) {rates : Rates R}
    (h : memoryRates rt s = some rates) : s.cache = some rates := by
  unfold memoryRates at h
  obtain ⟨cached, hcached, h⟩ := Option.bind_eq_some_iff.mp h
  unfold validatedAgain at h
  obtain ⟨usdcny, husd, h⟩ := Option.bind_eq_some_iff.mp h
  obtain ⟨hkdcny, hhkd, h⟩ := Option.bind_eq_some_iff.mp h
  rw [hcached, ← Option.some.inj h, hagain _ _ husd, hagain _ _ hhkd]

theorem inMemory_some {fetched : Fetched R} (h : inMemory rt s q = some fetched) :
    ∃ rates t, memoryRates rt s = some rates ∧ s.time = some t ∧ usable q t s.sources = true ∧
      fetched = ⟨rates, some t, s.sources⟩ := by
  unfold inMemory at h
  split at h
  · next rates t hrates htime =>
    split_ifs at h with husable
    exact ⟨rates, t, hrates, htime, husable, (Option.some.inj h).symm⟩
  · cases h

theorem fromFile_some {file : Option (Rates R) × Option Int × Members} {fetched : Fetched R}
    (h : fromFile q file = some fetched) :
    ∃ rates t, file = (some rates, some t, file.2.2) ∧ usable q t file.2.2 = true ∧
      fetched = ⟨rates, some t, file.2.2⟩ := by
  unfold fromFile at h
  split at h
  · next rates t sources =>
    split_ifs at h with husable
    exact ⟨rates, t, rfl, husable, (Option.some.inj h).symm⟩
  · cases h

/-- A service that does not ask for its file has rates in memory. -/
theorem consulted_cases {file : Option (Rates R) × Option Int × Members}
    (h : consulted rt s q = .ok file) :
    (checkedTime rt s = none ∧ readCacheFile rt q.file = .ok file) ∨
      ((memoryRates rt s).isSome = true ∧ s.time.isSome = true ∧ file = (none, none, [])) := by
  unfold consulted at h
  cases htime : checkedTime rt s with
  | none =>
    rw [htime] at h
    exact .inl ⟨rfl, h⟩
  | some t =>
    rw [htime] at h
    unfold checkedTime at htime
    split_ifs at htime with hsome
    exact .inr ⟨hsome, by rw [htime]; rfl, (Except.ok.inj h).symm⟩

theorem usable_lt {t : Int} {sources : Members} (h : usable q t sources = true) : q.now - t < day := by
  unfold usable at h
  simp only [Bool.and_eq_true, decide_eq_true_eq] at h
  exact h.1

theorem named_of_usable {t : Int} {sources : Members} (h : usable q t sources = true)
    (hasks : q.requireSource = true) : named sources = true := by
  unfold usable at h
  rw [hasks] at h
  simpa using (Bool.and_eq_true _ _ ▸ h).2

/-- Both providers are named. -/
theorem named_providerSources {usd hkd : String} (husd : isBlankLine (codes usd) = false)
    (hhkd : isBlankLine (codes hkd) = false) : named (providerSources usd hkd) = true := by
  have hnodup : (([("USDCNY", .text usd), ("HKDCNY", .text hkd)] : List (String × Json)).map
      Prod.fst).Nodup := by
    show (["USDCNY", "HKDCNY"] : List String).Nodup
    decide
  have hgetUsd : Json.get (providerSources usd hkd) "USDCNY" = .string (codes usd) :=
    Json.get_display hnodup List.mem_cons_self
  have hgetHkd : Json.get (providerSources usd hkd) "HKDCNY" = .string (codes hkd) :=
    Json.get_display hnodup (List.mem_cons_of_mem _ List.mem_cons_self)
  simp only [named, List.all_cons, List.all_nil, Bool.and_true, hgetUsd, hgetHkd, husd, hhkd]
  rfl

theorem tryProvider_rate {attempt : Nat → Attempt} {provider name : String} {maxRetries : Nat} {r : R} :
    ∀ {left : Nat}, tryProvider rt attempt provider maxRetries left = .rate r name → name = provider
  | 0, h => by cases h
  | left + 1, h => by
    unfold tryProvider at h
    simp only at h
    split at h
    · cases h
      rfl
    · split_ifs at h
      exact tryProvider_rate h

theorem fetchSingleRate_provider {attempt : String → Nat → Attempt} {maxRetries : Nat} {r : R}
    {name : String} : ∀ {names : List String},
    fetchSingleRate rt attempt maxRetries names = .rate r name → name ∈ names
  | [], h => by cases h
  | provider :: rest, h => by
    unfold fetchSingleRate at h
    cases htried : tryProvider rt (attempt provider) provider maxRetries maxRetries with
    | rate r' name' =>
      rw [htried] at h
      cases h
      exact tryProvider_rate htried ▸ List.mem_cons_self
    | failed =>
      rw [htried] at h
      exact List.mem_cons_of_mem _ (fetchSingleRate_provider h)
    | timedOut =>
      rw [htried] at h
      cases h

/-- What the providers give is named, and of the time of the request. -/
theorem fetchRates_some {fetched : Fetched R} (h : fetchRates rt q = some fetched) :
    fetched.time = some q.now ∧ named fetched.sources = true := by
  have hproviders : ∀ name ∈ providers, isBlankLine (codes name) = false := by decide
  unfold fetchRates at h
  split at h
  · next usd usdSource husd =>
    split at h
    · next hkd hkdSource hhkd =>
      obtain ⟨rates, -, rfl⟩ := Option.map_eq_some_iff.mp h
      exact ⟨rfl, named_providerSources (hproviders _ (fetchSingleRate_provider husd))
        (hproviders _ (fetchSingleRate_provider hhkd))⟩
    · cases h
  · cases h

/-- How a request that meets the condition is answered. -/
inductive Answered (rt : FxRuntime R) (s : Service R) (q : Request) : Service R × Outcome R → Prop
  | memory {rates : Rates R} {t : Int} (hmemory : inMemory rt s q = some ⟨rates, some t, s.sources⟩)
      (hrates : memoryRates rt s = some rates) (htime : s.time = some t)
      (husable : usable q t s.sources = true) :
      Answered rt s q (.keep ⟨rates, some t, s.sources⟩, answer rt ⟨rates, some t, s.sources⟩ .memory)
  | file {rates : Rates R} {t : Int} {sources : Members} (hmemory : inMemory rt s q = none)
      (hchecked : checkedTime rt s = none)
      (hfile : readCacheFile rt q.file = .ok (some rates, some t, sources))
      (husable : usable q t sources = true) :
      Answered rt s q (.keep ⟨rates, some t, sources⟩, .rates ⟨rates, some t, sources⟩ .file)
  | provider {fetched : Fetched R} {file : Option (Rates R) × Option Int × Members}
      (hmemory : inMemory rt s q = none) (hconsulted : consulted rt s q = .ok file)
      (hfile : fromFile q file = none) (hfetched : fetchRates rt q = some fetched) :
      Answered rt s q (.keep fetched, .rates fetched .provider)
  | stale {file : Option (Rates R) × Option Int × Members} {result : Service R × Outcome R}
      (hmemory : inMemory rt s q = none) (hconsulted : consulted rt s q = .ok file)
      (hfile : fromFile q file = none) (hfetched : fetchRates rt q = none)
      (hresult : result = fallBack rt (memoryRates rt s) { s with time := checkedTime rt s } file) :
      Answered rt s q result

theorem answer_of_shown (fetched : Fetched R) (status : Status)
    (h : ∀ t ∈ fetched.time, rt.shown t = true) : answer rt fetched status = .rates fetched status := by
  unfold answer
  cases htime : fetched.time with
  | none => rfl
  | some t => exact if_pos (h t htime)

theorem answered_of_meets (h : Meets rt s q) : Answered rt s q (fetchWithEvidence rt s q) := by
  unfold fetchWithEvidence
  cases hmemory : inMemory rt s q with
  | some fetched =>
    obtain ⟨rates, t, hrates, htime, husable, rfl⟩ := inMemory_some hmemory
    exact .memory hmemory hrates htime husable
  | none =>
    have hconsulted : ∃ file, consulted rt s q = .ok file := by
      cases htime : checkedTime rt s with
      | none =>
        obtain ⟨file, hfile, -⟩ := h.file htime
        exact ⟨file, by rw [consulted, htime]; exact hfile⟩
      | some t => exact ⟨_, by rw [consulted, htime]⟩
    obtain ⟨file, hfile⟩ := hconsulted
    simp only [hfile]
    cases hfrom : fromFile q file with
    | some fetched =>
      obtain ⟨rates, t, heq, husable, rfl⟩ := fromFile_some hfrom
      rcases consulted_cases hfile with ⟨hchecked, hread⟩ | ⟨-, -, hnone⟩
      · obtain ⟨file', hread', hshown⟩ := h.file hchecked
        rw [hread] at hread'
        have hsame : file = file' := Except.ok.inj hread'
        have ht : rt.shown t = true := by
          refine hshown t ?_ (.inl ?_)
          · rw [← hsame, heq]
            rfl
          · rw [← hsame]
            exact husable
        have hans := answer_of_shown ⟨rates, some t, file.2.2⟩ .file
          (fun u hu => by cases hu; exact ht)
        simp only [hans]
        exact .file hmemory hchecked (heq ▸ hread) husable
      · rw [hnone] at heq
        cases heq
    | none =>
      simp only
      cases hfetched : fetchRates rt q with
      | some fetched =>
        simp only [if_pos h.clock]
        exact .provider hmemory hfile hfrom hfetched
      | none => exact .stale hmemory hfile hfrom hfetched rfl

/-! ## Runs -/

/-- What holds of a service in use: its time can be converted, what it holds is one of the fetches, and its
answers are right. -/
structure Sound (rt : FxRuntime R) (w : World R) : Prop where
  shown : ∀ t ∈ w.service.time, rt.shown t = true
  held : ∀ rates ∈ w.service.cache, ∀ t ∈ w.service.time,
    (⟨rates, some t, w.service.sources⟩ : Fetched R) ∈ w.fetches
  right : ∀ a ∈ w.answers, Right rt w.fetches a

theorem Right.mono {fetches later : List (Fetched R)} {a : Answer R} (h : Right rt fetches a) :
    Right rt (fetches ++ later) a :=
  { h with fresh := fun fetched status hout hstatus =>
      let ⟨hmem, hrest⟩ := h.fresh fetched status hout hstatus
      ⟨List.mem_append_left _ hmem, hrest⟩ }

theorem notLater_self (t : Option Int) : NotLater t t := fun u hu => ⟨u, hu, le_rfl⟩

theorem fileQuote_eq {rates : Rates R} {time : Option Int} {sources : Members}
    (h : readCacheFile rt q.file = .ok (some rates, time, sources)) :
    fileQuote rt q.file = some ⟨rates, time, sources⟩ := by
  unfold fileQuote
  rw [h]

theorem memoryQuote_eq {rates : Rates R} (h : memoryRates rt s = some rates) :
    memoryQuote rt s = some ⟨rates, s.time, s.sources⟩ := by
  unfold memoryQuote
  rw [h]
  rfl

theorem mem_atHand {fetched : Fetched R} : fetched ∈ atHand rt s q ↔
    memoryQuote rt s = some fetched ∨ fileQuote rt q.file = some fetched := by
  simp [atHand]

/-- The rates a request asked for are named, or it asks for names. -/
theorem named_of_meets {fetched : Fetched R} {t : Int} (h : Meets rt s q)
    (hmem : fetched ∈ atHand rt s q) (husable : usable q t fetched.sources = true) :
    named fetched.sources = true := by
  rcases h.asks with hasks | hnamed
  · exact named_of_usable husable hasks
  · exact hnamed fetched hmem

end

section
variable {w w' : World R} {q : Request}

theorem made_provider {s : Service R} {file : Option (Rates R) × Option Int × Members} {fetched : Fetched R}
    (hmemory : inMemory rt s q = none) (hconsulted : consulted rt s q = .ok file)
    (hfile : fromFile q file = none) (hfetched : fetchRates rt q = some fetched) :
    fetched ∈ made rt s q := by
  unfold made
  rw [hmemory, hconsulted]
  simp [hfile, hfetched]

theorem made_file {s : Service R} {rates : Rates R} {time : Option Int} {sources : Members}
    (hmemory : inMemory rt s q = none) (hconsulted : consulted rt s q = .ok (some rates, time, sources)) :
    (⟨rates, time, sources⟩ : Fetched R) ∈ made rt s q := by
  unfold made
  rw [hmemory, hconsulted]
  simp

/-- A request that falls back answers with the most recent rates at hand. -/
theorem fallen {file : Option (Rates R) × Option Int × Members} {service : Service R}
    {outcome : Outcome R} (hagain : ∀ r r', rt.again r = some r' → r' = r) (hw : Sound rt w)
    (hmeets : Meets rt w.service q) (hmemory : inMemory rt w.service q = none)
    (hconsulted : consulted rt w.service q = .ok file) (hfile : fromFile q file = none)
    (hfetched : fetchRates rt q = none)
    (hresult : fallBack rt (memoryRates rt w.service)
      { w.service with time := checkedTime rt w.service } file = (service, outcome)) :
    Right rt (w.fetches ++ made rt w.service q) ⟨w.service, q, outcome⟩ ∧
      (∀ t ∈ service.time, rt.shown t = true) ∧
      ∀ rates ∈ service.cache, ∀ t ∈ service.time,
        (⟨rates, some t, service.sources⟩ : Fetched R) ∈ w.fetches ++ made rt w.service q := by
  obtain ⟨rates?, time, sources⟩ := file
  cases hrates : memoryRates rt w.service with
  | some rates =>
    have htime : checkedTime rt w.service = w.service.time := by
      unfold checkedTime
      rw [hrates]
      rfl
    have hans := answer_of_shown ⟨rates, w.service.time, w.service.sources⟩
      .staleFallback hw.shown
    rw [hrates, htime] at hresult
    simp only [fallBack, hans] at hresult
    cases hresult
    have hquote := memoryQuote_eq hrates
    refine ⟨⟨?_, ?_, ?_, ?_⟩, hw.shown, ?_⟩
    · intro fetched status hout hstatus
      cases hout
      exact absurd rfl hstatus
    · intro cause hout
      cases hout
    · intro fetched hout
      cases hout
      refine ⟨hfetched, mem_atHand.mpr (.inl hquote), fun other hother => ?_⟩
      rcases mem_atHand.mp hother with hother | hother
      · rw [Option.some.inj (hquote.symm.trans hother)]
        exact notLater_self _
      · refine hmeets.recent hmemory (fun file hread => ?_) hfetched _ hquote other hother
        rw [hconsulted] at hread
        exact Except.ok.inj hread ▸ hfile
    · intro hout
      cases hout
    · intro rates' hrates' t ht
      cases hrates'
      have ht' : w.service.time = some t := ht
      have hheld := hw.held rates (memoryRates_eq hagain hrates) t ht'
      exact List.mem_append_left _ (ht' ▸ hheld)
  | none =>
    have hchecked : checkedTime rt w.service = none := by
      unfold checkedTime
      rw [hrates]
      rfl
    have hnone : memoryQuote rt w.service = none := by
      unfold memoryQuote
      rw [hrates]
      rfl
    have hread : readCacheFile rt q.file = .ok (rates?, time, sources) := by
      rw [consulted, hchecked] at hconsulted
      exact hconsulted
    cases rates? with
    | some rates =>
      have hshown : ∀ t ∈ time, rt.shown t = true := by
        obtain ⟨file, hread', hshown⟩ := hmeets.file hchecked
        rw [hread] at hread'
        cases hread'
        exact fun t ht => hshown t ht (.inr ⟨hrates, hfetched⟩)
      have hans := answer_of_shown ⟨rates, time, sources⟩ .staleFallback hshown
      rw [hrates] at hresult
      simp only [fallBack, hans] at hresult
      cases hresult
      have hquote := fileQuote_eq hread
      refine ⟨⟨?_, ?_, ?_, ?_⟩, hshown, ?_⟩
      · intro fetched status hout hstatus
        cases hout
        exact absurd rfl hstatus
      · intro cause hout
        cases hout
      · intro fetched hout
        cases hout
        refine ⟨hfetched, mem_atHand.mpr (.inr hquote), fun other hother => ?_⟩
        rcases mem_atHand.mp hother with hother | hother
        · rw [hnone] at hother
          cases hother
        · rw [Option.some.inj (hquote.symm.trans hother)]
          exact notLater_self _
      · intro hout
        cases hout
      · intro rates' hrates' t ht
        cases hrates'
        have ht' : time = some t := ht
        exact List.mem_append_right _ (ht' ▸ made_file hmemory hconsulted)
    | none =>
      rw [hrates] at hresult
      simp only [fallBack] at hresult
      cases hresult
      have hempty : fileQuote rt q.file = none := by
        unfold fileQuote
        rw [hread]
      refine ⟨⟨?_, ?_, ?_, ?_⟩, ?_, ?_⟩
      · intro fetched status hout
        cases hout
      · intro cause hout
        cases hout
        rfl
      · intro fetched hout
        cases hout
      · intro _
        refine ⟨hfetched, ?_⟩
        unfold atHand
        rw [hnone, hempty]
        rfl
      · intro t ht
        cases ht
      · intro rates' _ t ht
        cases ht

/-- A request that meets the condition keeps a service sound. -/
theorem step_sound (hagain : ∀ r r', rt.again r = some r' → r' = r) (hw : Sound rt w)
    (hmeets : Meets rt w.service q) (hstep : step rt w q = some w') : Sound rt w' := by
  have hanswered := answered_of_meets hmeets
  unfold step at hstep
  cases hresult : fetchWithEvidence rt w.service q with
  | mk service outcome =>
    rw [hresult] at hstep hanswered
    cases hstep
    -- the answers before stay right, so the new one remains
    have hrest : Right rt (w.fetches ++ made rt w.service q) ⟨w.service, q, outcome⟩ →
        ∀ a ∈ w.answers ++ [⟨w.service, q, outcome⟩], Right rt (w.fetches ++ made rt w.service q) a :=
      fun hnew => List.forall_mem_append.mpr
        ⟨fun a ha => (hw.right a ha).mono, List.forall_mem_singleton.mpr hnew⟩
    cases hanswered with
    | @memory rates t hmemory hrates htime husable =>
      have hheld := hw.held rates (memoryRates_eq hagain hrates) t htime
      have hans := answer_of_shown ⟨rates, some t, w.service.sources⟩ .memory
        (fun u hu => hw.shown u (by cases hu; exact htime))
      have hquote : (⟨rates, some t, w.service.sources⟩ : Fetched R) ∈ atHand rt w.service q :=
        mem_atHand.mpr (.inl (htime ▸ memoryQuote_eq hrates))
      refine ⟨fun u hu => hw.shown u (by cases hu; exact htime), ?_, hrest ⟨?_, ?_, ?_, ?_⟩⟩
      · intro rates' hrates' u hu
        cases hrates'
        cases hu
        exact List.mem_append_left _ hheld
      · intro fetched status hout _
        rw [hans] at hout
        cases hout
        exact ⟨List.mem_append_left _ hheld, named_of_meets hmeets hquote husable, t, rfl,
          usable_lt husable⟩
      · intro cause hout
        rw [hans] at hout
        cases hout
      · intro fetched hout
        rw [hans] at hout
        cases hout
      · intro hout
        rw [hans] at hout
        cases hout
    | @file rates t sources hmemory hchecked hread husable =>
      have hconsulted : consulted rt w.service q = .ok (some rates, some t, sources) := by
        rw [consulted, hchecked]
        exact hread
      have hmade := made_file hmemory hconsulted
      have hquote : (⟨rates, some t, sources⟩ : Fetched R) ∈ atHand rt w.service q :=
        mem_atHand.mpr (.inr (fileQuote_eq hread))
      have hshown : rt.shown t = true := by
        obtain ⟨file, hfile, hshown⟩ := hmeets.file hchecked
        rw [hread] at hfile
        cases hfile
        exact hshown t rfl (.inl husable)
      refine ⟨fun u hu => by cases hu; exact hshown, ?_, hrest ⟨?_, ?_, ?_, ?_⟩⟩
      · intro rates' hrates' u hu
        cases hrates'
        cases hu
        exact List.mem_append_right _ hmade
      · intro fetched status hout _
        cases hout
        exact ⟨List.mem_append_right _ hmade, named_of_meets hmeets hquote husable, t, rfl,
          usable_lt husable⟩
      · intro cause hout
        cases hout
      · intro fetched hout
        cases hout
      · intro hout
        cases hout
    | @provider fetched file hmemory hconsulted hfile hfetched =>
      obtain ⟨htime, hnamed⟩ := fetchRates_some hfetched
      have hmade := made_provider hmemory hconsulted hfile hfetched
      refine ⟨fun u hu => ?_, ?_, hrest ⟨?_, ?_, ?_, ?_⟩⟩
      · have hnow : some q.now = some u := htime.symm.trans hu
        cases hnow
        exact hmeets.clock
      · intro rates' hrates' u hu
        cases hrates'
        have hsame : (⟨fetched.rates, some u, fetched.sources⟩ : Fetched R) = fetched := by
          have hnow : fetched.time = some u := hu
          rw [← hnow]
        exact List.mem_append_right _ (hsame ▸ hmade)
      · intro fetched' status hout _
        cases hout
        exact ⟨List.mem_append_right _ hmade, hnamed, q.now, htime, by simp [day]⟩
      · intro cause hout
        cases hout
      · intro fetched hout
        cases hout
      · intro hout
        cases hout
    | @stale file result hmemory hconsulted hfile hfetched hresult =>
      obtain ⟨hright, hshown, hheld⟩ := fallen hagain hw hmeets hmemory hconsulted hfile hfetched
        hresult.symm
      exact ⟨hshown, hheld, hrest hright⟩

/-- In a run whose requests meet the condition, every answer is right: rates that are not stale were fetched
together less than a day before, from named sources; nothing in the cache file raises or keeps the providers
from being tried; and when these fail, the most recent rates at hand are used. -/
theorem every_answer_is_right (hagain : ∀ r r', rt.again r = some r' → r' = r) {requests : List Request}
    {w : World R} (hmeets : Machine.Always (step rt) (fun w q => Meets rt w.service q) requests .start)
    (hrun : Machine.run (step rt) requests .start = some w) : ∀ a ∈ w.answers, Right rt w.fetches a := by
  have hstart : Sound rt World.start := by
    refine ⟨?_, ?_, ?_⟩
    · intro t ht
      cases ht
    · intro rates hrates
      cases hrates
    · intro a ha
      cases ha
  have hkeeps : ∀ w q w', Meets rt w.service q → Sound rt w → step rt w q = some w' → Sound rt w' :=
    fun _ _ _ hq hw hstep => step_sound hagain hw hq hstep
  exact (Machine.run_invariant_always hkeeps hmeets hrun hstart).right

end

/-! ## Concrete services -/

/-- A runtime whose rates are whole numbers and whose timestamps are microseconds. -/
def wholeRuntime : FxRuntime Nat where
  rate
    | .number literal => if 0 < literalNat literal then some (literalNat literal) else none
    | _ => none
  again r := if 0 < r then some r else none
  round4 r := r
  overLimit _ := false
  timestamp
    | .number literal => .ok (some (literalNat literal))
    | _ => .ok none
  shown t := decide (0 ≤ t)

/-- Providers that give 7 yuan for a dollar of the one kind and 1 for the other. -/
def answering (currency : Currency) (_ : String) (_ : Nat) : Attempt :=
  match currency with
  | .usd => ⟨some (.number (codes "7")), false⟩
  | .hkd => ⟨some (.number (codes "1")), false⟩

/-- Providers that fail. -/
def failing (_ : Currency) (_ : String) (_ : Nat) : Attempt := ⟨none, false⟩

/-- A request to providers that answer. -/
def firstRequest (file : CacheFile) : Request := ⟨3, true, 0, file, answering⟩

/-- A request to the providers without a file, and one an hour later that the memory answers. -/
def hourApart : List Request :=
  [firstRequest .missing, ⟨3, true, 3600 * 1000000, .bytes [], failing⟩]

/-- The rates of the first of the two requests. -/
def firstFetched : Fetched Nat :=
  ⟨⟨7, 1⟩, some 0, providerSources "_fetch_from_open_er_api" "_fetch_from_open_er_api"⟩

/-- Both requests are answered as they should be. -/
theorem hour_apart_is_right : ∃ w, Machine.run (step wholeRuntime) hourApart .start = some w ∧
    w.answers.length = 2 ∧ ∀ a ∈ w.answers, Right wholeRuntime w.fetches a := by
  have hagain : ∀ r r', wholeRuntime.again r = some r' → r' = r := by
    intro r r' h
    unfold wholeRuntime at h
    simp only at h
    split_ifs at h
    exact (Option.some.inj h).symm
  have hfirst : Meets wholeRuntime .start (firstRequest .missing) :=
    { asks := .inl rfl
      clock := rfl
      file := fun _ => ⟨(none, none, []), rfl, fun t ht => by cases ht⟩
      recent := fun _ _ _ m hm => by cases hm }
  have hsecond : Meets wholeRuntime (.keep firstFetched) ⟨3, true, 3600 * 1000000, .bytes [], failing⟩ :=
    { asks := .inl rfl
      clock := rfl
      file := fun h => by cases h
      recent := fun h => by cases h }
  have hmeets : Machine.Always (step wholeRuntime) (fun w q => Meets wholeRuntime w.service q) hourApart
      .start := by
    refine ⟨hfirst, fun s' hs' => ⟨?_, fun _ _ => trivial⟩⟩
    cases hs'
    exact hsecond
  obtain ⟨w, hrun⟩ : ∃ w, Machine.run (step wholeRuntime) hourApart .start = some w := ⟨_, rfl⟩
  refine ⟨w, hrun, ?_, every_answer_is_right hagain hmeets hrun⟩
  cases hrun
  rfl

/-- A file with ASCII text. -/
def asciiFile (text : String) : CacheFile := .bytes ((codes text).map .ofNat)

/-- A file with rates that were fetched two days after the start. -/
def laterFile : CacheFile :=
  asciiFile "\x7b\"rates\": \x7b\"USDCNY\": 8, \"HKDCNY\": 1\x7d, \"timestamp\": 172800000000\x7d"

/-- A request two days later. -/
def lateRequest : Request := ⟨3, true, 2 * day, laterFile, failing⟩

/-- A file that holds a list raises, and rates in memory that are more than a day old hide more recent ones in
the file. -/
theorem file_raises_and_is_hidden :
    (∃ w a, Machine.run (step wholeRuntime) [firstRequest (asciiFile "[]")] .start = some w ∧
      a ∈ w.answers ∧ ¬ Right wholeRuntime w.fetches a) ∧
    ∃ w a, Machine.run (step wholeRuntime) [firstRequest .missing, lateRequest] .start = some w ∧
      a ∈ w.answers ∧ ¬ Right wholeRuntime w.fetches a := by
  constructor
  · let a : Answer Nat := ⟨.start, firstRequest (asciiFile "[]"), .raised .cacheFile⟩
    have hrun : Machine.run (step wholeRuntime) [firstRequest (asciiFile "[]")] .start =
        some ⟨.start, [], [a]⟩ := rfl
    refine ⟨_, a, hrun, List.mem_singleton_self a, fun h => ?_⟩
    have hcause := h.survives .cacheFile rfl
    cases hcause
  · let a : Answer Nat := ⟨.keep firstFetched, lateRequest, .rates firstFetched .staleFallback⟩
    have hrun : Machine.run (step wholeRuntime) [firstRequest .missing, lateRequest] .start =
        some ⟨.keep firstFetched, [firstFetched],
          [⟨.start, firstRequest .missing, .rates firstFetched .provider⟩, a]⟩ := rfl
    refine ⟨_, a, hrun, List.mem_cons_of_mem _ (List.mem_singleton_self a), fun h => ?_⟩
    have hquote : fileQuote wholeRuntime laterFile = some ⟨⟨8, 1⟩, some (2 * day), []⟩ := rfl
    obtain ⟨-, -, hlatest⟩ := h.mostRecent firstFetched rfl
    obtain ⟨t, ht, hle⟩ := hlatest _ (mem_atHand.mpr (.inr hquote)) (2 * day) rfl
    cases ht
    exact absurd hle (by decide)

end PortfolioManagement.Fx
