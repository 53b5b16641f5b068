import PortfolioManagement.FutuRefresh.Worker

/-!
# A refresh announces what its completing attempt wrote

One request at most is running, under the one owner of the lock. A request is taken again until a
successful result is settled, and never after; its completed row and its receipt are written in one
transaction and stay. The receipt announces the changes of the holdings by the last attempt. What an
earlier attempt had written before it failed, or before its process died, is compared as unchanged by
the next one and is announced by none.
-/

namespace PortfolioManagement.FutuRefresh

open Futu OperationState

variable {s s' : WorkerState} {a : Act}

theorem sound_sync (key : RefreshKey) (book : Book key.account) (outside : Outside) :
    Attempt.Sound ⟨key, book.1, (syncPortfolio key.account outside book.1).2,
      some (syncPortfolio key.account outside book.1).1⟩ where
  slice := book.2
  account result h := by
    cases h
    exact syncPortfolio_account ..
  sync result h _ := by
    cases h
    exact ⟨outside, rfl⟩

theorem sound_raised (key : RefreshKey) (book : Book key.account) (after : List Holding) :
    Attempt.Sound ⟨key, book.1, after, some (raisedResult key.account)⟩ where
  slice := book.2
  account result h := by
    cases h
    rfl
  sync result h hproven := by
    cases h
    cases hproven

theorem sound_died (key : RefreshKey) (book : Book key.account) (after : List Holding) :
    Attempt.Sound ⟨key, book.1, after, none⟩ where
  slice := book.2
  account _ h := by cases h
  sync _ h := by cases h

theorem Law.step (hs : Law s) (h : s.step a = some s') : Law s' := by
  cases a with
  | accept key now =>
    unfold WorkerState.step at h
    simp only at h
    split at h
    · next hvalid =>
      cases h
      exact hs.accept ((Bool.and_eq_true _ _).mp hvalid).1
    · cases h
  | start =>
    unfold WorkerState.step at h
    simp only at h
    split at h
    · cases h
      have hfits : Fits s.inbox s.attempts (some .idle) := fun _ _ hk hk' => hs.fits.serial hk hk'
      exact hs.withOwner hfits s.books
    · cases h
  | stop =>
    unfold WorkerState.step at h
    simp only at h
    split at h
    · cases h
    · cases h
    · cases h
      have hfits : Fits s.inbox s.attempts none := fun _ _ hk hk' => hs.fits.serial hk hk'
      exact hs.withOwner hfits s.books
  | recover now =>
    unfold WorkerState.step at h
    simp only at h
    split at h
    · cases h
      exact hs.recover now
    · cases h
  | again =>
    unfold WorkerState.step at h
    simp only at h
    split at h
    · cases h
      have hfits : Fits s.inbox s.attempts (some .idle) := fun _ _ hk hk' => hs.fits.serial hk hk'
      exact hs.withOwner hfits s.books
    · cases h
  | claim now =>
    unfold WorkerState.step at h
    simp only at h
    split at h
    · next howner =>
      cases h
      exact hs.claim howner now
    · cases h
  | refresh outside =>
    unfold WorkerState.step at h
    simp only at h
    split at h
    · next key howner =>
      cases h
      exact hs.attempted howner _ _ (sound_sync key (s.books key.account) outside)
    · cases h
  | raise outside kept =>
    unfold WorkerState.step at h
    simp only at h
    split at h
    · next key howner =>
      cases h
      exact hs.attempted howner _ _ (sound_raised key (s.books key.account) _)
    · cases h
  | die outside kept =>
    unfold WorkerState.step at h
    simp only at h
    split at h
    · next key howner =>
      cases h
      exact hs.attempted howner _ _ (sound_died key (s.books key.account) _)
    · cases h
  | settle now acknowledged =>
    unfold WorkerState.step at h
    simp only at h
    split at h
    · next key result howner =>
      split at h
      · next hsettle =>
        cases h
        exact hs.settle howner hsettle acknowledged
      · cases h
        exact hs
    · cases h
  | edit account book =>
    cases h
    exact hs.withOwner hs.fits _

/-! ## Executions -/

/-- An attempt is made by the owner for the request it took. -/
theorem attempts_step (h : s.step a = some s') :
    s'.attempts = s.attempts ∨
      ∃ key e, s.owner = some (.refreshing key) ∧ e.key = key ∧ s'.attempts = e :: s.attempts := by
  cases a with
  | accept | start | recover | again | claim =>
    unfold WorkerState.step at h
    simp only at h
    split at h <;> cases h
    exact .inl rfl
  | stop =>
    unfold WorkerState.step at h
    simp only at h
    split at h <;> cases h
    exact .inl rfl
  | refresh | raise | die =>
    unfold WorkerState.step at h
    simp only at h
    split at h
    · next key howner =>
      cases h
      exact .inr ⟨key, _, howner, rfl, rfl⟩
    · cases h
  | settle =>
    unfold WorkerState.step at h
    simp only at h
    split at h
    · split at h <;> cases h <;> exact .inl rfl
    · cases h
  | edit =>
    cases h
    exact .inl rfl

/-- A request stays; a completed one stays as it is and is not executed again. -/
def Stays (s s' : WorkerState) : Prop :=
  ∀ key row, s.inbox.lookup key = some row → ∃ row', s'.inbox.lookup key = some row' ∧
    (row.state = .completed → row' = row ∧ attemptsOf key s'.attempts = attemptsOf key s.attempts)

theorem Stays.of_map {inbox : Requests} {g : RefreshKey → RefreshRow → RefreshRow}
    (hinbox : s'.inbox = inbox) (hattempts : s'.attempts = s.attempts)
    (hlookup : ∀ key, inbox.lookup key = (s.inbox.lookup key).map (g key))
    (hkept : ∀ key row, row.state = .completed → g key row = row) : Stays s s' := by
  intro key row hrow
  refine ⟨g key row, ?_, fun hcompleted => ⟨hkept key row hcompleted, by rw [hattempts]⟩⟩
  rw [hinbox, hlookup, hrow, Option.map_some]

theorem stays_step (hs : Law s) (h : s.step a = some s') : Stays s s' := by
  cases a with
  | accept key now =>
    unfold WorkerState.step at h
    simp only at h
    split at h
    · cases h
      intro k row hrow
      refine ⟨row, ?_, fun _ => ⟨rfl, rfl⟩⟩
      show (acceptFutuRefresh key now s.inbox).lookup k = some row
      rw [lookup_accept]
      split
      · next hk =>
        rw [← hk, hrow]
        rfl
      · exact hrow
    · cases h
  | start | again =>
    unfold WorkerState.step at h
    simp only at h
    split at h <;> cases h
    exact fun key row hrow => ⟨row, hrow, fun _ => ⟨rfl, rfl⟩⟩
  | stop =>
    unfold WorkerState.step at h
    simp only at h
    split at h <;> cases h
    exact fun key row hrow => ⟨row, hrow, fun _ => ⟨rfl, rfl⟩⟩
  | recover now =>
    unfold WorkerState.step at h
    simp only at h
    split at h
    · cases h
      refine Stays.of_map rfl rfl (fun key => lookup_recover now s.inbox key) fun key row hcompleted => ?_
      rw [hcompleted, if_neg (by simp)]
    · cases h
  | claim now =>
    unfold WorkerState.step at h
    simp only at h
    split at h
    · cases h
      cases hclaim : claimFutuRefresh now s.inbox with
      | mk inbox found =>
        cases found with
        | none =>
          obtain ⟨rfl, -⟩ := claim_none hclaim
          exact fun key row hrow => ⟨row, hrow, fun _ => ⟨rfl, rfl⟩⟩
        | some taken =>
          obtain ⟨_, -, -, -, rfl⟩ := claim_some hclaim
          refine Stays.of_map rfl rfl (fun key => lookup_taken taken key now s.inbox)
            fun key row hcompleted => ?_
          rw [hcompleted, if_neg (by simp)]
    · cases h
  | refresh | raise | die =>
    unfold WorkerState.step at h
    simp only at h
    split at h
    · next taken howner =>
      cases h
      intro key row hrow
      refine ⟨row, hrow, fun hcompleted => ⟨rfl, attemptsOf_ne ?_ _⟩⟩
      have hfits := hs.fits
      rw [howner] at hfits
      obtain ⟨running, hrunning, hstate⟩ := hfits.1
      rintro rfl
      rw [hrow] at hrunning
      cases hrunning
      rw [hstate] at hcompleted
      cases hcompleted
    · cases h
  | settle now acknowledged =>
    unfold WorkerState.step at h
    simp only at h
    split at h
    · next settled result howner =>
      split at h
      · next inbox receipts hsettle =>
        cases h
        obtain ⟨_, -, ⟨-, -, rfl, rfl⟩ | ⟨-, rfl, -⟩⟩ := settle_ok hsettle
        · exact fun key row hrow => ⟨row, hrow, fun _ => ⟨rfl, rfl⟩⟩
        · refine Stays.of_map rfl rfl (fun key => lookup_settled settled key result now s.inbox)
            fun key row hcompleted => ?_
          rw [hcompleted, if_neg (by simp)]
      · cases h
        exact fun key row hrow => ⟨row, hrow, fun _ => ⟨rfl, rfl⟩⟩
    · cases h
  | edit account book =>
    cases h
    exact fun key row hrow => ⟨row, hrow, fun _ => ⟨rfl, rfl⟩⟩

theorem stays_of_run {acts : List Act} (hs : Law s)
    (hrun : Machine.run WorkerState.step acts s = some s') : Stays s s' := by
  refine Machine.run_relates (I := Law) (R := Stays) (fun _ key row hrow => ⟨row, hrow, fun _ => ⟨rfl, rfl⟩⟩)
    (fun s₀ s₁ s₂ h h' key row hrow => ?_) (fun _ _ _ => Law.step) (fun _ _ _ => stays_step) hrun hs
  obtain ⟨row₁, hrow₁, hdone₁⟩ := h key row hrow
  obtain ⟨row₂, hrow₂, hdone₂⟩ := h' key row₁ hrow₁
  refine ⟨row₂, hrow₂, fun hcompleted => ?_⟩
  obtain ⟨rfl, hattempts₁⟩ := hdone₁ hcompleted
  obtain ⟨rfl, hattempts₂⟩ := hdone₂ hcompleted
  exact ⟨rfl, hattempts₂.trans hattempts₁⟩

/-- The ready owner takes a due request, and of several the first one. -/
theorem claim_takes (hs : Law s) (howner : s.owner = some .ready) {key : RefreshKey} {row : RefreshRow}
    (hrow : s.inbox.lookup key = some row) {now : Int} (hdue : row.due now = true) :
    ∃ s₁ taken first, s.step (.claim now) = some s₁ ∧ s₁.owner = some (.refreshing taken) ∧
      s.inbox.lookup taken = some first ∧ (claimOrder (taken, first) (key, row)).isLE = true := by
  have hmem := (Items.mem_iff_lookup hs.nodup).mpr hrow
  unfold WorkerState.step
  simp only
  rw [if_pos howner]
  cases hclaim : claimFutuRefresh now s.inbox with
  | mk inbox found =>
    cases found with
    | none =>
      have hnone := (claim_none hclaim).2 _ hmem
      rw [hdue] at hnone
      cases hnone
    | some taken =>
      obtain ⟨first, hfirst, -, hmin, -⟩ := claim_some hclaim
      exact ⟨_, taken, first, rfl, rfl, (Items.mem_iff_lookup hs.nodup).mp hfirst, hmin _ hmem hdue⟩

/-- The settlement of a running request is committed. -/
theorem settle_commits (hs : Law s) {key : RefreshKey} {result : SyncResult}
    (howner : s.owner = some (.settling key result)) {row : RefreshRow}
    (hrow : s.inbox.lookup key = some row) (hrunning : row.state = .running) (now : Int) :
    ∃ s₁, s.step (.settle now true) = some s₁ ∧ s₁.owner = some .idle ∧
      s₁.inbox.lookup key = some (row.settle result now) := by
  have hfits := hs.fits
  rw [howner] at hfits
  obtain ⟨-, ⟨e, rest, hlast, hresult⟩, -⟩ := hfits
  have he : e ∈ attemptsOf key s.attempts := by
    rw [hlast]
    exact List.mem_cons_self
  obtain ⟨hmem, hkey⟩ := List.mem_filter.mp he
  have haccount : result.account = key.account := by
    rw [(hs.sound e hmem).account result hresult, of_decide_eq_true hkey]
  have hnone : s.receipts.lookup (receiptKey key) = none := by
    rw [hs.receipts key (hs.valid key row hrow), hrow]
    unfold RefreshRow.announced
    rw [Option.bind_some, hrunning]
    rfl
  have hok : ∃ receipts, settleFutuRefresh key result now s.inbox s.receipts =
      .ok (settleRequest key result now s.inbox, receipts) := by
    unfold settleFutuRefresh
    rw [hrow]
    simp only [hrunning]
    cases hpayload : announcement result with
    | none =>
      unfold announcement at hpayload
      rw [hpayload]
      exact ⟨_, rfl⟩
    | some payload =>
      have hpayloadAccount := (account_of_announcement hpayload).trans haccount
      unfold announcement at hpayload
      rw [hpayload]
      simp only
      unfold insertQuantityReceipt
      rw [if_neg (not_not.mpr hpayloadAccount), hnone]
      exact ⟨_, rfl⟩
  obtain ⟨receipts, hok⟩ := hok
  have hstep : s.step (.settle now true) = some { s with
      inbox := settleRequest key result now s.inbox
      receipts := receipts
      owner := some .idle } := by
    unfold WorkerState.step
    simp only [howner, hok]
    rfl
  refine ⟨_, hstep, rfl, ?_⟩
  show (settleRequest key result now s.inbox).lookup key = some (row.settle result now)
  rw [lookup_settled, hrow, Option.map_some, if_pos ⟨rfl, hrunning⟩]

/-! ## Announcements -/

/-- What is announced for a completed request: the changes of its last attempt. -/
structure Announces (s : WorkerState) (key : RefreshKey) (row : RefreshRow) (result : SyncResult)
    (last : Attempt) (earlier : List Attempt) : Prop where
  /-- the settled result -/
  result_eq : row.result = some result
  /-- it is a success -/
  success : result.success = true
  /-- the attempts for the request -/
  attempts : attemptsOf key s.attempts = last :: earlier
  /-- the result is that of the last one -/
  last_result : last.result = some result
  /-- a receipt announces what the last attempt changed -/
  changes : ∀ payload, s.receipts.lookup (receiptKey key) = some payload → ∀ c,
    c ∈ payload.changes ↔ Changed key.account last.before last.after c
  /-- there is none when it changed nothing or its write was not read back as trusted -/
  silent : s.receipts.lookup (receiptKey key) = none ↔
    result.proven = false ∨ ∀ c, ¬ Changed key.account last.before last.after c
  /-- these are the changes of all attempts when no earlier one changed anything -/
  all : (∀ e ∈ earlier, ∀ c, ¬ Changed key.account e.before e.after c) →
    ∀ payload, s.receipts.lookup (receiptKey key) = some payload → ∀ c,
      c ∈ payload.changes ↔ ∃ e ∈ attemptsOf key s.attempts, Changed key.account e.before e.after c

theorem announces_of_completed (hs : Law s) {key : RefreshKey} {row : RefreshRow}
    (hrow : s.inbox.lookup key = some row) (hcompleted : row.state = .completed) :
    ∃ result last earlier, Announces s key row result last earlier := by
  obtain ⟨result, hresult, hsuccess, last, earlier, hattempts, hlast⟩ := hs.completed key row hrow hcompleted
  have hreceipt : s.receipts.lookup (receiptKey key) = quantityChangePayload result := by
    rw [hs.receipts key (hs.valid key row hrow), hrow, Option.bind_some]
    unfold RefreshRow.announced
    rw [if_pos hcompleted, hresult]
    rfl
  have hmem : last ∈ attemptsOf key s.attempts := by
    rw [hattempts]
    exact List.mem_cons_self
  obtain ⟨hmem, hkey⟩ := List.mem_filter.mp hmem
  have hkey : last.key = key := of_decide_eq_true hkey
  have hsound := hs.sound last hmem
  have hslice : Slice key.account last.before := hkey ▸ hsound.slice
  have hsync : result.proven = true → ∃ outside,
      syncPortfolio key.account outside last.before = (result, last.after) :=
    hkey ▸ hsound.sync result hlast
  have hchanges : ∀ payload, s.receipts.lookup (receiptKey key) = some payload → ∀ c,
      c ∈ payload.changes ↔ Changed key.account last.before last.after c := by
    intro payload hpayload c
    rw [hreceipt] at hpayload
    have hproven : result.proven = true := by
      unfold quantityChangePayload at hpayload
      split at hpayload
      · cases hpayload
      · next hproven => simpa using hproven
    obtain ⟨outside, hsync⟩ := hsync hproven
    exact announces_iff hslice hsync hpayload c
  refine ⟨result, last, earlier, hresult, hsuccess, hattempts, hlast, hchanges, ?_, ?_⟩
  · rw [hreceipt]
    cases hproven : result.proven with
    | false =>
      unfold quantityChangePayload
      rw [hproven]
      simp
    | true =>
      obtain ⟨outside, hsync⟩ := hsync hproven
      rw [silent_iff hslice hsync, hproven]
  · intro hearlier payload hpayload c
    rw [hchanges payload hpayload c, hattempts]
    constructor
    · exact fun hc => ⟨last, List.mem_cons_self, hc⟩
    · rintro ⟨e, he, hc⟩
      rcases List.mem_cons.mp he with rfl | he
      · exact hc
      · exact absurd hc (hearlier e he c)

/-- In every run, with `s` a state it reaches and `s'` a later one: one request at most is running, and
it is the one the owner of the lock executes; a request stays, its completion and its receipt stay as
they are and it is not executed again; until then the ready owner finds it pending and takes it no later
than those before it, and its settlement is committed; it has no receipt, and once completed the receipt
that its last attempt gives. -/
theorem refresh_announces_its_completing_attempt (books : (account : String) → Book account)
    {acts acts' : List Act} (hrun : Machine.run WorkerState.step acts (.start books) = some s)
    (hrun' : Machine.run WorkerState.step acts' s = some s') :
    (∀ key key', Running s.inbox key → Running s.inbox key' → key = key') ∧
      (∀ a s₁, s.step a = some s₁ → s₁.attempts = s.attempts ∨
        ∃ key e, s.owner = some (.refreshing key) ∧ Running s.inbox key ∧ e.key = key ∧
          s₁.attempts = e :: s.attempts) ∧
      (∀ key row, s.inbox.lookup key = some row → ∃ row', s'.inbox.lookup key = some row' ∧
        (row.state = .completed → row' = row ∧
          attemptsOf key s'.attempts = attemptsOf key s.attempts ∧
            s'.receipts.lookup (receiptKey key) = s.receipts.lookup (receiptKey key))) ∧
      (s.owner = some .ready → ∀ key row, s.inbox.lookup key = some row → row.state ≠ .completed →
        row.state = .pending ∧ ∀ now, row.nextAttemptAt ≤ now → ∃ s₁ taken first,
          s.step (.claim now) = some s₁ ∧ s₁.owner = some (.refreshing taken) ∧
            s.inbox.lookup taken = some first ∧ (claimOrder (taken, first) (key, row)).isLE = true) ∧
      (∀ key result row, s.owner = some (.settling key result) → s.inbox.lookup key = some row →
        row.state = .running → ∀ now, ∃ s₁, s.step (.settle now true) = some s₁ ∧
          s₁.owner = some .idle ∧ s₁.inbox.lookup key = some (row.settle result now)) ∧
      (∀ key row, s.inbox.lookup key = some row →
        (row.state ≠ .completed → s.receipts.lookup (receiptKey key) = none) ∧
          (row.state = .completed → ∃ result last earlier,
            Announces s key row result last earlier)) := by
  have hs : Law s := Machine.run_invariant (fun _ _ _ => Law.step) hrun (law_start books)
  have hs' : Law s' := Machine.run_invariant (fun _ _ _ => Law.step) hrun' hs
  refine ⟨fun key key' => hs.fits.serial, fun a s₁ h => ?_, fun key row hrow => ?_,
    fun howner key row hrow hopen => ?_,
    fun key result row howner hrow hrunning now => settle_commits hs howner hrow hrunning now,
    fun key row hrow => ⟨fun hopen => ?_, fun hcompleted => announces_of_completed hs hrow hcompleted⟩⟩
  · rcases attempts_step h with hsame | ⟨key, e, howner, hkey, hattempts⟩
    · exact .inl hsame
    · have hfits := hs.fits
      rw [howner] at hfits
      exact .inr ⟨key, e, howner, hfits.1, hkey, hattempts⟩
  · obtain ⟨row', hrow', hdone⟩ := stays_of_run hs hrun' key row hrow
    refine ⟨row', hrow', fun hcompleted => ?_⟩
    obtain ⟨rfl, hattempts⟩ := hdone hcompleted
    have hvalid := hs.valid key row' hrow
    exact ⟨rfl, hattempts, by rw [hs.receipts key hvalid, hs'.receipts key hvalid, hrow, hrow']⟩
  · have hready := hs.fits
    rw [howner] at hready
    have hpending : row.state = .pending := by
      cases hstate : row.state with
      | pending => rfl
      | running => exact absurd ⟨row, hrow, hstate⟩ (hready key)
      | completed => exact absurd hstate hopen
    refine ⟨hpending, fun now hnow => claim_takes hs howner hrow ?_⟩
    unfold RefreshRow.due
    rw [hpending, decide_eq_true hnow]
    rfl
  · rw [hs.receipts key (hs.valid key row hrow), hrow, Option.bind_some]
    unfold RefreshRow.announced
    rw [if_neg hopen]

/-! ## A run that fails after its write -/

/-- No holdings. -/
def noHoldings (account : String) : Book account :=
  ⟨[], List.nodup_nil, fun _ h => by cases h⟩

/-- A snapshot with ten shares, and how the write of the fund ends. -/
def tenShares (fund : Except String Unit) : Outside where
  fetched := .ok ⟨[hkPosition "EXAMPLE" 10 5], "futu-openapi", "snapshot", "2026-10-30T01:00:00Z", .ok ()⟩
  bulk := none
  fund := fund
  readBack := some ⟨"trusted", "trusted"⟩
  saved := true
  syncRunId := "sync"
  newId _ := 1
  today := 0

/-- A request of an account. -/
def aliceRequest : RefreshKey := ⟨"alice", "stock-refresh:1"⟩

/-- The request is taken once, and its sync succeeds. -/
def refreshedOnce : List Act :=
  [.accept aliceRequest 0, .start, .recover 0, .claim 0, .refresh (tenShares (.ok ())), .settle 0 true]

/-- The first attempt writes the shares and fails on the fund; the second one finds them unchanged. -/
def failedAfterWrite : List Act :=
  [.accept aliceRequest 0, .start, .recover 0, .claim 0, .refresh (tenShares (.error "fund")),
    .settle 0 true, .recover (minutes 1), .claim (minutes 1), .refresh (tenShares (.ok ())),
    .settle (minutes 1) true]

/-- The theorem at the request that is refreshed once. -/
theorem refresh_announces_its_completing_attempt_once :
    ∃ s, Machine.run WorkerState.step refreshedOnce (.start noHoldings) = some s ∧
      s.receipts.map (fun receipt => receipt.2.changes) = [[⟨"EXAMPLE", 0, 10⟩]] ∧
      ∀ row, s.inbox.lookup aliceRequest = some row → row.state = .completed →
        ∃ result last earlier, Announces s aliceRequest row result last earlier := by
  have hreceipts : (Machine.run WorkerState.step refreshedOnce (.start noHoldings)).map
      (fun s => s.receipts.map fun receipt => receipt.2.changes) = some [[⟨"EXAMPLE", 0, 10⟩]] := by
    decide +kernel
  obtain ⟨s, hrun, hs⟩ := Option.map_eq_some_iff.mp hreceipts
  have hstay : Machine.run WorkerState.step [] s = some s := rfl
  exact ⟨s, hrun, hs, fun row hrow =>
    ((refresh_announces_its_completing_attempt noHoldings hrun hstay).2.2.2.2.2 aliceRequest row hrow).2⟩

/-- The request is completed without a receipt, although its attempts changed the holdings. -/
theorem write_of_a_failed_attempt_is_not_announced :
    (Machine.run WorkerState.step failedAfterWrite (.start noHoldings)).map (fun s =>
        (s.inbox.map fun row => row.2.state, s.receipts, s.attempts.reverse.map fun e =>
          (stockQuantity e.before "alice" "EXAMPLE", stockQuantity e.after "alice" "EXAMPLE"))) =
      some ([.completed], [], [(0, 10), (10, 10)]) := by
  decide +kernel

end PortfolioManagement.FutuRefresh
