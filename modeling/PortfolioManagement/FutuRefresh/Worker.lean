import Mathlib.Logic.Function.Basic
import PortfolioManagement.FutuRefresh.Inbox
import PortfolioManagement.Lib.Machine

/-!
# The refresh worker

`FutuRefreshWorker` runs under a process lock, so that one owner at a time recovers the requests that
were running, takes one, refreshes the holdings and settles the result. A process may die at any step,
also while it writes the holdings; a settlement may be committed without its acknowledgement, and is
tried again. Between two steps anybody may edit the holdings.

The attempts are recorded with the holdings before and after them, the last one first.
-/

namespace PortfolioManagement.FutuRefresh

open Futu OperationState

/-- The holdings of an account; an identity has one row. -/
abbrev Book (account : String) := { holdings : List Holding // Slice account holdings }

/-- Where the owner of the lock is in its loop. -/
inductive Phase
  /-- the running requests are to be recovered -/
  | idle
  /-- a request is to be taken -/
  | ready
  /-- the holdings are to be refreshed for a request -/
  | refreshing (key : RefreshKey)
  /-- its result is to be settled -/
  | settling (key : RefreshKey) (result : SyncResult)
deriving DecidableEq

/-- An attempt to refresh the holdings for a request. -/
structure Attempt where
  /-- the request -/
  key : RefreshKey
  /-- the holdings before -/
  before : List Holding
  /-- the holdings after -/
  after : List Holding
  /-- its result, unless the process died -/
  result : Option SyncResult

/-- The tables, the holdings, the owner of the lock, and the attempts. -/
structure WorkerState where
  /-- the requests -/
  inbox : Requests
  /-- the quantity receipts -/
  receipts : QuantityReceipts
  /-- the holdings -/
  books : (account : String) → Book account
  /-- the owner of the lock -/
  owner : Option Phase
  /-- the attempts -/
  attempts : List Attempt

/-- Before anything is accepted. -/
def WorkerState.start (books : (account : String) → Book account) : WorkerState :=
  ⟨[], [], books, none, []⟩

/-- A step. -/
inductive Act
  /-- a request is delivered -/
  | accept (key : RefreshKey) (now : Int)
  /-- a worker gets the lock -/
  | start
  /-- the owner stops, or dies outside a refresh -/
  | stop
  /-- it recovers the running requests -/
  | recover (now : Int)
  /-- its claim raises, and the loop begins again -/
  | again
  /-- it takes a request, if one is due -/
  | claim (now : Int)
  /-- it refreshes the holdings -/
  | refresh (outside : Outside)
  /-- the refresh raises, having written some rows -/
  | raise (outside : Outside) (kept : Replacement → Bool)
  /-- it dies during the refresh, having written some rows -/
  | die (outside : Outside) (kept : Replacement → Bool)
  /-- it settles the result; a committed settlement may lose its acknowledgement -/
  | settle (now : Int) (acknowledged : Bool)
  /-- somebody else edits the holdings -/
  | edit (account : String) (book : Book account)

/-- The result of a refresh that raised. -/
def raisedResult (account : String) : SyncResult :=
  { SyncResult.failure account "" "" none none with error := none }

namespace WorkerState

/-- The state after an attempt. -/
def attempted (s : WorkerState) (key : RefreshKey) (book : Book key.account)
    (result : Option SyncResult) : WorkerState :=
  { s with
    books := Function.update s.books key.account book
    owner := result.map (Phase.settling key)
    attempts := ⟨key, (s.books key.account).1, book.1, result⟩ :: s.attempts }

/-- One step. -/
def step (s : WorkerState) : Act → Option WorkerState
  | .accept key now =>
    if validAccount key.account && validRequestId key.requestId then
      some { s with inbox := acceptFutuRefresh key now s.inbox }
    else none
  | .start => if s.owner = none then some { s with owner := some .idle } else none
  | .stop =>
    match s.owner with
    | none => none
    | some (.refreshing _) => none
    | some _ => some { s with owner := none }
  | .recover now =>
    if s.owner = some .idle then
      some { s with inbox := recoverFutuRefreshes now s.inbox, owner := some .ready }
    else none
  | .again => if s.owner = some .ready then some { s with owner := some .idle } else none
  | .claim now =>
    if s.owner = some .ready then
      some { s with
        inbox := (claimFutuRefresh now s.inbox).1
        owner := some ((claimFutuRefresh now s.inbox).2.elim .idle .refreshing) }
    else none
  | .refresh outside =>
    match s.owner with
    | some (.refreshing key) =>
      let book := s.books key.account
      some (s.attempted key
        ⟨(syncPortfolio key.account outside book.1).2, slice_syncPortfolio book.2 outside⟩
        (some (syncPortfolio key.account outside book.1).1))
    | _ => none
  | .raise outside kept =>
    match s.owner with
    | some (.refreshing key) =>
      let book := s.books key.account
      some (s.attempted key
        ⟨interruptedSync key.account outside kept book.1, slice_interruptedSync book.2 outside kept⟩
        (some (raisedResult key.account)))
    | _ => none
  | .die outside kept =>
    match s.owner with
    | some (.refreshing key) =>
      let book := s.books key.account
      some (s.attempted key
        ⟨interruptedSync key.account outside kept book.1, slice_interruptedSync book.2 outside kept⟩
        none)
    | _ => none
  | .settle now acknowledged =>
    match s.owner with
    | some (.settling key result) =>
      match settleFutuRefresh key result now s.inbox s.receipts with
      | .ok (inbox, receipts) =>
        some { s with
          inbox := inbox
          receipts := receipts
          owner := some (if acknowledged then .idle else .settling key result) }
      | .error _ => some s
    | _ => none
  | .edit account book => some { s with books := Function.update s.books account book }

end WorkerState

/-! ## What every run keeps -/

/-- The attempts for a request. -/
def attemptsOf (key : RefreshKey) (attempts : List Attempt) : List Attempt :=
  attempts.filter fun e => e.key = key

theorem attemptsOf_self {e : Attempt} {key : RefreshKey} (h : e.key = key) (attempts : List Attempt) :
    attemptsOf key (e :: attempts) = e :: attemptsOf key attempts :=
  List.filter_cons_of_pos (decide_eq_true h)

theorem attemptsOf_ne {e : Attempt} {key : RefreshKey} (h : e.key ≠ key) (attempts : List Attempt) :
    attemptsOf key (e :: attempts) = attemptsOf key attempts :=
  List.filter_cons_of_neg (by simpa using h)

/-- The receipt of a request, which a completed one has when its result announces something. -/
def RefreshRow.announced (row : RefreshRow) : Option QuantityPayload :=
  if row.state = .completed then row.result.bind quantityChangePayload else none

/-- The request is running. -/
def Running (inbox : Requests) (key : RefreshKey) : Prop :=
  ∃ row, inbox.lookup key = some row ∧ row.state = .running

/-- An attempt whose result is proven is a sync of the holdings before it. -/
structure Attempt.Sound (e : Attempt) : Prop where
  /-- an identity has one row before -/
  slice : Slice e.key.account e.before
  /-- the account of the result -/
  account : ∀ result, e.result = some result → result.account = e.key.account
  /-- a proven result is that of a sync -/
  sync : ∀ result, e.result = some result → result.proven = true →
    ∃ outside, syncPortfolio e.key.account outside e.before = (result, e.after)

/-- The result is that of the last attempt for the request. -/
def LastResult (attempts : List Attempt) (key : RefreshKey) (result : SyncResult) : Prop :=
  ∃ e rest, attemptsOf key attempts = e :: rest ∧ e.result = some result

/-- What the phase of the owner says of the running requests. -/
def Fits (inbox : Requests) (attempts : List Attempt) : Option Phase → Prop
  | none => ∀ key key', Running inbox key → Running inbox key' → key = key'
  | some .idle => ∀ key key', Running inbox key → Running inbox key' → key = key'
  | some .ready => ∀ key, ¬ Running inbox key
  | some (.refreshing key) => Running inbox key ∧ ∀ key', Running inbox key' → key' = key
  | some (.settling key result) => (∀ key', Running inbox key' → key' = key) ∧
    LastResult attempts key result ∧ ∃ row, inbox.lookup key = some row

/-- One request at most is running. -/
theorem Fits.serial {inbox : Requests} {attempts : List Attempt} {owner : Option Phase}
    (h : Fits inbox attempts owner) {key key' : RefreshKey} (hkey : Running inbox key)
    (hkey' : Running inbox key') : key = key' := by
  cases owner with
  | none => exact h key key' hkey hkey'
  | some phase =>
    cases phase with
    | idle => exact h key key' hkey hkey'
    | ready => exact absurd hkey (h key)
    | refreshing taken => exact (h.2 key hkey).trans (h.2 key' hkey').symm
    | settling taken result => exact (h.1 key hkey).trans (h.1 key' hkey').symm

/-- What holds after every run. -/
structure Law (s : WorkerState) : Prop where
  /-- a request is stored once -/
  nodup : (s.inbox.map Prod.fst).Nodup
  /-- accepted accounts are valid -/
  valid : ∀ key row, s.inbox.lookup key = some row → validAccount key.account = true
  /-- a request has its receipt from its completion on -/
  receipts : ∀ key, validAccount key.account = true →
    s.receipts.lookup (receiptKey key) = (s.inbox.lookup key).bind RefreshRow.announced
  /-- a completed request has the result of its last attempt -/
  completed : ∀ key row, s.inbox.lookup key = some row → row.state = .completed →
    ∃ result, row.result = some result ∧ result.success = true ∧ LastResult s.attempts key result
  /-- the attempts -/
  sound : ∀ e ∈ s.attempts, e.Sound
  /-- the owner -/
  fits : Fits s.inbox s.attempts s.owner

variable {s s' : WorkerState} {a : Act}

theorem law_start (books : (account : String) → Book account) : Law (.start books) where
  nodup := List.nodup_nil
  valid _ _ h := by cases h
  receipts _ _ := rfl
  completed _ _ h := by cases h
  sound _ h := by cases h
  fits _ _ h := by
    obtain ⟨_, h, -⟩ := h
    cases h

/-- Another owner, and other holdings. -/
theorem Law.withOwner (hs : Law s) {owner : Option Phase} (hfits : Fits s.inbox s.attempts owner)
    (books : (account : String) → Book account) :
    Law { s with owner := owner, books := books } where
  nodup := hs.nodup
  valid := hs.valid
  receipts := hs.receipts
  completed := hs.completed
  sound := hs.sound
  fits := hfits

theorem Law.accept (hs : Law s) {key : RefreshKey} {now : Int}
    (hvalid : validAccount key.account = true) :
    Law { s with inbox := acceptFutuRefresh key now s.inbox } where
  nodup := by
    unfold acceptFutuRefresh
    cases hrow : s.inbox.lookup key with
    | some row => exact hs.nodup
    | none => exact Items.nodup_append_singleton hs.nodup hrow _
  valid k row hrow := by
    have hrow : (acceptFutuRefresh key now s.inbox).lookup k = some row := hrow
    rw [lookup_accept] at hrow
    split at hrow
    · next hk => exact hk ▸ hvalid
    · exact hs.valid k row hrow
  receipts k hk := by
    show s.receipts.lookup (receiptKey k) =
      ((acceptFutuRefresh key now s.inbox).lookup k).bind RefreshRow.announced
    rw [lookup_accept, hs.receipts k hk]
    split
    · next hkey =>
      rw [hkey]
      cases s.inbox.lookup key <;> rfl
    · rfl
  completed k row hrow hcompleted := by
    have hrow : (acceptFutuRefresh key now s.inbox).lookup k = some row := hrow
    rw [lookup_accept] at hrow
    split at hrow
    · next hkey =>
      cases hold : s.inbox.lookup key with
      | none =>
        rw [hold] at hrow
        cases hrow
        cases hcompleted
      | some old =>
        rw [hold] at hrow
        cases hrow
        exact hs.completed k old (hkey ▸ hold) hcompleted
    · exact hs.completed k row hrow hcompleted
  sound := hs.sound
  fits := by
    have hsame : ∀ k, Running (acceptFutuRefresh key now s.inbox) k ↔ Running s.inbox k := by
      intro k
      unfold Running
      rw [lookup_accept]
      by_cases hk : k = key
      · subst hk
        rw [if_pos rfl]
        cases s.inbox.lookup k with
        | none =>
          constructor
          · rintro ⟨row, hrow, hrunning⟩
            cases hrow
            cases hrunning
          · rintro ⟨row, hrow, -⟩
            cases hrow
        | some row => rfl
      · rw [if_neg hk]
    have hfits := hs.fits
    show Fits (acceptFutuRefresh key now s.inbox) s.attempts s.owner
    cases howner : s.owner with
    | none =>
      rw [howner] at hfits
      intro k k' hk hk'
      exact hfits k k' ((hsame k).mp hk) ((hsame k').mp hk')
    | some phase =>
      rw [howner] at hfits
      cases phase with
      | idle => exact fun k k' hk hk' => hfits k k' ((hsame k).mp hk) ((hsame k').mp hk')
      | ready => exact fun k hk => hfits k ((hsame k).mp hk)
      | refreshing taken =>
        exact ⟨(hsame taken).mpr hfits.1, fun k hk => hfits.2 k ((hsame k).mp hk)⟩
      | settling taken result =>
        obtain ⟨hrunning, hlast, row, hrow⟩ := hfits
        refine ⟨fun k hk => hrunning k ((hsame k).mp hk), hlast, ?_⟩
        rw [lookup_accept]
        split
        · exact ⟨_, rfl⟩
        · exact ⟨row, hrow⟩

/-! ### The steps of the owner -/

/-- Rows that are not completed may change, as long as none of them is completed by it. -/
theorem Law.rows (hs : Law s) {inbox : Requests} (g : RefreshKey → RefreshRow → RefreshRow)
    (hkeys : inbox.map Prod.fst = s.inbox.map Prod.fst)
    (hlookup : ∀ key, inbox.lookup key = (s.inbox.lookup key).map (g key))
    (hkept : ∀ key row, g key row = row ∨ row.state ≠ .completed ∧ (g key row).state ≠ .completed)
    {owner : Option Phase} (hfits : Fits inbox s.attempts owner) :
    Law { s with inbox := inbox, owner := owner } where
  nodup := by
    rw [hkeys]
    exact hs.nodup
  valid key row hrow := by
    have hrow : inbox.lookup key = some row := hrow
    rw [hlookup] at hrow
    obtain ⟨old, hold, -⟩ := Option.map_eq_some_iff.mp hrow
    exact hs.valid key old hold
  receipts key hkey := by
    show s.receipts.lookup (receiptKey key) = (inbox.lookup key).bind RefreshRow.announced
    rw [hlookup, hs.receipts key hkey]
    cases s.inbox.lookup key with
    | none => rfl
    | some row =>
      rw [Option.map_some, Option.bind_some, Option.bind_some]
      rcases hkept key row with hsame | ⟨hold, hnew⟩
      · rw [hsame]
      · unfold RefreshRow.announced
        rw [if_neg hold, if_neg hnew]
  completed key row hrow hcompleted := by
    have hrow : inbox.lookup key = some row := hrow
    rw [hlookup] at hrow
    obtain ⟨old, hold, rfl⟩ := Option.map_eq_some_iff.mp hrow
    rcases hkept key old with hsame | ⟨-, hnew⟩
    · rw [hsame] at hcompleted ⊢
      exact hs.completed key old hold hcompleted
    · exact absurd hcompleted hnew
  sound := hs.sound
  fits := hfits

theorem lookup_recover (now : Int) (inbox : Requests) (key : RefreshKey) :
    (recoverFutuRefreshes now inbox).lookup key = (inbox.lookup key).map fun row =>
      if row.state = .running then
        { row with state := .pending, nextAttemptAt := now, updatedAt := now }
      else row := by
  unfold recoverFutuRefreshes
  rw [Items.lookup_updateWhere]
  simp only [decide_eq_true_eq]

theorem Law.recover (hs : Law s) (now : Int) :
    Law { s with inbox := recoverFutuRefreshes now s.inbox, owner := some .ready } := by
  refine hs.rows _ (Items.keys_updateWhere ..) (fun key => lookup_recover now s.inbox key)
    (fun key row => ?_) ?_
  · split
    · next hrunning => exact .inr ⟨by rw [hrunning]; simp, by simp⟩
    · exact .inl rfl
  · rintro key ⟨row, hrow, hrunning⟩
    have hrow : (recoverFutuRefreshes now s.inbox).lookup key = some row := hrow
    rw [lookup_recover] at hrow
    obtain ⟨old, hold, rfl⟩ := Option.map_eq_some_iff.mp hrow
    split at hrunning
    · cases hrunning
    · next hnot => exact hnot hrunning

theorem lookup_taken (taken key : RefreshKey) (now : Int) (inbox : Requests) :
    (takeRequest taken now inbox).lookup key =
      (inbox.lookup key).map fun row => if key = taken ∧ row.state = .pending then
        { row with state := .running, attemptCount := row.attemptCount + 1, updatedAt := now }
      else row := by
  unfold takeRequest
  rw [Items.lookup_updateWhere]
  simp only [Bool.and_eq_true, decide_eq_true_eq]

/-- A claim in the ready phase takes a pending request, and no other is running. -/
theorem Law.claim (hs : Law s) (howner : s.owner = some .ready) (now : Int) :
    Law { s with
      inbox := (claimFutuRefresh now s.inbox).1
      owner := some ((claimFutuRefresh now s.inbox).2.elim .idle .refreshing) } := by
  have hready : ∀ key, ¬ Running s.inbox key := by
    have hfits := hs.fits
    rw [howner] at hfits
    exact hfits
  cases hclaim : claimFutuRefresh now s.inbox with
  | mk inbox found =>
    cases found with
    | none =>
      obtain ⟨rfl, -⟩ := claim_none hclaim
      have hfits : Fits s.inbox s.attempts (some .idle) := fun key _ hkey _ => absurd hkey (hready key)
      exact hs.withOwner hfits s.books
    | some taken =>
      obtain ⟨row, hmem, hdue, -, rfl⟩ := claim_some hclaim
      have hrow := (Items.mem_iff_lookup hs.nodup).mp hmem
      have hpending : row.state = .pending := by
        unfold RefreshRow.due at hdue
        exact of_decide_eq_true ((Bool.and_eq_true _ _).mp hdue).1
      refine hs.rows _ (Items.keys_updateWhere ..) (fun key => lookup_taken taken key now s.inbox)
        (fun key row => ?_) ⟨?_, ?_⟩
      · split
        · next htaken => exact .inr ⟨by rw [htaken.2]; simp, by simp⟩
        · exact .inl rfl
      · refine ⟨_, (lookup_taken taken taken now s.inbox).trans (by rw [hrow]; rfl), ?_⟩
        simp only
        rw [if_pos ⟨trivial, hpending⟩]
      · rintro key ⟨found, hfound, hrunning⟩
        have hfound : (takeRequest taken now s.inbox).lookup key = some found := hfound
        rw [lookup_taken] at hfound
        obtain ⟨old, hold, rfl⟩ := Option.map_eq_some_iff.mp hfound
        split at hrunning
        · next htaken => exact htaken.1
        · exact absurd ⟨old, hold, hrunning⟩ (hready key)

/-- An attempt for the request that is running. -/
theorem Law.attempted (hs : Law s) {key : RefreshKey} (howner : s.owner = some (.refreshing key))
    (book : Book key.account) (result : Option SyncResult)
    (hsound : Attempt.Sound ⟨key, (s.books key.account).1, book.1, result⟩) :
    Law (s.attempted key book result) := by
  have hfits := hs.fits
  rw [howner] at hfits
  obtain ⟨⟨running, hrunning, hstate⟩, honly⟩ := hfits
  refine ⟨hs.nodup, hs.valid, hs.receipts, fun k row hrow hcompleted => ?_, fun e he => ?_, ?_⟩
  · obtain ⟨r, hr, hsuccess, e, rest, hlast, hresult⟩ := hs.completed k row hrow hcompleted
    have hne : key ≠ k := by
      rintro rfl
      have hrow : s.inbox.lookup key = some row := hrow
      rw [hrunning] at hrow
      cases hrow
      rw [hstate] at hcompleted
      cases hcompleted
    exact ⟨r, hr, hsuccess, e, rest, (attemptsOf_ne hne _).trans hlast, hresult⟩
  · rcases List.mem_cons.mp he with rfl | he
    · exact hsound
    · exact hs.sound e he
  · cases result with
    | none => exact fun k k' hk hk' => (honly k hk).trans (honly k' hk').symm
    | some r => exact ⟨honly, ⟨_, _, attemptsOf_self rfl _, rfl⟩, running, hrunning⟩

/-! ### Settlements -/

theorem lookup_settled (settled key : RefreshKey) (result : SyncResult) (now : Int)
    (inbox : Requests) :
    (settleRequest settled result now inbox).lookup key =
      (inbox.lookup key).map fun row =>
        if key = settled ∧ row.state = .running then row.settle result now else row := by
  unfold settleRequest
  rw [Items.lookup_updateWhere]
  simp only [Bool.and_eq_true, decide_eq_true_eq]

/-- What a settlement of a running request announces. -/
def announcement (result : SyncResult) : Option QuantityPayload :=
  if result.success then quantityChangePayload result else none

theorem settle_announced (result : SyncResult) (now : Int) (row : RefreshRow) :
    (row.settle result now).announced = announcement result := by
  unfold RefreshRow.announced RefreshRow.settle announcement
  cases result.success with
  | true => rfl
  | false => rfl

/-- A settlement that does not raise leaves a completed request as it is, or settles a running one and
inserts its receipt. -/
theorem settle_ok {key : RefreshKey} {result : SyncResult} {now : Int} {inbox inbox' : Requests}
    {receipts receipts' : QuantityReceipts}
    (h : settleFutuRefresh key result now inbox receipts = .ok (inbox', receipts')) :
    ∃ row, inbox.lookup key = some row ∧
      ((row.state = .completed ∧ row.result = some result ∧ inbox' = inbox ∧ receipts' = receipts) ∨
        row.state = .running ∧
          inbox' = settleRequest key result now inbox ∧
          (announcement result = none ∧ receipts' = receipts ∨
            ∃ payload, announcement result = some payload ∧
              insertQuantityReceipt key payload receipts = .ok receipts')) := by
  unfold settleFutuRefresh at h
  split at h
  · cases h
  · next row hrow =>
    refine ⟨row, hrow, ?_⟩
    split at h
    · next hcompleted =>
      split at h
      · next hsame =>
        cases h
        exact .inl ⟨hcompleted, hsame, rfl, rfl⟩
      · cases h
    · cases h
    · next hrunning =>
      refine .inr ⟨hrunning, ?_⟩
      split at h
      · next hnone =>
        cases h
        exact ⟨rfl, .inl ⟨hnone, rfl⟩⟩
      · next payload hpayload =>
        split at h
        · next receipts₁ hinsert =>
          cases h
          exact ⟨rfl, .inr ⟨payload, hpayload, hinsert⟩⟩
        · cases h

/-- A payload of a result is for its account. -/
theorem account_of_announcement {result : SyncResult} {payload : QuantityPayload}
    (h : announcement result = some payload) : payload.account = result.account := by
  unfold announcement quantityChangePayload at h
  split at h
  · split at h
    · cases h
    · split at h
      · cases h
      · cases h
        rfl
  · cases h

/-- The receipts of a running request's settlement: its own, which was not there, and the others. -/
theorem settled_receipts (hs : Law s) {key : RefreshKey} {row : RefreshRow}
    (hrow : s.inbox.lookup key = some row) (hrunning : row.state = .running)
    {payload : QuantityPayload} {receipts : QuantityReceipts}
    (h : insertQuantityReceipt key payload s.receipts = .ok receipts) :
    receipts = s.receipts ++ [(receiptKey key, payload)] := by
  have hnone : s.receipts.lookup (receiptKey key) = none := by
    rw [hs.receipts key (hs.valid key row hrow), hrow]
    unfold RefreshRow.announced
    rw [Option.bind_some, hrunning]
    rfl
  unfold insertQuantityReceipt at h
  rw [hnone] at h
  split at h
  · cases h
  · cases h
    rfl

theorem Law.settle (hs : Law s) {key : RefreshKey} {result : SyncResult}
    (howner : s.owner = some (.settling key result)) {now : Int} {inbox : Requests}
    {receipts : QuantityReceipts}
    (h : settleFutuRefresh key result now s.inbox s.receipts = .ok (inbox, receipts))
    (acknowledged : Bool) :
    Law { s with
      inbox := inbox
      receipts := receipts
      owner := some (if acknowledged then .idle else .settling key result) } := by
  have hfits := hs.fits
  rw [howner] at hfits
  obtain ⟨honly, hlast, -⟩ := hfits
  have howner' : ∀ inbox', (∀ k, Running inbox' k → k = key) →
      (∃ row, inbox'.lookup key = some row) →
        Fits inbox' s.attempts (some (if acknowledged then .idle else .settling key result)) := by
    intro inbox' hrunning hrow
    cases acknowledged with
    | true => exact fun k k' hk hk' => (hrunning k hk).trans (hrunning k' hk').symm
    | false => exact ⟨hrunning, hlast, hrow⟩
  obtain ⟨row, hrow, ⟨hcompleted, hsame, rfl, rfl⟩ | ⟨hrunning, rfl, hreceipts⟩⟩ := settle_ok h
  · exact hs.withOwner (howner' s.inbox honly ⟨row, hrow⟩) s.books
  · have hsettled : (settleRequest key result now s.inbox).lookup key =
        some (row.settle result now) := by
      rw [lookup_settled, hrow, Option.map_some, if_pos ⟨rfl, hrunning⟩]
    refine ⟨?_, fun k row' hrow' => ?_, fun k hk => ?_, fun k row' hrow' hcompleted => ?_, hs.sound,
      howner' _ (fun k hk => ?_) ⟨_, hsettled⟩⟩
    · show ((settleRequest key result now s.inbox).map Prod.fst).Nodup
      unfold settleRequest
      rw [Items.keys_updateWhere]
      exact hs.nodup
    · have hrow' : (settleRequest key result now s.inbox).lookup k = some row' := hrow'
      rw [lookup_settled] at hrow'
      obtain ⟨old, hold, -⟩ := Option.map_eq_some_iff.mp hrow'
      exact hs.valid k old hold
    · show receipts.lookup (receiptKey k) =
        ((settleRequest key result now s.inbox).lookup k).bind RefreshRow.announced
      have hvalid := hs.valid key row hrow
      by_cases hkey : k = key
      · subst hkey
        rw [hsettled, Option.bind_some, settle_announced]
        rcases hreceipts with ⟨hnone, rfl⟩ | ⟨payload, hpayload, hinsert⟩
        · rw [hnone, hs.receipts k hk, hrow]
          unfold RefreshRow.announced
          rw [Option.bind_some, hrunning]
          rfl
        · rw [settled_receipts hs hrow hrunning hinsert, hpayload]
          rw [Items.lookup_append_singleton _ _ _ ?_, if_pos rfl]
          rw [hs.receipts k hk, hrow]
          unfold RefreshRow.announced
          rw [Option.bind_some, hrunning]
          rfl
      · have hother : receiptKey key ≠ receiptKey k := fun h =>
          hkey (receiptKey_injective hvalid hk h).symm
        have hrows : (settleRequest key result now s.inbox).lookup k = s.inbox.lookup k := by
          rw [lookup_settled]
          cases s.inbox.lookup k with
          | none => rfl
          | some old => rw [Option.map_some, if_neg fun h => hkey h.1]
        rw [hrows, ← hs.receipts k hk]
        rcases hreceipts with ⟨-, rfl⟩ | ⟨payload, -, hinsert⟩
        · rfl
        · rw [settled_receipts hs hrow hrunning hinsert, List.lookup_append, Items.lookup_cons,
            if_neg hother, List.lookup_nil, Option.or_none]
    · have hrow' : (settleRequest key result now s.inbox).lookup k = some row' := hrow'
      rw [lookup_settled] at hrow'
      obtain ⟨old, hold, hnew⟩ := Option.map_eq_some_iff.mp hrow'
      split at hnew
      · next hkey =>
        cases hnew
        have hsuccess : result.success = true := by
          cases hsuccess : result.success with
          | true => rfl
          | false =>
            unfold RefreshRow.settle at hcompleted
            rw [hsuccess] at hcompleted
            cases hcompleted
        exact ⟨result, rfl, hsuccess, hkey.1 ▸ hlast⟩
      · cases hnew
        exact hs.completed k row' hold hcompleted
    · obtain ⟨row', hrow', hrunning'⟩ := hk
      rw [lookup_settled] at hrow'
      obtain ⟨old, hold, hnew⟩ := Option.map_eq_some_iff.mp hrow'
      split at hnew
      · next hkey => exact hkey.1
      · cases hnew
        exact honly k ⟨row', hold, hrunning'⟩

end PortfolioManagement.FutuRefresh
