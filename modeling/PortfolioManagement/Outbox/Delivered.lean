import PortfolioManagement.Outbox.AtMostOnce

/-!
# Receipts are kept until they are sent

A receipt whose send is started stays so until its dispatcher marks the outcome, and a claim
transaction that finds the lease over makes it `unknown`, which only an operator changes
(`undelivered_run`). A claim that is gone never comes back: the mark of its dispatcher fails
(`late_mark`). A receipt that was not sent stays in the table, and the next claim that asks for it
gets it.
-/

namespace PortfolioManagement.Outbox

open OperationState

variable {rt : OutboxRuntime} {s s' : OutboxState} {a : Act}

/-! ## Sends without an outcome -/

/-- A dispatcher marks an outcome. -/
def Act.Marks (claimId : String) : Act → Prop
  | .mark c _ _ => c = claimId
  | _ => False

/-- An operator decides on a receipt. -/
def Act.Resolves (key : String) : Act → Prop
  | .resolve receiptKey .. => receiptKey = key
  | _ => False

/-- A claim transaction that finds a time before its lease. -/
def Act.Expires (t : Option Int) : Act → Prop
  | .claim _ _ _ now => atOrBefore t (now - minutes claimLeaseMinutes) = true
  | _ => False

/-- The send was started under a claim and has no outcome. -/
def OperationReceipt.Undelivered (claimId : String) (startedAt : Option Int) (r : OperationReceipt) :
    Prop :=
  r.status = .unknown ∨
    (r.status = .sending ∧ r.claimId = some claimId ∧ r.sendStartedAt = startedAt)

/-- The starts of a receipt. -/
def startsOf (key : String) (log : List Event) : Nat :=
  log.countP fun e => e.receiptKey = key && e.starts

theorem startsOf_eq (key : String) (log : List Event) :
    startsOf key log = (history key log).countP Event.starts := by
  unfold startsOf history
  rw [List.countP_filter]
  congr 1
  exact funext fun e => Bool.and_comm ..

theorem startsOf_step {key : String} {events : List Event}
    (hlog : history key s'.log = events ++ history key s.log)
    (hevents : ∀ e ∈ events, e.starts = false) : startsOf key s'.log = startsOf key s.log := by
  rw [startsOf_eq, startsOf_eq, hlog, List.countP_append, List.countP_eq_zero.mpr, Nat.zero_add]
  intro e he
  rw [hevents e he]
  exact Bool.false_ne_true

/-- Until its dispatcher marks it or an operator decides, a started receipt waits for its outcome; the
first claim transaction after its lease makes it `unknown`. -/
theorem undelivered_step (h : s.step rt a = some s') {key claimId : String} {startedAt : Option Int}
    {r : OperationReceipt} (hr : s.outbox.lookup key = some r) (hsent : r.Undelivered claimId startedAt)
    (hmark : ¬ a.Marks claimId) (hresolve : ¬ a.Resolves key) :
    startsOf key s'.log = startsOf key s.log ∧
      ∃ r', s'.outbox.lookup key = some r' ∧ r'.Undelivered claimId startedAt ∧
        (r.status = .unknown ∨ a.Expires startedAt → r'.status = .unknown) := by
  obtain ⟨events, hlog, hrow⟩ := rowStep_of_step h key
  rw [hr] at hrow
  generalize hr' : s'.outbox.lookup key = found at hrow
  cases hrow with
  | kept hclaim =>
    refine ⟨startsOf_step hlog (fun e he => by cases he), r, rfl, hsent, ?_⟩
    rintro (hunknown | hexpires)
    · exact hunknown
    · cases a with
      | claim c limit receiptKey now => cases hclaim c limit receiptKey now rfl
      | enqueue | start | send | mark | resolve => cases hexpires
  | @claimed c limit receiptKey now r selected hnew =>
    refine ⟨startsOf_step hlog (fun e he => by cases he), _, rfl, ?_⟩
    rcases hsent with hunknown | ⟨hsending, hclaim, hstarted⟩
    · have hsame : r.expire now = r := by
        rcases expire_cases r now with hsame | ⟨hclaimed, -⟩ | ⟨hsending, -⟩
        · exact hsame
        · rw [hunknown] at hclaimed
          cases hclaimed
        · rw [hunknown] at hsending
          cases hsending
      have hdue : r.due now = false := by
        unfold OperationReceipt.due
        rw [hunknown]
        rfl
      rw [hsame, hdue, Bool.and_false, if_neg Bool.false_ne_true]
      exact ⟨.inl hunknown, fun _ => hunknown⟩
    · have htaken : r.takeBack now = r := by
        unfold OperationReceipt.takeBack
        rw [if_neg (by simp [hsending])]
      by_cases hexpired : atOrBefore startedAt (now - minutes claimLeaseMinutes) = true
      · have hunknown : (r.expire now).status = .unknown := by
          unfold OperationReceipt.expire OperationReceipt.giveUp
          rw [htaken, if_pos ⟨hsending, hstarted ▸ hexpired⟩]
        have hdue : (r.expire now).due now = false := by
          unfold OperationReceipt.due
          rw [hunknown]
          rfl
        rw [hdue, Bool.and_false, if_neg Bool.false_ne_true]
        exact ⟨.inl hunknown, fun _ => hunknown⟩
      · have hsame : r.expire now = r := by
          unfold OperationReceipt.expire OperationReceipt.giveUp
          rw [htaken, if_neg fun hand => hexpired (hstarted ▸ hand.2)]
        have hdue : r.due now = false := by
          unfold OperationReceipt.due
          rw [hsending]
          rfl
        rw [hsame, hdue, Bool.and_false, if_neg Bool.false_ne_true]
        refine ⟨.inr ⟨hsending, hclaim, hstarted⟩, ?_⟩
        rintro (hunknown | hexpires)
        · exact hunknown
        · exact absurd hexpires hexpired
  | started hstatus hclaim =>
    rcases hsent with hunknown | ⟨hsending, -⟩
    · rw [hunknown] at hstatus
      cases hstatus
    · rw [hsending] at hstatus
      cases hstatus
  | @called c result r =>
    have hnone : ∀ e ∈ [Event.called key c], e.starts = false := fun e he => by
      rw [List.mem_singleton.mp he]
      rfl
    refine ⟨startsOf_step hlog hnone, r, rfl, hsent, ?_⟩
    rintro (hunknown | hexpires)
    · exact hunknown
    · cases hexpires
  | marked hstatus hclaim =>
    rcases hsent with hunknown | ⟨-, hheld, -⟩
    · rw [hunknown] at hstatus
      cases hstatus
    · rw [hheld] at hclaim
      exact absurd (Option.some.inj hclaim).symm hmark
  | resolved hstatus => exact absurd rfl hresolve

/-- Over a run a started receipt waits for its outcome, is not started again, and is `unknown` once a
claim transaction has found its lease over. -/
theorem undelivered_run {acts : List Act} (hrun : Machine.run (OutboxState.step rt) acts s = some s')
    {key claimId : String} {startedAt : Option Int} {r : OperationReceipt}
    (hr : s.outbox.lookup key = some r) (hsent : r.Undelivered claimId startedAt)
    (hacts : ∀ a ∈ acts, ¬ a.Marks claimId ∧ ¬ a.Resolves key) :
    startsOf key s'.log = startsOf key s.log ∧
      ∃ r', s'.outbox.lookup key = some r' ∧ r'.Undelivered claimId startedAt ∧
        ((r.status = .unknown ∨ ∃ a ∈ acts, a.Expires startedAt) → r'.status = .unknown) := by
  induction acts generalizing s r with
  | nil =>
    cases hrun
    refine ⟨rfl, r, hr, hsent, ?_⟩
    rintro (hunknown | ⟨a, ha, -⟩)
    · exact hunknown
    · cases ha
  | cons a acts ih =>
    obtain ⟨s₁, hstep, hrest⟩ := Machine.run_cons.mp hrun
    obtain ⟨hnot, hacts⟩ := List.forall_mem_cons.mp hacts
    obtain ⟨hstarts, r₁, hr₁, hsent₁, hunknown₁⟩ := undelivered_step hstep hr hsent hnot.1 hnot.2
    obtain ⟨hstarts', r', hr', hsent', hunknown'⟩ := ih hrest hr₁ hsent₁ hacts
    refine ⟨hstarts'.trans hstarts, r', hr', hsent', ?_⟩
    rintro (hunknown | ⟨b, hb, hexpires⟩)
    · exact hunknown' (.inl (hunknown₁ (.inl hunknown)))
    · rcases List.mem_cons.mp hb with rfl | hb
      · exact hunknown' (.inl (hunknown₁ (.inr hexpires)))
      · exact hunknown' (.inr ⟨b, hb, hexpires⟩)

/-! ## Claims that are gone -/

/-- A dispatcher claimed, and a receipt is not held under its claim. -/
structure Gone (key claimId : String) (s : OutboxState) : Prop where
  /-- the claim id is used -/
  used : (s.dispatchers claimId).isSome = true
  /-- the receipt is not held under it -/
  free : ∀ r, s.outbox.lookup key = some r → r.claimId ≠ some claimId

theorem Gone.step {key claimId : String} (hgone : Gone key claimId s) (h : s.step rt a = some s') :
    Gone key claimId s' := by
  refine ⟨dispatcher_stays h hgone.used, ?_⟩
  obtain ⟨events, -, hrow⟩ := rowStep_of_step h key
  have hfree := hgone.free
  generalize s.outbox.lookup key = old at hrow hfree
  generalize s'.outbox.lookup key = new at hrow
  cases hrow with
  | kept | called => exact hfree
  | inserted =>
    intro r hr
    cases hr
    exact (Option.some_ne_none _).symm
  | @claimed c limit receiptKey now r selected hnew =>
    intro r' hr'
    cases hr'
    have hexpired : (r.expire now).claimId ≠ some claimId := by
      rcases expire_cases r now with hsame | ⟨-, -, hnone⟩ | ⟨-, -, hnone⟩
      · rw [hsame]
        exact hfree r rfl
      · rw [hnone]
        exact (Option.some_ne_none _).symm
      · rw [hnone]
        exact (Option.some_ne_none _).symm
    split
    · -- the claim id of the transaction is new
      intro heq
      cases heq
      have hused := hgone.used
      rw [hnew] at hused
      cases hused
    · exact hexpired
  | @started c now r hstatus hclaim =>
    intro r' hr'
    cases hr'
    exact hfree r rfl
  | marked hstatus hclaim =>
    intro r' hr'
    cases hr'
    exact (Option.some_ne_none _).symm
  | @resolved decision text now r hstatus =>
    intro r' hr'
    cases hr'
    exact hfree r rfl

/-- A dispatcher whose claim on the receipt it is at is gone marks nothing and starts nothing. -/
theorem Gone.idle {key claimId : String} (hgone : Gone key claimId s) {d : Dispatcher}
    (hd : s.dispatchers claimId = some d) (hcurrent : d.current = some key)
    (ha : (∃ raced now, a = .mark claimId raced now) ∨ ∃ now, a = .start claimId now)
    (h : s.step rt a = some s') : s'.outbox = s.outbox ∧ s'.log = s.log := by
  have herror : ∀ status error f, updateHeld key claimId status error f s.outbox = .error error :=
    fun status error f => updateHeld_error hgone.free
  rcases ha with ⟨raced, now, rfl⟩ | ⟨now, rfl⟩
  · unfold OutboxState.step OutboxState.mark at h
    simp only at h
    split at h
    · next receiptKey row rest delivery hdispatcher =>
      cases hd.symm.trans hdispatcher
      cases hcurrent
      have hmark : markOperationReceipt receiptKey claimId (delivery.outcome rt.lower)
          delivery.messageId delivery.error now s.outbox = .error _ := herror ..
      rw [hmark] at h
      cases h
      exact ⟨rfl, rfl⟩
    · cases h
  · unfold OutboxState.step OutboxState.start at h
    simp only at h
    split at h
    · next receiptKey row rest hdispatcher =>
      cases hd.symm.trans hdispatcher
      cases hcurrent
      have hstart : startOperationReceiptSend receiptKey claimId now s.outbox = .error _ := herror ..
      rw [hstart] at h
      cases h
      exact ⟨rfl, rfl⟩
    · cases h

/-! ## Receipts that are not sent -/

/-- A receipt stays in the table with its type and payload; it can be claimed until its send is
started. -/
theorem kept_step (h : s.step rt a = some s') {key : String} {r : OperationReceipt}
    (hr : s.outbox.lookup key = some r) :
    startsOf key s.log ≤ startsOf key s'.log ∧ ∃ r', s'.outbox.lookup key = some r' ∧
      r'.receiptType = r.receiptType ∧ r'.payloadJson = r.payloadJson ∧
        (r.Unsent → startsOf key s'.log = startsOf key s.log → r'.Unsent) := by
  obtain ⟨events, hlog, hrow⟩ := rowStep_of_step h key
  rw [hr] at hrow
  have hle : startsOf key s.log ≤ startsOf key s'.log := by
    rw [startsOf_eq, startsOf_eq, hlog, List.countP_append]
    exact Nat.le_add_left ..
  refine ⟨hle, ?_⟩
  generalize s'.outbox.lookup key = found at hrow
  cases hrow with
  | kept | called => exact ⟨r, rfl, rfl, rfl, fun hunsent _ => hunsent⟩
  | @claimed c limit receiptKey now r selected hnew =>
    refine ⟨_, rfl, ?_⟩
    obtain ⟨htype, hpayload⟩ := expire_same r now
    split
    · exact ⟨htype, hpayload, fun _ _ => .inr (.inr rfl)⟩
    · refine ⟨htype, hpayload, fun hunsent _ => ?_⟩
      rcases expire_cases r now with hsame | ⟨-, hfailed, -⟩ | ⟨hsending, -⟩
      · rwa [hsame]
      · exact .inr (.inl hfailed)
      · rcases hunsent with hstatus | hstatus | hstatus <;> rw [hsending] at hstatus <;> cases hstatus
  | started hstatus hclaim =>
    refine ⟨_, rfl, rfl, rfl, fun _ hsame => ?_⟩
    rw [startsOf_eq, startsOf_eq, hlog, List.countP_append] at hsame
    simp [Event.starts] at hsame
  | marked hstatus hclaim =>
    refine ⟨_, rfl, rfl, rfl, fun hunsent _ => ?_⟩
    rcases hunsent with hother | hother | hother <;> rw [hstatus] at hother <;> cases hother
  | resolved hstatus =>
    refine ⟨_, rfl, rfl, rfl, fun hunsent _ => ?_⟩
    rcases hunsent with hother | hother | hother <;> rw [hstatus] at hother <;> cases hother

theorem kept_run {acts : List Act} (hrun : Machine.run (OutboxState.step rt) acts s = some s')
    {key : String} {r : OperationReceipt} (hr : s.outbox.lookup key = some r) :
    startsOf key s.log ≤ startsOf key s'.log ∧ ∃ r', s'.outbox.lookup key = some r' ∧
      r'.receiptType = r.receiptType ∧ r'.payloadJson = r.payloadJson ∧
        (r.Unsent → startsOf key s'.log = startsOf key s.log → r'.Unsent) := by
  induction acts generalizing s r with
  | nil =>
    cases hrun
    exact ⟨le_refl _, r, hr, rfl, rfl, fun hunsent _ => hunsent⟩
  | cons a acts ih =>
    obtain ⟨s₁, hstep, hrest⟩ := Machine.run_cons.mp hrun
    obtain ⟨hle, r₁, hr₁, htype, hpayload, hunsent⟩ := kept_step hstep hr
    obtain ⟨hle', r', hr', htype', hpayload', hunsent'⟩ := ih hrest hr₁
    refine ⟨hle.trans hle', r', hr', htype'.trans htype, hpayload'.trans hpayload, ?_⟩
    intro hready hsame
    exact hunsent' (hunsent hready (by omega)) (by omega)

/-- A claim for a due receipt, or for one whose claim is older than the lease, gets it. -/
theorem claim_gets {rows : Receipts} (hnodup : (rows.map Prod.fst).Nodup) {key : String}
    (hkey : key ≠ "") {r : OperationReceipt} (hr : rows.lookup key = some r) {limit now : Int}
    (hlimit : limit ≠ 0) (hdue : (r.expire now).due now = true) (claimId : String) :
    (claimDueOperationReceipts limit (some key) claimId now rows).1.lookup key =
        some ((r.expire now).claim claimId now) ∧
      (claimDueOperationReceipts limit (some key) claimId now rows).2 =
        [(key, (r.expire now).claim claimId now)] := by
  have hfilter : ((Items.updateWhere (fun _ _ => true) (OperationReceipt.expire now) rows).filter
      fun row => row.2.due now && ((some key).isNone || some key = some row.1)) =
        [(key, r.expire now)] := by
    have hexpired : (Items.updateWhere (fun _ _ => true) (OperationReceipt.expire now) rows).lookup
        key = some (r.expire now) := by
      rw [Items.lookup_updateWhere, hr]
      rfl
    generalize hrows : Items.updateWhere (fun _ _ => true) (OperationReceipt.expire now) rows = expired
    have hnodup : (expired.map Prod.fst).Nodup := by
      rw [← hrows, Items.keys_updateWhere]
      exact hnodup
    rw [hrows] at hexpired
    have hown := filter_key_of_nodup hnodup ((Items.mem_iff_lookup hnodup).mpr hexpired)
    have hsame : (expired.filter fun row => row.2.due now &&
        ((some key).isNone || some key = some row.1)) =
          (expired.filter fun row => Prod.fst row = key).filter fun row => row.2.due now := by
      rw [List.filter_filter]
      refine List.filter_congr fun row _ => ?_
      simp [eq_comm]
    rw [hsame]
    show (expired.filter fun row => Prod.fst row = Prod.fst (key, r.expire now)).filter _ = _
    rw [hown, List.filter_singleton, hdue]
    rfl
  have hselected : dueReceipts now limit (some key)
      (Items.updateWhere (fun _ _ => true) (OperationReceipt.expire now) rows) =
        [(key, r.expire now)] := by
    unfold dueReceipts
    rw [hfilter]
    show limited limit [(key, r.expire now)] = _
    unfold limited
    split
    · rfl
    · rw [List.take_of_length_le]
      simp only [List.length_singleton]
      omega
  have hasked : (some key).filter (fun k => decide (k ≠ "")) = some key := by
    rw [Option.filter_some, if_pos (decide_eq_true hkey)]
  unfold claimDueOperationReceipts
  simp only [hasked, hselected]
  refine ⟨?_, rfl⟩
  rw [Items.lookup_updateWhere, Items.lookup_updateWhere, hr]
  simp [hdue]

/-! ## Runs from the empty table -/

/-- In every run, with `s` a state it reaches and `s'` a later one: a send is started once at most
between two authorisations, and its renderer is called once at most for each start; a send without an
outcome waits for it, is `unknown` once a claim transaction has found its lease over, and is not
started again while no operator decides; a claim that is gone marks and starts nothing; and a receipt
stays as it is until its send is started, and a due claim gets it. -/
theorem receipts_start_once_per_authorisation (rt : OutboxRuntime) {acts acts' : List Act}
    (hrun : Machine.run (OutboxState.step rt) acts .empty = some s)
    (hrun' : Machine.run (OutboxState.step rt) acts' s = some s') :
    (∀ key newer window older, s.log = newer ++ window ++ older →
        (∀ e ∈ window, e.receiptKey = key → e.authorises = false) → startsOf key window ≤ 1) ∧
      (∀ key claimId, s.log.count (.called key claimId) ≤ s.log.count (.started key claimId) ∧
        s.log.count (.started key claimId) ≤ 1) ∧
      (∀ key claimId startedAt r, s.outbox.lookup key = some r → r.Undelivered claimId startedAt →
        (∀ a ∈ acts', ¬ a.Marks claimId ∧ ¬ a.Resolves key) →
        startsOf key s'.log = startsOf key s.log ∧
          ∃ r', s'.outbox.lookup key = some r' ∧ r'.Undelivered claimId startedAt ∧
            ((r.status = .unknown ∨ ∃ a ∈ acts', a.Expires startedAt) → r'.status = .unknown)) ∧
      (∀ key claimId, Gone key claimId s → ∀ d, s'.dispatchers claimId = some d →
        d.current = some key → ∀ a s'',
          ((∃ raced now, a = .mark claimId raced now) ∨ ∃ now, a = .start claimId now) →
          s'.step rt a = some s'' → s''.outbox = s'.outbox ∧ s''.log = s'.log) ∧
      (∀ key r, s.outbox.lookup key = some r → ∃ r', s'.outbox.lookup key = some r' ∧
        r'.receiptType = r.receiptType ∧ r'.payloadJson = r.payloadJson ∧
          (r.Unsent → startsOf key s'.log = startsOf key s.log → r'.Unsent)) ∧
      ∀ key r, key ≠ "" → s.outbox.lookup key = some r → ∀ limit now, limit ≠ 0 →
        (r.expire now).due now = true → ∀ claimId,
          (claimDueOperationReceipts limit (some key) claimId now s.outbox).1.lookup key =
              some ((r.expire now).claim claimId now) ∧
            (claimDueOperationReceipts limit (some key) claimId now s.outbox).2 =
              [(key, (r.expire now).claim claimId now)] := by
  have hstarts : StartsAuthorised s :=
    Machine.run_invariant (fun _ _ _ hs h => hs.step h) hrun startsAuthorised_empty
  have hcalls : CallsOnce s :=
    Machine.run_invariant (fun _ _ _ hs h => hs.step h) hrun callsOnce_empty
  refine ⟨fun key newer window older hlog hnone => hstarts.window hlog hnone, hcalls.once,
    fun key claimId startedAt r hr hsent hacts => undelivered_run hrun' hr hsent hacts,
    fun key claimId hgone d hd hcurrent a s'' ha h => ?_,
    fun key r hr => (kept_run hrun' hr).2,
    fun key r hkey hr limit now hlimit hdue claimId => claim_gets hcalls.nodup hkey hr hlimit hdue claimId⟩
  have hgone' : Gone key claimId s' :=
    Machine.run_invariant (fun _ _ _ hs h => hs.step h) hrun' hgone
  exact hgone'.idle hd hcurrent ha h

/-- Every type has a renderer. -/
def outboxRuntime : OutboxRuntime := ⟨fun _ => true, id⟩

/-- A receipt that one dispatcher sends. -/
def sentOnce : List Act :=
  [.enqueue "k" "holding_case_closed" "payload" 0, .claim "one" 100 none 0, .start "one" 0,
    .send "one" (.ok ⟨true, some "accepted", none, none⟩), .mark "one" false 0]

/-- A receipt whose dispatcher waits before it calls the renderer while an operator decides to retry
and another dispatcher sends it. -/
def calledLate : List Act :=
  [.enqueue "k" "holding_case_closed" "payload" 0, .claim "one" 100 none 0, .start "one" 0,
    .claim "two" 100 none (minutes 6), .resolve "k" .retry "operator" (minutes 7),
    .claim "three" 100 none (minutes 8), .start "three" (minutes 8),
    .send "three" (.ok ⟨true, some "accepted", none, none⟩),
    .send "one" (.ok ⟨true, some "accepted", none, none⟩)]

/-- The theorem at the run of one dispatcher. -/
theorem receipts_start_once_per_authorisation_sentOnce :
    ∃ s, Machine.run (OutboxState.step outboxRuntime) sentOnce .empty = some s ∧
      s.log = [.called "k" "one", .started "k" "one", .enqueued "k"] ∧
      startsOf "k" [.called "k" "one", .started "k" "one"] ≤ 1 := by
  have hlog : (Machine.run (OutboxState.step outboxRuntime) sentOnce .empty).map OutboxState.log =
      some [.called "k" "one", .started "k" "one", .enqueued "k"] := by
    decide +kernel
  obtain ⟨s, hrun, hs⟩ := Option.map_eq_some_iff.mp hlog
  refine ⟨s, hrun, hs, ?_⟩
  have hstay : Machine.run (OutboxState.step outboxRuntime) [] s = some s := rfl
  refine (receipts_start_once_per_authorisation outboxRuntime hrun hstay).1 "k" []
    [.called "k" "one", .started "k" "one"] [.enqueued "k"] hs fun e he _ => ?_
  rcases List.mem_pair.mp he with rfl | rfl <;> rfl

/-- After the operator's decision the renderer is called twice: by the dispatcher that sends the
receipt again and by the one that was delayed. -/
theorem delayed_call_follows_the_retry :
    (Machine.run (OutboxState.step outboxRuntime) calledLate .empty).map OutboxState.log =
      some [.called "k" "one", .called "k" "three", .started "k" "three", .retried "k",
        .started "k" "one", .enqueued "k"] := by
  decide +kernel

end PortfolioManagement.Outbox
