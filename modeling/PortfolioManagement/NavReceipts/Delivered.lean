import PortfolioManagement.NavReceipts.Dispatch

/-!
# NAV receipts are delivered once

A receipt stays in the table with its payload. It is sent and stays as it is, or it is claimed again
when its next attempt is due and its claim, if any, is older than the lease. A claim that was taken back
never holds the receipt again, and marks nothing (`Gone`).

A receipt that was delivered is sent, or its delivery is still to be marked under the claim that holds
it (`Settled`). This holds as long as a send succeeds only under a claim that holds its row and nobody
takes the row back before the mark (`Act.Timely`). The lease of a batch begins when the batch is
claimed, so the later sends of a batch may come after it.
-/

namespace PortfolioManagement.NavReceipts

open OperationState

variable {s s' : DispatchState} {a : Act}

/-! ## Rows -/

/-- What holds of a row of the table. -/
def NavReceipt.ClaimSet (s : DispatchState) (r : NavReceipt) : Prop :=
  r.status = .sending → ∃ claimId claimedAt, r.claimId = some claimId ∧
    s.dispatchers.lookup claimId ≠ none ∧ r.claimedAt = some claimedAt

/-- What holds of the table after every run. -/
structure TableLaw (s : DispatchState) : Prop where
  /-- the receipts have distinct keys -/
  nodup : (s.receipts.map Prod.fst).Nodup
  /-- a row that is sending has its claim -/
  claims : ∀ key r, s.receipts.lookup key = some r → r.ClaimSet s

theorem tableLaw_empty : TableLaw .empty where
  nodup := List.nodup_nil
  claims _ _ h := by cases h

theorem not_sending_of_due {r : NavReceipt} {now : Int} (h : r.due now = true) : r.status ≠ .sending := by
  intro hsending
  rcases (due_iff.mp h).1 with hstatus | hstatus <;> rw [hsending] at hstatus <;> cases hstatus

/-- A receipt that is sent is neither expired nor claimed. -/
theorem claimed_of_sent {r : NavReceipt} (h : r.status = .sent) (selected : Bool) (claimId : String)
    (now : Int) : (if selected && (r.expire now).due now then (r.expire now).claim claimId now
      else r.expire now) = r := by
  rcases expire_cases r now with ⟨hsame, -⟩ | ⟨hsending, -⟩
  · rw [hsame, if_neg]
    intro hdue
    rcases (due_iff.mp ((Bool.and_eq_true _ _).mp hdue).2).1 with hstatus | hstatus <;>
      rw [h] at hstatus <;> cases hstatus
  · rw [h] at hsending
    cases hsending

/-- A row whose lease is not over keeps its claim. -/
theorem claimed_of_sending {r : NavReceipt} (h : r.status = .sending) {now : Int}
    (hlease : ¬ atOrBefore r.claimedAt (now - minutes claimLeaseMinutes) = true) (selected : Bool)
    (claimId : String) : (if selected && (r.expire now).due now then (r.expire now).claim claimId now
      else r.expire now) = r := by
  have hsame : r.expire now = r := by
    unfold NavReceipt.expire
    rw [if_neg fun hover => hlease hover.2]
  rw [hsame, if_neg]
  intro hdue
  exact not_sending_of_due ((Bool.and_eq_true _ _).mp hdue).2 h

/-- The keys of the table stay, or a new one is appended. -/
theorem keys_step (h : s.step a = some s') :
    s'.receipts.map Prod.fst = s.receipts.map Prod.fst ∨
      ∃ key, s.receipts.lookup key = none ∧
        s'.receipts.map Prod.fst = s.receipts.map Prod.fst ++ [key] := by
  cases a with
  | enqueue receiptKey payloadJson now =>
    cases h
    show (s.enqueue receiptKey payloadJson now).receipts.map Prod.fst = _ ∨ ∃ key, _ ∧
      (s.enqueue receiptKey payloadJson now).receipts.map Prod.fst = _
    unfold DispatchState.enqueue
    cases hinsert : enqueueNavReceipt receiptKey payloadJson now s.receipts with
    | error e => exact .inl rfl
    | ok result =>
      obtain ⟨inserted, rows⟩ := result
      rcases enqueue_ok hinsert with ⟨rfl, -⟩ | ⟨hnone, rfl, -⟩
      · exact .inl rfl
      · exact .inr ⟨receiptKey, hnone, List.map_append⟩
  | claim c limit receiptKey now =>
    unfold DispatchState.step at h
    simp only at h
    split at h
    · cases h
    · cases h
      refine .inl ?_
      show (claimDueNavReceipts limit receiptKey c now s.receipts).1.map Prod.fst = _
      unfold claimDueNavReceipts
      rw [Items.keys_updateWhere, Items.keys_updateWhere]
  | send c now =>
    unfold DispatchState.step DispatchState.send at h
    simp only at h
    split at h <;> cases h
    exact .inl rfl
  | deliver c result =>
    unfold DispatchState.step DispatchState.deliver at h
    simp only at h
    split at h <;> cases h
    exact .inl rfl
  | mark c raced now =>
    unfold DispatchState.step DispatchState.mark at h
    simp only at h
    split at h
    · split at h
      · next hmark =>
        cases h
        exact .inl (keys_mark hmark)
      · cases h
        exact .inl rfl
    · cases h
  | crash c =>
    unfold DispatchState.step at h
    simp only at h
    split at h <;> cases h
    exact .inl rfl

theorem TableLaw.step (hs : TableLaw s) (h : s.step a = some s') : TableLaw s' where
  nodup := by
    rcases keys_step h with hkeys | ⟨key, hnone, hkeys⟩
    · rw [hkeys]
      exact hs.nodup
    · rw [hkeys]
      refine hs.nodup.append (List.nodup_singleton key) ?_
      rw [List.disjoint_singleton]
      intro hmem
      obtain ⟨row, hrow, rfl⟩ := List.mem_map.mp hmem
      have hfound := (Items.mem_iff_lookup hs.nodup).mp hrow
      rw [hnone] at hfound
      cases hfound
  claims key r' hr' := by
    have hrow := rowStep_of_step h key
    have hbefore := hs.claims key
    have hused : ∀ claimId, s.dispatchers.lookup claimId ≠ none → s'.dispatchers.lookup claimId ≠ none :=
      fun _ => dispatcher_stays h
    have hown : ∀ claimId limit receiptKey now, a = .claim claimId limit receiptKey now →
        s'.dispatchers.lookup claimId ≠ none := by
      rintro claimId limit receiptKey now rfl
      have hstep := claimStep_of_step h claimId
      unfold DispatchState.step at h
      simp only at h
      split at h
      · cases h
      · cases h
        show List.lookup claimId (s.dispatchers.set claimId _) ≠ none
        rw [lookup_set, if_pos rfl]
        exact Option.some_ne_none _
    rw [hr'] at hrow
    generalize s.receipts.lookup key = r at hrow hbefore
    intro hsending
    have hkept : ∀ row, r = some row → row = r' → ∃ claimId claimedAt, r'.claimId = some claimId ∧
        s'.dispatchers.lookup claimId ≠ none ∧ r'.claimedAt = some claimedAt := by
      rintro row hr rfl
      obtain ⟨claimId, claimedAt, hclaim, hdispatcher, hat⟩ := hbefore row hr hsending
      exact ⟨claimId, claimedAt, hclaim, hused claimId hdispatcher, hat⟩
    cases hrow with
    | kept => exact hkept r' rfl rfl
    | inserted => cases hsending
    | @claimed claimId limit receiptKey now row selected hnew =>
      split at hsending
      · next hdue =>
        rw [if_pos hdue]
        exact ⟨claimId, now, rfl, hown claimId limit receiptKey now rfl, rfl⟩
      · next hdue =>
        rcases expire_cases row now with ⟨hsame, -⟩ | ⟨-, hfailed, -⟩
        · refine hkept row rfl ?_
          rw [if_neg hdue, hsame]
        · rw [hfailed] at hsending
          cases hsending
    | @marked claimId raced now startedAt row _ rest d hdispatcher hheld =>
      unfold NavReceipt.marked at hsending
      cases hsuccess : d.success <;> rw [hsuccess] at hsending <;> cases hsending

/-- A row stays with its payload, and as it is once it is sent. -/
theorem stays_step (h : s.step a = some s') {key : String} {r : NavReceipt}
    (hr : s.receipts.lookup key = some r) :
    ∃ r', s'.receipts.lookup key = some r' ∧ r'.payloadJson = r.payloadJson ∧
      (r.status = .sent → r' = r) := by
  have hrow := rowStep_of_step h key
  rw [hr] at hrow
  generalize s'.receipts.lookup key = r' at hrow
  cases hrow with
  | kept => exact ⟨r, rfl, rfl, fun _ => rfl⟩
  | @claimed claimId limit receiptKey now _ selected hnew =>
    refine ⟨_, rfl, ?_, fun hsent => claimed_of_sent hsent selected claimId now⟩
    rcases expire_cases r now with ⟨hsame, -⟩ | ⟨-, -, hpayload, -⟩
    · rw [hsame]
      split <;> rfl
    · split <;> exact hpayload
  | marked hdispatcher hheld =>
    refine ⟨_, rfl, rfl, fun hsent => ?_⟩
    rw [(heldBy_iff.mp hheld).1] at hsent
    cases hsent

theorem stays_run {acts : List Act} (hrun : Machine.run DispatchState.step acts s = some s')
    {key : String} {r : NavReceipt} (hr : s.receipts.lookup key = some r) :
    ∃ r', s'.receipts.lookup key = some r' ∧ r'.payloadJson = r.payloadJson ∧
      (r.status = .sent → r' = r) := by
  induction acts generalizing s r with
  | nil =>
    cases hrun
    exact ⟨r, hr, rfl, fun _ => rfl⟩
  | cons a acts ih =>
    obtain ⟨s₁, hstep, hrest⟩ := Machine.run_cons.mp hrun
    obtain ⟨r₁, hr₁, hpayload₁, hsent₁⟩ := stays_step hstep hr
    obtain ⟨r', hr', hpayload, hsent⟩ := ih hrest hr₁
    refine ⟨r', hr', hpayload.trans hpayload₁, fun h => ?_⟩
    rw [hsent (hsent₁ h ▸ h), hsent₁ h]

/-- The time from which a receipt can be claimed. -/
def NavReceipt.claimableFrom (r : NavReceipt) : Int :=
  match r.status, r.claimedAt with
  | .sending, some claimedAt => max r.nextAttemptAt (claimedAt + minutes claimLeaseMinutes)
  | _, _ => r.nextAttemptAt

/-- A receipt that is not sent is due after the expiries of a claim transaction from that time on. -/
theorem due_of_claimableFrom {r : NavReceipt} (hclaim : r.ClaimSet s) (hsent : r.status ≠ .sent)
    {now : Int} (hnow : r.claimableFrom ≤ now) : (r.expire now).due now = true := by
  unfold NavReceipt.claimableFrom at hnow
  cases hstatus : r.status with
  | sent => exact absurd hstatus hsent
  | sending =>
    obtain ⟨claimId, claimedAt, -, -, hat⟩ := hclaim hstatus
    rw [hstatus, hat] at hnow
    simp only at hnow
    have hover : r.status = .sending ∧
        atOrBefore r.claimedAt (now - minutes claimLeaseMinutes) = true := by
      refine ⟨hstatus, ?_⟩
      rw [hat]
      unfold atOrBefore
      rw [decide_eq_true_eq]
      omega
    refine due_iff.mpr ⟨?_, ?_⟩
    · unfold NavReceipt.expire
      rw [if_pos hover]
      exact .inr rfl
    · unfold NavReceipt.expire
      rw [if_pos hover]
      show r.nextAttemptAt ≤ now
      omega
  | pending | failed =>
    rw [hstatus] at hnow
    have hsame : r.expire now = r := by
      unfold NavReceipt.expire
      rw [if_neg]
      rw [hstatus]
      rintro ⟨h, -⟩
      cases h
    rw [hsame]
    exact due_iff.mpr ⟨by rw [hstatus]; simp, hnow⟩

/-! ## Claims that are gone -/

/-- The claim was given out and does not hold the receipt. -/
def Gone (claimId key : String) (s : DispatchState) : Prop :=
  s.dispatchers.lookup claimId ≠ none ∧
    ∀ r, s.receipts.lookup key = some r → r.heldBy claimId = false

theorem not_held_of_status {claimId : String} {r : NavReceipt} (h : r.status ≠ .sending) :
    r.heldBy claimId = false :=
  Bool.eq_false_iff.mpr fun hheld => h (heldBy_iff.mp hheld).1

/-- A row that is newly claimed is held by the new claim. -/
theorem not_held_of_claim {claimId c : String} {r : NavReceipt} {now : Int} (h : c ≠ claimId) :
    (r.claim c now).heldBy claimId = false :=
  Bool.eq_false_iff.mpr fun hheld => h (Option.some.inj (heldBy_iff.mp hheld).2)

/-- A claim that is gone never comes back. -/
theorem Gone.step {claimId key : String} (hgone : Gone claimId key s) (h : s.step a = some s') :
    Gone claimId key s' := by
  refine ⟨dispatcher_stays h hgone.1, fun r' hr' => ?_⟩
  have hrow := rowStep_of_step h key
  have hbefore := hgone.2
  rw [hr'] at hrow
  generalize s.receipts.lookup key = r at hrow hbefore
  cases hrow with
  | kept => exact hbefore r' rfl
  | inserted => rfl
  | @claimed c limit receiptKey now row selected hnew =>
    split
    · refine not_held_of_claim fun hc => hgone.1 ?_
      rw [← hc]
      exact hnew
    · rcases expire_cases row now with ⟨hsame, -⟩ | ⟨-, hfailed, -⟩
      · rw [hsame]
        exact hbefore row rfl
      · exact not_held_of_status fun h => by rw [hfailed] at h; cases h
  | @marked c raced now startedAt row _ rest d hdispatcher hheld =>
    refine not_held_of_status fun h => ?_
    unfold NavReceipt.marked at h
    cases hsuccess : d.success <;> rw [hsuccess] at h <;> cases h

/-- A claim transaction takes back the claims whose lease is over. -/
theorem gone_of_expired (hs : TableLaw s) {claimId key c : String} {limit now : Int}
    {receiptKey : Option String} {r : NavReceipt} (hr : s.receipts.lookup key = some r)
    (hheld : r.heldBy claimId = true)
    (hover : atOrBefore r.claimedAt (now - minutes claimLeaseMinutes) = true)
    (h : s.step (.claim c limit receiptKey now) = some s') : Gone claimId key s' := by
  obtain ⟨hsending, hclaim⟩ := heldBy_iff.mp hheld
  obtain ⟨holder, -, hholder, hused, -⟩ := hs.claims key r hr hsending
  have hsame : holder = claimId := Option.some.inj (hholder.symm.trans hclaim)
  subst hsame
  refine ⟨dispatcher_stays h hused, fun r' hr' => ?_⟩
  have hrow := rowStep_of_step h key
  rw [hr, hr'] at hrow
  have hfailed : (r.expire now).status = .failed := by
    unfold NavReceipt.expire
    rw [if_pos ⟨hsending, hover⟩]
  cases hrow with
  | kept hkept => cases hkept _ _ _ _ rfl
  | @claimed _ _ _ _ _ selected hnew =>
    split
    · refine not_held_of_claim fun hc => hused ?_
      rw [← hc]
      exact hnew
    · exact not_held_of_status fun h => by rw [hfailed] at h; cases h

/-- A dispatcher whose claim on the receipt it is at is gone marks nothing. -/
theorem Gone.idle {claimId key : String} (hgone : Gone claimId key s) {d : Dispatcher}
    (hd : s.dispatchers.lookup claimId = some d) (hcurrent : d.current = some key) {raced : Bool}
    {now : Int} (h : s.step (.mark claimId raced now) = some s') : s'.receipts = s.receipts := by
  unfold DispatchState.step DispatchState.mark at h
  simp only at h
  split at h
  · next receiptKey row rest startedAt delivery hdispatcher =>
    cases hd.symm.trans hdispatcher
    cases hcurrent
    rw [mark_error hgone.2] at h
    cases h
    rfl
  · cases h

/-! ## Deliveries -/

/-- The deliveries of a receipt. -/
def deliveriesOf (key : String) (deliveries : List (String × String)) : Nat :=
  deliveries.countP fun delivery => delivery.1 = key

/-- A crash comes between no successful send and its mark. -/
def Act.Spares (s : DispatchState) : Act → Prop
  | .crash claimId => ∀ d ∈ s.dispatchers.lookup claimId, d.unmarked = none
  | _ => True

/-- A send that succeeds does so while its claim holds the row, and a claim transaction takes no row
back between its successful send and its mark. -/
def Act.Timely (s : DispatchState) : Act → Prop
  | .deliver claimId result => (Delivery.of result).success = true →
    ∀ d ∈ s.dispatchers.lookup claimId, ∀ key ∈ d.current, ∃ r ∈ s.receipts.lookup key,
      r.heldBy claimId = true
  | .claim _ _ _ now => ∀ row ∈ s.dispatchers, ∀ key ∈ row.2.unmarked,
    ∀ r ∈ s.receipts.lookup key, r.heldBy row.1 = true →
      ¬ atOrBefore r.claimedAt (now - minutes claimLeaseMinutes) = true
  | _ => True

/-- A delivered receipt is sent, or its delivery is to be marked under the claim that holds it. -/
def Settled (s : DispatchState) (key : String) : Prop :=
  ∃ r, s.receipts.lookup key = some r ∧ (r.status = .sent ∨
    ∃ claimId d, s.dispatchers.lookup claimId = some d ∧ d.unmarked = some key ∧
      r.heldBy claimId = true)

/-- What holds of the deliveries of a receipt. -/
def DeliveredOnce (s : DispatchState) (key : String) : Prop :=
  deliveriesOf key s.deliveries = 0 ∨ deliveriesOf key s.deliveries = 1 ∧ Settled s key

/-- The phase of an unmarked delivery. -/
theorem phase_of_unmarked {d : Dispatcher} {key : String} (h : d.unmarked = some key) :
    ∃ row rest startedAt delivery, d = ⟨(key, row) :: rest, .delivered startedAt delivery⟩ ∧
      delivery.success = true := by
  obtain ⟨rows, phase⟩ := d
  unfold Dispatcher.unmarked at h
  cases phase with
  | next | sending => cases h
  | delivered startedAt delivery =>
    simp only at h
    split at h
    · next hsuccess =>
      cases rows with
      | nil => cases h
      | cons row rest =>
        cases h
        exact ⟨row.2, rest, startedAt, delivery, rfl, hsuccess⟩
    · cases h

/-- The mark of a row that is held sets it. -/
theorem mark_held {claimId key : String} {row : NavReceipt} {rest : Receipts} {startedAt : Int}
    {d : Delivery} {raced : Bool} {now : Int}
    (hd : s.dispatchers.lookup claimId = some ⟨(key, row) :: rest, .delivered startedAt d⟩)
    {r : NavReceipt} (hr : s.receipts.lookup key = some r) (hheld : r.heldBy claimId = true)
    (h : s.step (.mark claimId raced now) = some s') :
    s'.receipts.lookup key = some (r.marked d.success d.messageId d.error now) := by
  have hmark : ∃ rows, markNavReceipt key claimId d.success d.messageId d.error now s.receipts =
      .ok rows := by
    unfold markNavReceipt
    rw [hr]
    simp only
    rw [if_pos hheld]
    exact ⟨_, rfl⟩
  obtain ⟨rows, hmark⟩ := hmark
  obtain ⟨⟨r₁, hr₁, -, hrow⟩, -⟩ := mark_ok hmark
  have hsame : r₁ = r := Option.some.inj (hr₁.symm.trans hr)
  subst hsame
  unfold DispatchState.step DispatchState.mark at h
  simp only [hd, hmark] at h
  cases h
  exact hrow

/-- A delivered receipt stays settled. -/
theorem Settled.step {key : String} (hs : Settled s key) (hspares : a.Spares s) (htimely : a.Timely s)
    (h : s.step a = some s') : Settled s' key := by
  obtain ⟨r, hr, hsent | ⟨claimId, d, hd, hunmarked, hheld⟩⟩ := hs
  · obtain ⟨r', hr', -, hsame⟩ := stays_step h hr
    rw [hsame hsent] at hr'
    exact ⟨r, hr', .inl hsent⟩
  · obtain ⟨row, rest, startedAt, delivery, rfl, hsuccess⟩ := phase_of_unmarked hunmarked
    obtain ⟨hsending, hclaim⟩ := heldBy_iff.mp hheld
    -- the mark of this claim sends the receipt; every other step leaves its row and its dispatcher
    by_cases hmark : ∃ raced now, a = .mark claimId raced now
    · obtain ⟨raced, now, rfl⟩ := hmark
      refine ⟨_, mark_held hd hr hheld h, .inl ?_⟩
      unfold NavReceipt.marked
      rw [hsuccess]
      rfl
    · have hrow : s'.receipts.lookup key = some r := by
        have hrow := rowStep_of_step h key
        rw [hr] at hrow
        generalize s'.receipts.lookup key = r' at hrow
        cases hrow with
        | kept => rfl
        | @claimed c limit receiptKey now _ selected hnew =>
          have hlease := htimely _ (Items.mem_of_lookup hd) key (by rw [hunmarked]; rfl) r
            (by rw [hr]; rfl) hheld
          rw [claimed_of_sending hsending hlease]
        | @marked c raced now _ _ _ _ d' hdispatcher hheld' =>
          have hc : c = claimId := Option.some.inj ((heldBy_iff.mp hheld').2.symm.trans hclaim)
          exact absurd ⟨raced, now, by rw [hc]⟩ hmark
      refine ⟨r, hrow, .inr ⟨claimId, _, ?_, hunmarked, hheld⟩⟩
      have hstep := claimStep_of_step h claimId
      rw [hd] at hstep
      generalize s'.dispatchers.lookup claimId = d' at hstep
      cases hstep with
      | kept => rfl
      | @marked _ _ _ _ raced now => exact absurd ⟨raced, now, rfl⟩ hmark
      | crashed =>
        have hnone := hspares _ hd
        rw [hunmarked] at hnone
        cases hnone

theorem DeliveredOnce.step {key : String} (hs : DeliveredOnce s key) (hspares : a.Spares s)
    (htimely : a.Timely s) (h : s.step a = some s') : DeliveredOnce s' key := by
  rcases deliveries_of_step h with hsame |
    ⟨claimId, result, delivered, row, rest, startedAt, rfl, hsuccess, hd, hmade⟩
  · unfold DeliveredOnce
    rw [hsame]
    exact hs.imp id fun hone => ⟨hone.1, hone.2.step hspares htimely h⟩
  · by_cases hkey : delivered = key
    · subst hkey
      obtain ⟨r, hr, hheld⟩ := htimely hsuccess _ hd delivered rfl
      obtain ⟨hsending, hclaim⟩ := heldBy_iff.mp hheld
      -- a receipt that is held and being sent was not delivered
      have hnone : deliveriesOf delivered s.deliveries = 0 := by
        rcases hs with hzero | ⟨-, r', hr', hsent | ⟨c, d, hc, hunmarked, hheld'⟩⟩
        · exact hzero
        · cases hr.symm.trans hr'
          rw [hsending] at hsent
          cases hsent
        · cases hr.symm.trans hr'
          have hsame : c = claimId := Option.some.inj ((heldBy_iff.mp hheld').2.symm.trans hclaim)
          subst hsame
          cases hd.symm.trans hc
          cases hunmarked
      refine .inr ⟨?_, r, ?_, .inr ⟨claimId, ⟨(delivered, row) :: rest,
        .delivered startedAt (.of result)⟩, ?_, ?_, hheld⟩⟩
      · rw [hmade]
        unfold deliveriesOf at hnone ⊢
        rw [List.countP_cons_of_pos (by simp), hnone]
      · have hrow := rowStep_of_step h delivered
        rw [hr] at hrow
        generalize s'.receipts.lookup delivered = r' at hrow
        cases hrow with
        | kept => rfl
      · have hstep := claimStep_of_step h claimId
        rw [hd] at hstep
        unfold DispatchState.step DispatchState.deliver at h
        simp only [hd] at h
        cases h
        show List.lookup claimId (s.dispatchers.set claimId _) = _
        rw [lookup_set, if_pos rfl]
      · unfold Dispatcher.unmarked
        simp only
        rw [if_pos hsuccess]
        rfl
    · have hcount : deliveriesOf key s'.deliveries = deliveriesOf key s.deliveries := by
        rw [hmade]
        unfold deliveriesOf
        rw [List.countP_cons_of_neg (by simpa using hkey)]
      unfold DeliveredOnce
      rw [hcount]
      exact hs.imp id fun hone => ⟨hone.1, hone.2.step hspares htimely h⟩

/-! ## Runs -/

/-- When the send began that the dispatcher has to mark. -/
def Dispatcher.sendStartedAt (d : Dispatcher) : Option Int :=
  match d.phase with
  | .delivered startedAt _ => some startedAt
  | _ => none

/-- A send and its mark take less than the lease. -/
def Act.Prompt (s : DispatchState) : Act → Prop
  | .mark claimId _ now => ∀ d ∈ s.dispatchers.lookup claimId, ∀ startedAt ∈ d.sendStartedAt,
    now < startedAt + minutes claimLeaseMinutes
  | _ => True

/-- The clock does not go back. -/
def Clocked (acts : List Act) : Prop := (acts.filterMap Act.time).Pairwise (· ≤ ·)

instance (acts : List Act) : Decidable (Clocked acts) :=
  inferInstanceAs (Decidable ((acts.filterMap Act.time).Pairwise (· ≤ ·)))

instance (s : DispatchState) : (a : Act) → Decidable (a.Prompt s)
  | .mark claimId _ now => inferInstanceAs (Decidable (∀ d ∈ s.dispatchers.lookup claimId,
    ∀ startedAt ∈ d.sendStartedAt, now < startedAt + minutes claimLeaseMinutes))
  | .enqueue .. | .claim .. | .send .. | .deliver .. | .crash _ => .isTrue trivial

instance (s : DispatchState) : (a : Act) → Decidable (a.Spares s)
  | .crash claimId =>
    inferInstanceAs (Decidable (∀ d ∈ s.dispatchers.lookup claimId, d.unmarked = none))
  | .enqueue .. | .claim .. | .send .. | .deliver .. | .mark .. => .isTrue trivial

instance (s : DispatchState) : (a : Act) → Decidable (a.Timely s)
  | .deliver claimId result => inferInstanceAs (Decidable ((Delivery.of result).success = true →
    ∀ d ∈ s.dispatchers.lookup claimId, ∀ key ∈ d.current, ∃ r ∈ s.receipts.lookup key,
      r.heldBy claimId = true))
  | .claim _ _ _ now => inferInstanceAs (Decidable (∀ row ∈ s.dispatchers, ∀ key ∈ row.2.unmarked,
    ∀ r ∈ s.receipts.lookup key, r.heldBy row.1 = true →
      ¬ atOrBefore r.claimedAt (now - minutes claimLeaseMinutes) = true))
  | .enqueue .. | .send .. | .mark .. | .crash _ => .isTrue trivial

/-- In every run, with `s` a state it reaches and `s'` a later one: a receipt whose insertion returned
is in the table with its payload and stays there; once sent it stays as it is, and until then it is
given out again from a time on; a claim that a claim transaction took back marks nothing any more; and
when every step of the run is timely and no crash comes between a successful send and its mark, a
receipt is delivered once at most. -/
theorem nav_receipts_are_delivered_once {acts acts' : List Act}
    (hrun : Machine.run DispatchState.step acts .empty = some s)
    (hrun' : Machine.run DispatchState.step acts' s = some s') :
    (∀ key payloadJson now inserted rows,
        enqueueNavReceipt key payloadJson now s.receipts = .ok (inserted, rows) →
        ∃ r, rows.lookup key = some r ∧ r.payloadJson = payloadJson) ∧
      (∀ key r, s.receipts.lookup key = some r → ∃ r', s'.receipts.lookup key = some r' ∧
        r'.payloadJson = r.payloadJson ∧ (r.status = .sent → r' = r) ∧
          (r'.status ≠ .sent → ∀ now, r'.claimableFrom ≤ now → ∀ limit asked,
            (asked = some key ∧ key ≠ "" ∧ limit ≠ 0) ∨
              (asked = none ∧ (limit < 0 ∨ (s'.receipts.length : Int) ≤ limit)) →
            ∀ claimId, (key, (r'.expire now).returned claimId now) ∈
              (claimDueNavReceipts limit asked claimId now s'.receipts).2)) ∧
      (∀ key claimId r, s.receipts.lookup key = some r → r.heldBy claimId = true →
        ∀ c limit asked now s₁, atOrBefore r.claimedAt (now - minutes claimLeaseMinutes) = true →
          s.step (.claim c limit asked now) = some s₁ → Gone claimId key s₁) ∧
      (∀ key claimId, Gone claimId key s → ∀ d, s'.dispatchers.lookup claimId = some d →
        d.current = some key → ∀ raced now s₁, s'.step (.mark claimId raced now) = some s₁ →
          s₁.receipts = s'.receipts) ∧
      (Machine.Always DispatchState.step (fun s a => a.Spares s ∧ a.Timely s) acts .empty →
        ∀ key, deliveriesOf key s.deliveries ≤ 1) := by
  have hlaw : TableLaw s := Machine.run_invariant (fun _ _ _ hs h => hs.step h) hrun tableLaw_empty
  have hlaw' : TableLaw s' := Machine.run_invariant (fun _ _ _ hs h => hs.step h) hrun' hlaw
  refine ⟨fun key payloadJson now inserted rows h => ?_, fun key r hr => ?_,
    fun key claimId r hr hheld c limit asked now s₁ hover h => gone_of_expired hlaw hr hheld hover h,
    fun key claimId hgone d hd hcurrent raced now s₁ h => ?_, fun halways key => ?_⟩
  · rcases enqueue_ok h with ⟨rfl, hr⟩ | ⟨-, -, hlookup⟩
    · exact hr
    · exact ⟨_, (hlookup key).trans (if_pos rfl), rfl⟩
  · obtain ⟨r', hr', hpayload, hsent⟩ := stays_run hrun' hr
    refine ⟨r', hr', hpayload, hsent, fun hunsent now hnow limit asked hasked claimId => ?_⟩
    exact mem_claimed hlaw'.nodup hr' (due_of_claimableFrom (hlaw'.claims key r' hr') hunsent hnow)
      hasked claimId
  · have hgone' : Gone claimId key s' :=
      Machine.run_invariant (fun _ _ _ hs h => hs.step h) hrun' hgone
    exact hgone'.idle hd hcurrent h
  · have hstart : DeliveredOnce .empty key := .inl rfl
    have honce : DeliveredOnce s key :=
      Machine.run_invariant_always (I := fun s => DeliveredOnce s key)
        (fun _ _ _ hcond hs h => DeliveredOnce.step hs hcond.1 hcond.2 h) halways hrun hstart
    rcases honce with hzero | ⟨hone, -⟩ <;> omega

/-- A send that succeeds. -/
def accepted : Except String Delivery := .ok ⟨true, none, none⟩

/-- Two receipts of one batch that are sent and marked within the lease of the batch. -/
def batchInTime : List Act :=
  [.enqueue "nav:1" "a" 0, .enqueue "nav:2" "b" 0, .claim "one" 100 none 0, .send "one" 0,
    .deliver "one" accepted, .mark "one" false (minutes 1), .send "one" (minutes 1),
    .deliver "one" accepted, .mark "one" false (minutes 2)]

/-- Two receipts of one batch, each sent and marked in three minutes. Another dispatcher claims when the
lease of the batch is over, and sends the second receipt too. -/
def batchTooLate : List Act :=
  [.enqueue "nav:1" "a" 0, .enqueue "nav:2" "b" 0, .claim "one" 100 none 0, .send "one" 0,
    .deliver "one" accepted, .mark "one" false (minutes 3), .send "one" (minutes 3),
    .claim "two" 100 none (minutes 5), .send "two" (minutes 5), .deliver "two" accepted,
    .mark "two" false (minutes 6), .deliver "one" accepted, .mark "one" false (minutes 6)]

/-- The theorem at the batch that is sent in time. -/
theorem nav_receipts_are_delivered_once_batchInTime :
    ∃ s, Machine.run DispatchState.step batchInTime .empty = some s ∧
      s.deliveries = [("nav:2", "one"), ("nav:1", "one")] ∧
      ∀ key, deliveriesOf key s.deliveries ≤ 1 := by
  have hdeliveries : (Machine.run DispatchState.step batchInTime .empty).map DispatchState.deliveries =
      some [("nav:2", "one"), ("nav:1", "one")] := by
    decide +kernel
  obtain ⟨s, hrun, hs⟩ := Option.map_eq_some_iff.mp hdeliveries
  have hstay : Machine.run DispatchState.step [] s = some s := rfl
  exact ⟨s, hrun, hs, (nav_receipts_are_delivered_once hrun hstay).2.2.2.2 (by decide +kernel)⟩

/-- Each send and its mark take less than the lease and nothing crashes, but the second receipt of the
batch is delivered twice: the lease of the batch is over while it is sent. -/
theorem later_send_outlives_the_batch_lease :
    Clocked batchTooLate ∧ Machine.Always DispatchState.step (fun s a => a.Prompt s) batchTooLate .empty ∧
      (∀ a ∈ batchTooLate, ∀ claimId, a ≠ .crash claimId) ∧
      (Machine.run DispatchState.step batchTooLate .empty).map
        (fun s => deliveriesOf "nav:2" s.deliveries) = some 2 := by
  refine ⟨by decide +kernel, by decide +kernel, ?_, by decide +kernel⟩
  intro a ha claimId hcrash
  subst hcrash
  simp [batchTooLate] at ha

end PortfolioManagement.NavReceipts
