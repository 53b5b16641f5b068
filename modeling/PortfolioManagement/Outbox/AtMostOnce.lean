import PortfolioManagement.Outbox.Dispatch

/-!
# One start for one authorisation

The insertion of a receipt, a failed outcome and an operator's retry each allow one start of its send:
a receipt that can still be claimed has not been started since the last of them
(`startsSince_of_unsent`), and a start leaves it in a status from which only the next of them leads
back. Each start is followed by one call of the renderer at most (`CallsOnce`). The call lies outside
the transactions: a dispatcher that is delayed between its start and its call may call after the
operator decided, when another dispatcher sends the receipt too.
-/

namespace PortfolioManagement.Outbox

open OperationState

variable {rt : OutboxRuntime} {s s' : OutboxState} {a : Act}

/-! ## Starts -/

/-- The starts since the last authorisation. -/
def startsSince (log : List Event) : Nat := (log.takeWhile fun e => !e.authorises).countP Event.starts

theorem startsSince_authorised {e : Event} (h : e.authorises = true) (log : List Event) :
    startsSince (e :: log) = 0 := by
  unfold startsSince
  rw [List.takeWhile_cons_of_neg (by simp [h])]
  rfl

theorem startsSince_started (key claimId : String) (log : List Event) :
    startsSince (.started key claimId :: log) = startsSince log + 1 := by
  unfold startsSince
  rw [List.takeWhile_cons_of_pos rfl, List.countP_cons_of_pos rfl]

theorem startsSince_called (key claimId : String) (log : List Event) :
    startsSince (.called key claimId :: log) = startsSince log := by
  unfold startsSince
  rw [List.takeWhile_cons_of_pos rfl, List.countP_cons_of_neg Bool.false_ne_true]

/-- At every time there has been one start at most since the last authorisation. -/
def StartedOnce (log : List Event) : Prop := ∀ older, older <:+ log → startsSince older ≤ 1

theorem StartedOnce.cons {e : Event} {log : List Event} (h : StartedOnce log)
    (hle : startsSince (e :: log) ≤ 1) : StartedOnce (e :: log) := by
  intro older holder
  rcases List.suffix_cons_iff.mp holder with rfl | holder
  · exact hle
  · exact h older holder

/-- Events without an authorisation hold one start at most. -/
theorem StartedOnce.window {newer window older : List Event} (h : StartedOnce (newer ++ window ++ older))
    (hnone : ∀ e ∈ window, e.authorises = false) : window.countP Event.starts ≤ 1 := by
  have hsuffix : window ++ older <:+ newer ++ window ++ older :=
    ⟨newer, (List.append_assoc ..).symm⟩
  have hle := h _ hsuffix
  unfold startsSince at hle
  rw [List.takeWhile_append_of_pos (by simpa using hnone), List.countP_append] at hle
  omega

/-- The receipt can still be claimed, or is. -/
def OperationReceipt.Unsent (r : OperationReceipt) : Prop :=
  r.status = .pending ∨ r.status = .failed ∨ r.status = .claimed

/-- The two expiries change the status only of a claimed or started row. -/
theorem expire_cases (r : OperationReceipt) (now : Int) :
    r.expire now = r ∨
      (r.status = .claimed ∧ (r.expire now).status = .failed ∧ (r.expire now).claimId = none) ∨
        (r.status = .sending ∧ (r.expire now).status = .unknown ∧ (r.expire now).claimId = none) := by
  unfold OperationReceipt.expire OperationReceipt.takeBack
  split
  · next hclaimed =>
    refine .inr (.inl ⟨hclaimed.1, ?_⟩)
    unfold OperationReceipt.giveUp
    rw [if_neg (by simp)]
    exact ⟨rfl, rfl⟩
  · unfold OperationReceipt.giveUp
    split
    · next hsending => exact .inr (.inr ⟨hsending.1, rfl, rfl⟩)
    · exact .inl rfl

/-- An expiry keeps what the receipt is. -/
theorem expire_same (r : OperationReceipt) (now : Int) :
    (r.expire now).receiptType = r.receiptType ∧ (r.expire now).payloadJson = r.payloadJson := by
  unfold OperationReceipt.expire OperationReceipt.takeBack OperationReceipt.giveUp
  split <;> split <;> exact ⟨rfl, rfl⟩

theorem unsent_of_due {r : OperationReceipt} {now : Int} (h : r.due now = true) : r.Unsent := by
  unfold OperationReceipt.due at h
  simp only [Bool.and_eq_true, Bool.or_eq_true, decide_eq_true_eq] at h
  exact h.1.imp_right .inl

theorem unsent_of_expire {r : OperationReceipt} {now : Int} (h : (r.expire now).Unsent) : r.Unsent := by
  rcases expire_cases r now with hsame | ⟨hclaimed, -⟩ | ⟨-, hunknown, -⟩
  · rwa [hsame] at h
  · exact .inr (.inr hclaimed)
  · unfold OperationReceipt.Unsent at h
    rw [hunknown] at h
    rcases h with h | h | h <;> cases h

/-- The starts of every receipt are authorised. -/
structure StartsAuthorised (s : OutboxState) : Prop where
  /-- one start at most for an authorisation -/
  once : ∀ key, StartedOnce (history key s.log)
  /-- no start since the last one while the receipt can be claimed -/
  unsent : ∀ key, (∀ r, s.outbox.lookup key = some r → r.Unsent) → startsSince (history key s.log) = 0

theorem startsAuthorised_empty : StartsAuthorised .empty where
  once _ older h := by
    rw [List.suffix_nil.mp h]
    exact Nat.zero_le 1
  unsent _ _ := rfl

theorem StartsAuthorised.step (hs : StartsAuthorised s) (h : s.step rt a = some s') :
    StartsAuthorised s' := by
  have hkey : ∀ key, StartedOnce (history key s'.log) ∧
      ((∀ r, s'.outbox.lookup key = some r → r.Unsent) → startsSince (history key s'.log) = 0) := by
    intro key
    obtain ⟨events, hlog, hrow⟩ := rowStep_of_step h key
    have honce := hs.once key
    have hunsent := hs.unsent key
    rw [hlog]
    generalize s.outbox.lookup key = r at hrow hunsent
    generalize s'.outbox.lookup key = r' at hrow
    cases hrow with
    | kept => exact ⟨honce, hunsent⟩
    | inserted =>
      have hzero := startsSince_authorised (e := .enqueued key) rfl (history key s.log)
      exact ⟨honce.cons (hzero ▸ Nat.zero_le 1), fun _ => hzero⟩
    | @claimed claimId limit receiptKey now r selected hnew =>
      refine ⟨honce, fun hready => hunsent fun r₀ hr₀ => ?_⟩
      cases hr₀
      have hready := hready _ rfl
      split at hready
      · next hclaimed =>
        exact unsent_of_expire (unsent_of_due ((Bool.and_eq_true _ _).mp hclaimed).2)
      · exact unsent_of_expire hready
    | @started claimId now r hstatus hclaim =>
      have hzero : startsSince (history key s.log) = 0 := hunsent fun r₀ hr₀ => by
        cases hr₀
        exact .inr (.inr hstatus)
      refine ⟨honce.cons ?_, fun hready => ?_⟩
      · rw [startsSince_started, hzero]
      · rcases hready _ rfl with hready | hready | hready <;> cases hready
    | @called claimId result r =>
      have hsame := startsSince_called key claimId (history key s.log)
      refine ⟨honce.cons ?_, fun hready => hsame.trans (hunsent hready)⟩
      rw [hsame]
      exact honce _ List.suffix_rfl
    | @marked claimId raced now r outcome messageId error hstatus hclaim =>
      cases outcome with
      | failed =>
        have hzero := startsSince_authorised (e := .failed key) rfl (history key s.log)
        exact ⟨honce.cons (hzero ▸ Nat.zero_le 1), fun _ => hzero⟩
      | sent =>
        refine ⟨honce, fun hready => ?_⟩
        rcases hready _ rfl with hready | hready | hready <;> cases hready
      | unknown =>
        refine ⟨honce, fun hready => ?_⟩
        rcases hready _ rfl with hready | hready | hready <;> cases hready
    | @resolved decision text now r hstatus =>
      cases decision with
      | retry =>
        have hzero := startsSince_authorised (e := .retried key) rfl (history key s.log)
        exact ⟨honce.cons (hzero ▸ Nat.zero_le 1), fun _ => hzero⟩
      | markSent =>
        refine ⟨honce, fun hready => ?_⟩
        rcases hready _ rfl with hready | hready | hready <;> cases hready
  exact ⟨fun key => (hkey key).1, fun key => (hkey key).2⟩

/-- Between two authorisations of a receipt its send is started once at most. -/
theorem StartsAuthorised.window (hs : StartsAuthorised s) {key : String}
    {newer window older : List Event} (hlog : s.log = newer ++ window ++ older)
    (hnone : ∀ e ∈ window, e.receiptKey = key → e.authorises = false) :
    (window.countP fun e => e.receiptKey = key && e.starts) ≤ 1 := by
  have honce := hs.once key
  rw [hlog, history_append, history_append] at honce
  have hle : (history key window).countP Event.starts ≤ 1 := honce.window fun e he => by
    obtain ⟨hmem, hkey⟩ := List.mem_filter.mp he
    exact hnone e hmem (of_decide_eq_true hkey)
  unfold history at hle
  rw [List.countP_filter] at hle
  have hsame : (fun e : Event => decide (e.receiptKey = key) && e.starts) =
      fun e => e.starts && decide (e.receiptKey = key) := funext fun e => Bool.and_comm ..
  rw [hsame]
  exact hle

/-! ## Calls -/

/-- The receipts whose send a dispatcher has still to start. -/
def Dispatcher.ahead (d : Dispatcher) : List String :=
  match d.phase with
  | .next => d.rows.map Prod.fst
  | _ => d.rows.tail.map Prod.fst

/-- The receipt a dispatcher is at. -/
def Dispatcher.current (d : Dispatcher) : Option String := d.rows.head?.map Prod.fst

/-- A dispatcher claimed its rows once: it has started none that is ahead, and has not called the
renderer of one that is started. -/
structure Dispatcher.InOrder (d : Dispatcher) (claimId : String) (log : List Event) : Prop where
  /-- its rows are distinct -/
  nodup : (d.rows.map Prod.fst).Nodup
  /-- nothing happened to the rows ahead -/
  ahead : ∀ key ∈ d.ahead, log.count (.started key claimId) = 0 ∧ log.count (.called key claimId) = 0
  /-- the row it is at is started -/
  started : d.phase = .started → ∀ key, d.current = some key →
    log.count (.started key claimId) = 1 ∧ log.count (.called key claimId) = 0

/-- What holds of the events under a claim. -/
def Fits (log : List Event) (claimId : String) : Option Dispatcher → Prop
  | some d => d.InOrder claimId log
  | none => ∀ key, log.count (.started key claimId) = 0 ∧ log.count (.called key claimId) = 0

/-- Each start of a send is followed by one call of its renderer at most. -/
structure CallsOnce (s : OutboxState) : Prop where
  /-- the receipts have distinct keys -/
  nodup : (s.outbox.map Prod.fst).Nodup
  /-- every dispatcher is in order -/
  fits : ∀ claimId, Fits s.log claimId (s.dispatchers claimId)
  /-- a call has its start, which was made once -/
  once : ∀ key claimId, s.log.count (.called key claimId) ≤ s.log.count (.started key claimId) ∧
    s.log.count (.started key claimId) ≤ 1

/-- The event is no start and no call under a claim. -/
def Event.Apart (claimId : String) (e : Event) : Prop :=
  ∀ key, e ≠ .started key claimId ∧ e ≠ .called key claimId

theorem count_apart {claimId : String} {e : Event} (h : e.Apart claimId) (log : List Event)
    (key : String) :
    (e :: log).count (.started key claimId) = log.count (.started key claimId) ∧
      (e :: log).count (.called key claimId) = log.count (.called key claimId) :=
  ⟨List.count_cons_of_ne (h key).1, List.count_cons_of_ne (h key).2⟩

theorem Fits.cons {claimId : String} {e : Event} (h : e.Apart claimId) {log : List Event}
    {d : Option Dispatcher} (hfits : Fits log claimId d) : Fits (e :: log) claimId d := by
  cases d with
  | none =>
    intro key
    rw [(count_apart h log key).1, (count_apart h log key).2]
    exact hfits key
  | some d =>
    refine ⟨hfits.nodup, fun key hkey => ?_, fun hphase key hcurrent => ?_⟩
    · rw [(count_apart h log key).1, (count_apart h log key).2]
      exact hfits.ahead key hkey
    · rw [(count_apart h log key).1, (count_apart h log key).2]
      exact hfits.started hphase key hcurrent

/-- An event that is apart from every claim. -/
theorem CallsOnce.cons (hs : CallsOnce s) {e : Event} (h : ∀ claimId, e.Apart claimId)
    {outbox : Receipts} (hnodup : (outbox.map Prod.fst).Nodup) :
    CallsOnce ⟨outbox, s.dispatchers, e :: s.log⟩ where
  nodup := hnodup
  fits claimId := (hs.fits claimId).cons (h claimId)
  once key claimId := by
    rw [(count_apart (h claimId) s.log key).1, (count_apart (h claimId) s.log key).2]
    exact hs.once key claimId

/-- A dispatcher that is in order takes the place of one under the same claim. -/
theorem CallsOnce.withDispatcher (hs : CallsOnce s) {claimId : String} {d : Dispatcher}
    (hd : d.InOrder claimId s.log) {outbox : Receipts} (hnodup : (outbox.map Prod.fst).Nodup) :
    CallsOnce ⟨outbox, Function.update s.dispatchers claimId (some d), s.log⟩ where
  nodup := hnodup
  fits c := by
    by_cases hc : c = claimId
    · subst hc
      show Fits s.log c (Function.update s.dispatchers c (some d) c)
      rw [Function.update_self]
      exact hd
    · show Fits s.log c (Function.update s.dispatchers claimId (some d) c)
      rw [Function.update_of_ne hc]
      exact hs.fits c
  once := hs.once

/-- An event under the claim of a dispatcher, which is in order afterwards. -/
theorem CallsOnce.logged (hs : CallsOnce s) {claimId key : String} {d : Dispatcher} {e : Event}
    (he : e = .started key claimId ∨ e = .called key claimId)
    (hd : d.InOrder claimId (e :: s.log))
    (honce : (e :: s.log).count (.called key claimId) ≤ (e :: s.log).count (.started key claimId) ∧
      (e :: s.log).count (.started key claimId) ≤ 1)
    {outbox : Receipts} (hnodup : (outbox.map Prod.fst).Nodup) :
    CallsOnce ⟨outbox, Function.update s.dispatchers claimId (some d), e :: s.log⟩ where
  nodup := hnodup
  fits c := by
    by_cases hc : c = claimId
    · subst hc
      show Fits (e :: s.log) c (Function.update s.dispatchers c (some d) c)
      rw [Function.update_self]
      exact hd
    · show Fits (e :: s.log) c (Function.update s.dispatchers claimId (some d) c)
      rw [Function.update_of_ne hc]
      refine (hs.fits c).cons fun k => ?_
      rcases he with rfl | rfl <;> simp [Ne.symm hc]
  once k c := by
    by_cases hsame : k = key ∧ c = claimId
    · rw [hsame.1, hsame.2]
      exact honce
    · have hne : e ≠ .started k c ∧ e ≠ .called k c := by
        rw [not_and] at hsame
        rcases he with rfl | rfl
        · refine ⟨fun h => ?_, Event.noConfusion⟩
          cases h
          exact hsame rfl rfl
        · refine ⟨Event.noConfusion, fun h => ?_⟩
          cases h
          exact hsame rfl rfl
      show (e :: s.log).count _ ≤ _ ∧ _
      rw [List.count_cons_of_ne hne.1, List.count_cons_of_ne hne.2]
      exact hs.once k c

theorem nodup_updateHeld {rows rows' : Receipts} {key claimId error : String} {status : ReceiptStatus}
    {f : OperationReceipt → OperationReceipt} (hrows : (rows.map Prod.fst).Nodup)
    (h : updateHeld key claimId status error f rows = .ok rows') : (rows'.map Prod.fst).Nodup := by
  unfold updateHeld at h
  split at h
  · split at h
    · cases h
      rw [Items.keys_updateWhere]
      exact hrows
    · cases h
  · cases h

/-- The claimed rows are distinct. -/
theorem nodup_selected {rows : Receipts} (h : (rows.map Prod.fst).Nodup) (now limit : Int)
    (receiptKey : Option String) : ((dueReceipts now limit receiptKey rows).map Prod.fst).Nodup := by
  unfold dueReceipts
  generalize hfiltered : (rows.filter fun row => row.2.due now &&
    (receiptKey.isNone || receiptKey = some row.1)) = filtered
  have hnodup : (filtered.map Prod.fst).Nodup := hfiltered ▸ h.sublist (List.filter_sublist.map _)
  have hsorted : ((filtered.insertionSort fun row row' => row.2.createdAt ≤ row'.2.createdAt).map
      Prod.fst).Nodup := ((List.perm_insertionSort _ filtered).map Prod.fst).nodup_iff.mpr hnodup
  unfold limited
  split
  · exact hsorted
  · exact hsorted.sublist ((List.take_sublist _ _).map _)

theorem inOrder_nil (claimId : String) (log : List Event) :
    Dispatcher.InOrder ⟨[], .next⟩ claimId log where
  nodup := List.nodup_nil
  ahead key h := by cases h
  started h := by cases h

theorem callsOnce_empty : CallsOnce .empty where
  nodup := List.nodup_nil
  fits _ _ := ⟨rfl, rfl⟩
  once _ _ := ⟨le_refl 0, Nat.zero_le 1⟩

theorem apart_of_key {e : Event} (h : e.authorises = true) (claimId : String) : e.Apart claimId := by
  intro key
  cases e with
  | started | called => cases h
  | enqueued | failed | retried => exact ⟨Event.noConfusion, Event.noConfusion⟩

theorem CallsOnce.start (hs : CallsOnce s) {claimId : String} {now : Int}
    (h : s.start claimId now = some s') : CallsOnce s' := by
  unfold OutboxState.start at h
  split at h
  · next key row rest hdispatcher =>
    have hfits := hs.fits claimId
    rw [hdispatcher] at hfits
    have hne : key ∉ rest.map Prod.fst := (List.nodup_cons.mp hfits.nodup).1
    have hzero := hfits.ahead key List.mem_cons_self
    cases hstart : startOperationReceiptSend key claimId now s.outbox with
    | error e =>
      rw [hstart] at h
      cases h
      exact hs.withDispatcher (inOrder_nil claimId s.log) hs.nodup
    | ok rows =>
      rw [hstart] at h
      cases h
      have hcalled : (Event.started key claimId :: s.log).count (.called key claimId) = 0 := by
        rw [List.count_cons_of_ne Event.noConfusion]
        exact hzero.2
      have hstarted : (Event.started key claimId :: s.log).count (.started key claimId) = 1 := by
        rw [List.count_cons_self, hzero.1]
      have hd : Dispatcher.InOrder ⟨(key, row) :: rest, .started⟩ claimId
          (.started key claimId :: s.log) := by
        refine ⟨hfits.nodup, fun k hk => ?_, fun _ k hk => ?_⟩
        · have hkey : key ≠ k := fun heq => hne (heq ▸ hk)
          rw [List.count_cons_of_ne (by simpa using hkey), List.count_cons_of_ne Event.noConfusion]
          exact hfits.ahead k (List.mem_cons_of_mem _ hk)
        · cases hk
          exact ⟨hstarted, hcalled⟩
      refine hs.logged (.inl rfl) hd ?_ (nodup_updateHeld hs.nodup hstart)
      rw [hcalled, hstarted]
      exact ⟨Nat.zero_le 1, le_refl 1⟩
  · cases h

theorem CallsOnce.send (hs : CallsOnce s) {claimId : String} {result : Except String Delivery}
    (h : s.send rt claimId result = some s') : CallsOnce s' := by
  unfold OutboxState.send at h
  split at h
  · next key row rest hdispatcher =>
    have hfits := hs.fits claimId
    rw [hdispatcher] at hfits
    have hne : key ∉ rest.map Prod.fst := (List.nodup_cons.mp hfits.nodup).1
    have hcurrent := hfits.started rfl key rfl
    split at h
    · cases h
      have hcalled : (Event.called key claimId :: s.log).count (.called key claimId) = 1 := by
        rw [List.count_cons_self, hcurrent.2]
      have hstarted : (Event.called key claimId :: s.log).count (.started key claimId) = 1 := by
        rw [List.count_cons_of_ne Event.noConfusion]
        exact hcurrent.1
      have hd : Dispatcher.InOrder ⟨(key, row) :: rest, .delivered (.of result)⟩ claimId
          (.called key claimId :: s.log) := by
        refine ⟨hfits.nodup, fun k hk => ?_, fun hphase => by cases hphase⟩
        have hkey : key ≠ k := fun heq => hne (heq ▸ hk)
        rw [List.count_cons_of_ne Event.noConfusion, List.count_cons_of_ne (by simpa using hkey)]
        exact hfits.ahead k hk
      refine hs.logged (.inr rfl) hd ?_ hs.nodup
      rw [hcalled, hstarted]
      exact ⟨le_refl 1, le_refl 1⟩
    · cases h
      have hd : Dispatcher.InOrder ⟨(key, row) :: rest, .delivered (.noRenderer row.receiptType)⟩
          claimId s.log :=
        ⟨hfits.nodup, fun k hk => hfits.ahead k hk, fun hphase => by cases hphase⟩
      exact hs.withDispatcher hd hs.nodup
  · cases h

theorem CallsOnce.mark (hs : CallsOnce s) {claimId : String} {raced : Bool} {now : Int}
    (h : s.mark rt claimId raced now = some s') : CallsOnce s' := by
  unfold OutboxState.mark at h
  split at h
  · next key row rest d hdispatcher =>
    have hfits := hs.fits claimId
    rw [hdispatcher] at hfits
    have hrest : Dispatcher.InOrder ⟨rest, .next⟩ claimId s.log :=
      ⟨(List.nodup_cons.mp hfits.nodup).2, fun k hk => hfits.ahead k hk, fun hphase => by cases hphase⟩
    cases hmark : markOperationReceipt key claimId (d.outcome rt.lower) d.messageId d.error now
        s.outbox with
    | error e =>
      rw [hmark] at h
      cases h
      refine hs.withDispatcher ?_ hs.nodup
      cases raced with
      | true => exact hrest
      | false => exact inOrder_nil claimId s.log
    | ok rows =>
      rw [hmark] at h
      cases h
      have hmarked := hs.withDispatcher hrest (nodup_updateHeld hs.nodup hmark)
      by_cases hfailed : d.outcome rt.lower = .failed
      · simp only [hfailed, if_true]
        exact hmarked.cons (apart_of_key rfl) hmarked.nodup
      · simp only [hfailed, if_false]
        exact hmarked
  · cases h

theorem CallsOnce.step (hs : CallsOnce s) (h : s.step rt a = some s') : CallsOnce s' := by
  cases a with
  | enqueue receiptKey receiptType payloadJson now =>
    cases h
    show CallsOnce (s.enqueue receiptKey receiptType payloadJson now)
    unfold OutboxState.enqueue
    cases hinsert : insertOperationReceipt receiptKey receiptType payloadJson now s.outbox with
    | error e => exact hs
    | ok result =>
      obtain ⟨inserted, rows⟩ := result
      rcases lookup_insert hinsert with ⟨rfl, rfl⟩ | ⟨rfl, hnone, rfl, -⟩
      · exact hs
      · refine hs.cons (apart_of_key rfl) ?_
        have hnot : receiptKey ∉ s.outbox.map Prod.fst := by
          intro hmem
          obtain ⟨⟨_, r⟩, hrow, rfl⟩ := List.mem_map.mp hmem
          rw [(Items.mem_iff_lookup hs.nodup).mp hrow] at hnone
          cases hnone
        rw [List.map_append, List.map_singleton, ← List.concat_eq_append]
        exact hs.nodup.concat hnot
  | claim claimId limit receiptKey now =>
    unfold OutboxState.step at h
    simp only at h
    split at h
    · cases h
    · next hnew =>
      cases h
      have hnone : s.dispatchers claimId = none := by simpa using hnew
      have hfits := hs.fits claimId
      rw [hnone] at hfits
      refine hs.withDispatcher ⟨?_, fun key _ => hfits key, fun hphase => by cases hphase⟩ ?_
      · show (((dueReceipts now limit _ _).map fun row =>
          (row.1, row.2.claim claimId now)).map Prod.fst).Nodup
        rw [List.map_map]
        refine nodup_selected ?_ now limit _
        rw [Items.keys_updateWhere]
        exact hs.nodup
      · unfold claimDueOperationReceipts
        simp only [Items.keys_updateWhere]
        exact hs.nodup
  | start claimId now => exact hs.start h
  | send claimId result => exact hs.send h
  | mark claimId raced now => exact hs.mark h
  | resolve receiptKey decision text now =>
    cases h
    show CallsOnce (s.resolve receiptKey decision text now)
    unfold OutboxState.resolve
    cases hresolve : resolveOperationReceipt receiptKey decision text now s.outbox with
    | error e => exact hs
    | ok rows =>
      have hnodup : (rows.map Prod.fst).Nodup := by
        unfold resolveOperationReceipt at hresolve
        split at hresolve
        · cases hresolve
        · split at hresolve
          · cases hresolve
          · cases hresolve
            rw [Items.keys_updateWhere]
            exact hs.nodup
      cases decision with
      | retry => exact hs.cons (apart_of_key rfl) hnodup
      | markSent => exact ⟨hnodup, hs.fits, hs.once⟩

end PortfolioManagement.Outbox
