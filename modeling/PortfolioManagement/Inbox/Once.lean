import PortfolioManagement.Inbox.Workers

/-!
# Inbox events take effect once

An event has been committed once if it is processed and not at all otherwise (`InboxLaw`). A commit
writes what the event causes and the processed mark in one transaction, under the claim that holds the
event; a transaction that raises leaves the database as it was. A claim that a claim transaction took
back, or that completed or failed its event, never holds it again (`Gone`).
-/

namespace PortfolioManagement.Inbox

open OperationState

variable {Δ : Type} {kind : InboxKind Δ} {s s' : InboxState Δ} {a : Act Δ}

/-! ## What every run keeps -/

/-- The columns of a claim are set while a row is claimed. -/
def InboxEvent.ClaimSet (used : List String) (e : InboxEvent) : Prop :=
  e.state = .claimed → ∃ claimId claimedAt, e.claimId = some claimId ∧ claimId ∈ used ∧
    e.claimedAt = some claimedAt

/-- What holds of the inbox after every run. -/
structure InboxLaw (s : InboxState Δ) : Prop where
  /-- an event id is stored once -/
  nodup : (s.db.inbox.map Prod.fst).Nodup
  /-- an event is committed once if it is processed and not at all otherwise -/
  commits : ∀ key, (commitsOf key s.commits).length = if InboxState.processed s.db key then 1 else 0
  /-- claimed rows have their claim -/
  claims : ∀ key e, s.db.inbox.lookup key = some e → e.ClaimSet s.used

theorem inboxLaw_start (effects : Δ) : InboxLaw (InboxState.start effects) where
  nodup := List.nodup_nil
  commits _ := rfl
  claims _ _ h := by cases h

/-- An event is processed if its row is. -/
theorem processed_eq {db : Database Δ} {key : String} {e : Option InboxEvent}
    (h : db.inbox.lookup key = e) :
    InboxState.processed db key = e.any fun e => e.state = .processed := by
  unfold InboxState.processed
  rw [h]

theorem expire_processed (e : InboxEvent) (now : Int) :
    (e.expire now).state = .processed ↔ e.state = .processed := by
  rcases expire_cases e now with hsame | ⟨hclaimed, hretry, -⟩
  · rw [hsame]
  · rw [hclaimed, hretry]
    simp

/-- A claim transaction neither processes an event nor takes a processed one up. -/
theorem claimed_processed (e : InboxEvent) (selected : Bool) (claimId : String) (now : Int) :
    (if selected && (e.expire now).due now then (e.expire now).claim claimId now
      else e.expire now).state = .processed ↔ e.state = .processed := by
  split
  · next hdue =>
    have hnot := not_processed_of_due ((Bool.and_eq_true _ _).mp hdue).2
    rw [Ne, expire_processed] at hnot
    exact iff_of_false (fun h => by cases h) hnot
  · exact expire_processed e now

theorem expire_claimSet {used : List String} {e : InboxEvent} (h : e.ClaimSet used) (now : Int) :
    (e.expire now).ClaimSet used := by
  rcases expire_cases e now with hsame | ⟨-, hretry, -⟩
  · rwa [hsame]
  · intro hclaimed
    rw [hretry] at hclaimed
    cases hclaimed

theorem not_processed_of_held {claimId : String} {e : InboxEvent} (h : e.heldBy claimId = true) :
    e.state ≠ .processed := by
  rw [(heldBy_iff.mp h).1]
  exact fun h => by cases h

/-- The keys of the inbox stay, or a new one is appended. -/
theorem keys_step (h : s.step kind a = some s') :
    s'.db.inbox.map Prod.fst = s.db.inbox.map Prod.fst ∨
      ∃ key, s.db.inbox.lookup key = none ∧
        s'.db.inbox.map Prod.fst = s.db.inbox.map Prod.fst ++ [key] := by
  cases a with
  | accept eventId content now =>
    unfold InboxState.step at h
    simp only at h
    split at h
    · next haccept =>
      cases h
      unfold acceptEvent at haccept
      split at haccept
      · next hnone =>
        cases haccept
        exact .inr ⟨eventId, hnone, List.map_append⟩
      · split at haccept
        · cases haccept
          exact .inl rfl
        · cases haccept
    · cases h
      exact .inl rfl
  | claim claimId limit now =>
    unfold InboxState.step at h
    simp only at h
    split at h
    · cases h
    · cases h
      refine .inl ?_
      show (claimEvents limit claimId now s.db.inbox).1.map Prod.fst = _
      unfold claimEvents
      rw [Items.keys_updateWhere, Items.keys_updateWhere]
  | complete claimId eventId body now =>
    unfold InboxState.step at h
    simp only at h
    split at h
    · next hcomplete =>
      cases h
      obtain ⟨_, _, _, -, -, -, -, hinbox⟩ := completeEvent_ok hcomplete
      exact .inl (hinbox ▸ Items.keys_updateWhere ..)
    · cases h
      exact .inl rfl
  | fail claimId eventId error maxAttempts terminal now =>
    unfold InboxState.step at h
    simp only at h
    split at h
    · next hfail =>
      cases h
      obtain ⟨_, -, -, ⟨-, -, _, _, -, -, hinbox⟩ | ⟨-, -, hinbox⟩⟩ := failEvent_ok hfail
      · exact .inl (hinbox ▸ Items.keys_updateWhere ..)
      · exact .inl (hinbox ▸ Items.keys_updateWhere ..)
    · cases h
      exact .inl rfl
  | other change =>
    cases h
    exact .inl rfl

theorem InboxLaw.step (hs : InboxLaw s) (h : s.step kind a = some s') : InboxLaw s' where
  nodup := by
    rcases keys_step h with hkeys | ⟨key, hnone, hkeys⟩
    · rw [hkeys]
      exact hs.nodup
    · rw [hkeys]
      refine hs.nodup.append (List.nodup_singleton key) ?_
      rw [List.disjoint_singleton]
      intro hmem
      obtain ⟨row, hrow, rfl⟩ := List.mem_map.mp hmem
      have hfound := (Items.mem_iff_lookup hs.nodup).mp hrow
      rw [hnone] at hfound
      cases hfound
  commits key := by
    obtain ⟨commits, hcommits, hrow⟩ := eventStep_of_step h key
    have hbefore := hs.commits key
    rw [processed_eq rfl] at hbefore ⊢
    rw [hcommits, List.length_append]
    generalize s.db.inbox.lookup key = e at hrow hbefore
    generalize s'.db.inbox.lookup key = e' at hrow
    cases hrow with
    | kept => rw [hbefore, List.length_nil, Nat.zero_add]
    | accepted => rw [hbefore]; rfl
    | @claimed claimId limit now e selected =>
      rw [hbefore, List.length_nil, Nat.zero_add, Option.any_some, Option.any_some,
        decide_eq_decide.mpr (claimed_processed e selected claimId now)]
    | @committed _ claimId outcome error attemptCount now e hwork hheld =>
      rw [hbefore, Option.any_some, decide_eq_false (not_processed_of_held hheld)]
      rfl
    | @retried claimId _ _ _ _ e hheld =>
      rw [hbefore, Option.any_some, decide_eq_false (not_processed_of_held hheld)]
      rfl
  claims key e' he' := by
    obtain ⟨commits, hcommits, hrow⟩ := eventStep_of_step h key
    have hbefore := hs.claims key
    rw [he'] at hrow
    generalize s.db.inbox.lookup key = e at hrow hbefore
    intro hclaimed
    have hused : ∀ claimId, claimId ∈ s.used → claimId ∈ s'.used := fun _ => used_stays h
    cases hrow with
    | kept =>
      obtain ⟨claimId, claimedAt, hclaim, hmem, hat⟩ := hbefore e' rfl hclaimed
      exact ⟨claimId, claimedAt, hclaim, hused claimId hmem, hat⟩
    | accepted => cases hclaimed
    | @claimed claimId limit now e selected hnew =>
      split at hclaimed
      · next hdue =>
        rw [if_pos hdue]
        refine ⟨claimId, now, rfl, ?_, rfl⟩
        unfold InboxState.step at h
        simp only at h
        rw [if_neg hnew] at h
        cases h
        exact List.mem_cons_self
      · next hdue =>
        rw [if_neg hdue]
        obtain ⟨holder, claimedAt, hclaim, hmem, hat⟩ :=
          expire_claimSet (hbefore e rfl) now hclaimed
        exact ⟨holder, claimedAt, hclaim, hused holder hmem, hat⟩
    | committed => cases hclaimed
    | retried => cases hclaimed

theorem inboxLaw_of_run {effects : Δ} {acts : List (Act Δ)}
    (hrun : Machine.run (InboxState.step kind) acts (.start effects) = some s) : InboxLaw s :=
  Machine.run_invariant (fun _ _ _ => InboxLaw.step) hrun (inboxLaw_start effects)

/-! ## What an event is -/

/-- The event of a row, and a processed row, stay. -/
def Stays (s s' : InboxState Δ) : Prop :=
  ∀ key e, s.db.inbox.lookup key = some e → ∃ e', s'.db.inbox.lookup key = some e' ∧
    e'.content = e.content ∧ (e.state = .processed → e' = e)

theorem Stays.trans {s₁ : InboxState Δ} (h : Stays s s₁) (h' : Stays s₁ s') : Stays s s' := by
  intro key e he
  obtain ⟨e₁, he₁, hcontent₁, hdone₁⟩ := h key e he
  obtain ⟨e', he', hcontent, hdone⟩ := h' key e₁ he₁
  refine ⟨e', he', hcontent.trans hcontent₁, fun hprocessed => ?_⟩
  have hsame := hdone₁ hprocessed
  rw [hdone (hsame ▸ hprocessed), hsame]

theorem expire_content (e : InboxEvent) (now : Int) : (e.expire now).content = e.content := by
  rcases expire_cases e now with hsame | ⟨-, -, -, hcontent⟩
  · rw [hsame]
  · exact hcontent

theorem expire_of_processed {e : InboxEvent} (h : e.state = .processed) (now : Int) :
    e.expire now = e := by
  rcases expire_cases e now with hsame | ⟨hclaimed, -⟩
  · exact hsame
  · rw [h] at hclaimed
    cases hclaimed

theorem stays_step (h : s.step kind a = some s') : Stays s s' := by
  intro key e he
  obtain ⟨commits, -, hrow⟩ := eventStep_of_step h key
  rw [he] at hrow
  generalize s'.db.inbox.lookup key = e' at hrow
  cases hrow with
  | kept => exact ⟨e, rfl, rfl, fun _ => rfl⟩
  | @claimed claimId limit now _ selected hnew =>
    refine ⟨_, rfl, ?_, fun hprocessed => ?_⟩
    · split <;> exact expire_content e now
    · rw [expire_of_processed hprocessed, if_neg]
      intro hdue
      exact not_processed_of_due ((Bool.and_eq_true _ _).mp hdue).2 hprocessed
  | committed hwork hheld =>
    exact ⟨_, rfl, rfl, fun hprocessed => absurd hprocessed (not_processed_of_held hheld)⟩
  | retried hheld =>
    exact ⟨_, rfl, rfl, fun hprocessed => absurd hprocessed (not_processed_of_held hheld)⟩

theorem stays_of_run {acts : List (Act Δ)} (hrun : Machine.run (InboxState.step kind) acts s = some s') :
    Stays s s' :=
  Machine.run_relates (I := fun _ => True) (R := Stays) (fun _ _ e he => ⟨e, he, rfl, fun _ => rfl⟩)
    (fun _ _ _ => Stays.trans) (fun _ _ _ _ _ => trivial) (fun _ _ _ _ => stays_step) hrun trivial

/-! ## Claims that are gone -/

/-- The claim was given out and does not hold the event. -/
def Gone (claimId key : String) (s : InboxState Δ) : Prop :=
  claimId ∈ s.used ∧ ∀ e, s.db.inbox.lookup key = some e → e.heldBy claimId = false

theorem not_held_of_state {claimId : String} {e : InboxEvent} (h : e.state ≠ .claimed) :
    e.heldBy claimId = false :=
  Bool.eq_false_iff.mpr fun hheld => h (heldBy_iff.mp hheld).1

theorem expire_not_held {claimId : String} {e : InboxEvent} (h : e.heldBy claimId = false) (now : Int) :
    (e.expire now).heldBy claimId = false := by
  rcases expire_cases e now with hsame | ⟨-, hretry, -⟩
  · rwa [hsame]
  · exact not_held_of_state (hretry ▸ fun h => by cases h)

/-- A claim that is gone never comes back. -/
theorem gone_step {claimId key : String} (hgone : Gone claimId key s) (h : s.step kind a = some s') :
    Gone claimId key s' := by
  refine ⟨used_stays h hgone.1, fun e' he' => ?_⟩
  obtain ⟨commits, -, hrow⟩ := eventStep_of_step h key
  have hbefore := hgone.2
  rw [he'] at hrow
  generalize s.db.inbox.lookup key = e at hrow hbefore
  cases hrow with
  | kept => exact hbefore e' rfl
  | accepted => rfl
  | @claimed other limit now e selected hnew =>
    split
    · refine Bool.eq_false_iff.mpr fun hheld => hnew ?_
      have hsame : other = claimId := Option.some.inj (heldBy_iff.mp hheld).2
      exact hsame ▸ hgone.1
    · exact expire_not_held (hbefore e rfl) now
  | committed => exact not_held_of_state fun h => by cases h
  | retried => exact not_held_of_state fun h => by cases h

theorem gone_of_run {claimId key : String} {acts : List (Act Δ)} (hgone : Gone claimId key s)
    (hrun : Machine.run (InboxState.step kind) acts s = some s') : Gone claimId key s' :=
  Machine.run_invariant (I := Gone claimId key) (fun _ _ _ => gone_step) hrun hgone

/-- The transactions of a claim that is gone raise. -/
theorem gone_raises {claimId key : String} (hgone : Gone claimId key s)
    (hwork : a.work = some (claimId, key)) : s.step kind a = some s := by
  cases a with
  | complete c eventId body now =>
    cases hwork
    unfold InboxState.step
    simp only [completeEvent_not_held hgone.2]
  | fail c eventId error maxAttempts terminal now =>
    cases hwork
    unfold InboxState.step
    simp only [failEvent_not_held hgone.2]
  | accept | claim | other => cases hwork

/-- A claim transaction takes back the claims whose lease is over. -/
theorem gone_of_expired (hs : InboxLaw s) {claimId key other : String} {limit now : Int} {e : InboxEvent}
    (he : s.db.inbox.lookup key = some e) (hheld : e.heldBy claimId = true)
    (hexpired : atOrBefore e.claimedAt (now - minutes claimLeaseMinutes) = true)
    (h : s.step kind (.claim other limit now) = some s') : Gone claimId key s' := by
  obtain ⟨hstate, hclaim⟩ := heldBy_iff.mp hheld
  obtain ⟨holder, -, hholder, hmem, -⟩ := hs.claims key e he hstate
  have hused : claimId ∈ s.used := by
    rw [hclaim] at hholder
    cases hholder
    exact hmem
  refine ⟨used_stays h hused, fun e' he' => ?_⟩
  obtain ⟨commits, -, hrow⟩ := eventStep_of_step h key
  rw [he, he'] at hrow
  have hback : (e.expire now).state = .failedRetryable := by
    unfold InboxEvent.expire
    rw [if_pos ⟨hstate, hexpired⟩]
  cases hrow with
  | kept hkept => cases hkept _ _ _ rfl
  | @claimed _ _ _ _ selected hnew =>
    split
    · refine Bool.eq_false_iff.mpr fun hheld' => hnew ?_
      have hsame : other = claimId := Option.some.inj (heldBy_iff.mp hheld').2
      exact hsame ▸ hused
    · exact not_held_of_state (hback ▸ fun h => by cases h)
  | committed hwork => cases hwork

end PortfolioManagement.Inbox
