import PortfolioManagement.Monitor.Unchanged

/-!
# Replaying the notified changes

The changes of a run, replayed on the snapshots of its baseline, give the tracked part of what is kept
of every row: its identity, asset type, currency and quantity. A comparison that notifies a change
keeps the snapshot of its `after`; one that notifies none keeps a snapshot with the same tracked part,
or that of a row seen for the first time with quantity zero (`outcome_change`, `outcome_silent`).

A deleted row that is seen again with a problem breaks this: its deletion was notified, and the gap
keeps the snapshot of before the deletion, so a later comparison finds no change.
-/

namespace PortfolioManagement.Monitor

variable {rt : ValueRuntime} {accounts : List String}

/-! ## Replay -/

/-- The part of a snapshot whose changes are notified. -/
def HoldingSnapshot.tracked (s : HoldingSnapshot) : Identity × String × String × Option Rat :=
  (identity (some s), s.assetType, s.currency, s.quantity)

/-- The snapshots of the records that the notified changes give. -/
abbrev Replayed := String → Option HoldingSnapshot

/-- The records a change is about: its record and the one it replaces. -/
def Change.touched (c : Change) : List String := c.recordId :: c.previousRecordId.toList

/-- A change gives its record what it says is there afterwards, and takes the replaced one away. -/
def Change.replay (c : Change) (tracked : Replayed) : Replayed :=
  match c.previousRecordId with
  | some rid => Function.update (Function.update tracked rid none) c.recordId c.after
  | none => Function.update tracked c.recordId c.after

/-- Changes in the order of the plan. -/
def replay (changes : List Change) (tracked : Replayed) : Replayed :=
  changes.foldl (fun tracked c => c.replay tracked) tracked

/-- The snapshots after a history, the last observation first: those of the baseline, and the changes
since then. -/
def replayed : List (Observation × Plan) → Replayed
  | [] => fun _ => none
  | [(_, p)] => fun rid => (p.rows.lookup rid).bind RowState.snapshot
  | (_, p) :: last :: past => replay p.changes (replayed (last :: past))

/-- A replayed snapshot has the tracked part of the kept one, or the record was seen for the first
time with quantity zero, which is not notified. -/
def Agrees (replayed kept : Option HoldingSnapshot) : Prop :=
  replayed.map HoldingSnapshot.tracked = kept.map HoldingSnapshot.tracked ∨
    replayed = none ∧ ∃ s, kept = some s ∧ s.quantity = some 0

/-- A change reports that a record is gone: deleted, or replaced by another one. -/
def Change.Reports (c : Change) (rid : String) : Prop :=
  (c.kind = .recordDeleted ∧ c.recordId = rid) ∨ c.previousRecordId = some rid

instance (c : Change) (rid : String) : Decidable (c.Reports rid) :=
  inferInstanceAs (Decidable (_ ∨ _))

theorem Change.replay_of_not_mem {c : Change} {rid : String} (h : rid ∉ c.touched) (tracked : Replayed) :
    c.replay tracked rid = tracked rid := by
  unfold Change.touched at h
  unfold Change.replay
  cases hprevious : c.previousRecordId with
  | none =>
    rw [hprevious] at h
    exact Function.update_of_ne (List.ne_of_not_mem_cons h) _ _
  | some previous =>
    rw [hprevious] at h
    have hne : rid ≠ previous := fun heq => h (heq ▸ List.mem_cons_of_mem _ (List.mem_singleton_self _))
    simp only
    rw [Function.update_of_ne (List.ne_of_not_mem_cons h), Function.update_of_ne hne]

theorem Change.replay_recordId (c : Change) (tracked : Replayed) :
    c.replay tracked c.recordId = c.after := by
  unfold Change.replay
  cases c.previousRecordId <;> exact Function.update_self ..

theorem Change.replay_previous {c : Change} {rid : String} (h : c.previousRecordId = some rid)
    (hne : rid ≠ c.recordId) (tracked : Replayed) : c.replay tracked rid = none := by
  unfold Change.replay
  simp only [h]
  rw [Function.update_of_ne hne, Function.update_self]

/-- Changes about other records leave a record alone. -/
theorem replay_of_not_mem {changes : List Change} {rid : String} (h : ∀ c ∈ changes, rid ∉ c.touched)
    (tracked : Replayed) : replay changes tracked rid = tracked rid := by
  induction changes generalizing tracked with
  | nil => rfl
  | cons c changes ih =>
    have hrest : ∀ c' ∈ changes, rid ∉ c'.touched := fun c' hc' => h c' (List.mem_cons_of_mem _ hc')
    calc replay (c :: changes) tracked rid = replay changes (c.replay tracked) rid := rfl
      _ = c.replay tracked rid := ih hrest _
      _ = tracked rid := c.replay_of_not_mem (h c List.mem_cons_self) tracked

/-- No two changes are about one record. -/
def Apart (changes : List Change) : Prop :=
  changes.Pairwise fun c c' => ∀ rid ∈ c.touched, rid ∉ c'.touched

/-- Of changes about different records the one about a record decides. -/
theorem replay_of_mem {changes : List Change} (hapart : Apart changes) {c : Change} (hc : c ∈ changes)
    {rid : String} (hrid : rid ∈ c.touched) (tracked : Replayed) :
    replay changes tracked rid = c.replay tracked rid := by
  induction changes generalizing tracked with
  | nil => cases hc
  | cons first changes ih =>
    unfold Apart at hapart ih
    rw [List.pairwise_cons] at hapart
    show replay changes (first.replay tracked) rid = _
    rcases List.mem_cons.mp hc with rfl | hc
    · exact replay_of_not_mem (fun c' hc' => hapart.1 c' hc' rid hrid) _
    · have hfirst : rid ∉ first.touched := fun hmem => hapart.1 c hc rid hmem hrid
      rw [ih hapart.2 hc]
      -- what `c` gives the record does not depend on what was there
      unfold Change.touched at hrid
      rcases List.mem_cons.mp hrid with rfl | hprevious
      · rw [c.replay_recordId, c.replay_recordId]
      · have hprevious := Option.mem_toList.mp hprevious
        by_cases hne : rid = c.recordId
        · rw [hne, c.replay_recordId, c.replay_recordId]
        · rw [c.replay_previous hprevious hne, c.replay_previous hprevious hne]

theorem Agrees.none_iff {kept : Option HoldingSnapshot} :
    Agrees none kept ↔ kept = none ∨ ∃ s, kept = some s ∧ s.quantity = some 0 := by
  unfold Agrees
  cases kept with
  | none => simp
  | some s => simp

theorem Agrees.eq_none {replayed : Option HoldingSnapshot} (h : Agrees replayed none) :
    replayed = none := by
  rcases h with h | ⟨h, -⟩
  · exact Option.map_eq_none_iff.mp h
  · exact h

theorem Agrees.refl (kept : Option HoldingSnapshot) : Agrees kept kept := .inl rfl

/-- A snapshot with the same tracked part. -/
theorem Agrees.congr {replayed : Option HoldingSnapshot} {s s' : HoldingSnapshot}
    (h : Agrees replayed (some s)) (htracked : s.tracked = s'.tracked) : Agrees replayed (some s') := by
  rcases h with h | ⟨rfl, s₀, hs, hzero⟩
  · exact .inl (h.trans (congrArg some htracked))
  · cases hs
    have hquantity : s.quantity = s'.quantity := congrArg (fun t => t.2.2.2) htracked
    exact .inr ⟨rfl, s', rfl, hquantity ▸ hzero⟩

/-! ## The comparison of a row -/

/-- The row was never comparable, or is deleted. -/
def Unseen (old : Option RowState) : Prop :=
  ∀ row, old = some row → row.snapshot = none ∨ row.state = .deleted

theorem unseen_none : Unseen none := fun row hrow => absurd hrow.symm (Option.some_ne_none row)

theorem unseen_some {old : RowState} : Unseen (some old) ↔ old.snapshot = none ∨ old.state = .deleted :=
  ⟨fun h => h old rfl, fun h _ hrow => Option.some.inj hrow ▸ h⟩

/-- What a change says was there: what is kept of the row, of the one it replaces, or nothing of a
row that was not seen. -/
def Context.Precedes (ctx : Context) (rid : String) (item : Projection) (c : Change) : Prop :=
  (c.previousRecordId = none ∧
    ((c.before = none ∧ Unseen (ctx.previous.lookup rid)) ∨
      ∃ old, ctx.previous.lookup rid = some old ∧ old.state ≠ .deleted ∧ c.before = old.snapshot)) ∨
  ∃ predecessor, c.previousRecordId = some predecessor ∧ predecessor ∈ ctx.deleted ∧
    missingByIdentity ctx.previous ctx.raw (identity (some item.snapshot)) = [predecessor] ∧
    item.excluded = false ∧ ctx.rowProblem rid item = none ∧
    c.before = (ctx.previous.lookup predecessor).bind RowState.snapshot

/-- A change of a comparison that replaces no row. -/
theorem comparison_change {ctx : Context} {rid : String} {item : Projection} {c : Change}
    (h : ctx.comparison rid (ctx.previous.lookup rid) item.snapshot = some c) :
    c.recordId = rid ∧ c.kind ≠ .recordDeleted ∧ c.after = some item.snapshot ∧
      ctx.Precedes rid item c := by
  have hfirst : Unseen (ctx.previous.lookup rid) → ∀ c old,
      ctx.change .firstObserved rid none (some item.snapshot) old none = c →
      c.recordId = rid ∧ c.kind ≠ .recordDeleted ∧ c.after = some item.snapshot ∧
        ctx.Precedes rid item c := by
    rintro hunseen c old rfl
    exact ⟨rfl, ChangeKind.noConfusion, rfl, .inl ⟨rfl, .inl ⟨rfl, hunseen⟩⟩⟩
  cases hold : ctx.previous.lookup rid with
  | none =>
    simp only [Context.comparison, hold, Option.bind_none] at h
    split at h
    · exact hfirst (hold ▸ unseen_none) c _ (Option.some.inj h)
    · cases h
  | some old =>
    cases hbefore : old.snapshot with
    | none =>
      simp only [Context.comparison, hold, Option.bind_some, hbefore] at h
      split at h
      · exact hfirst (hold ▸ unseen_some.mpr (.inl hbefore)) c _ (Option.some.inj h)
      · cases h
    | some before =>
      simp only [Context.comparison, hold, Option.bind_some, Option.map_some, hbefore,
        Option.some.injEq] at h
      by_cases hdeleted : old.state = .deleted
      · rw [if_pos hdeleted] at h
        split at h
        · exact hfirst (hold ▸ unseen_some.mpr (.inr hdeleted)) c _ (Option.some.inj h)
        · cases h
      · have hkept : ∀ kind, kind ≠ .recordDeleted → ∀ c,
            ctx.change kind rid (some before) (some item.snapshot) (some old) none = c →
            c.recordId = rid ∧ c.kind ≠ .recordDeleted ∧ c.after = some item.snapshot ∧
              ctx.Precedes rid item c := by
          rintro kind hkind c rfl
          exact ⟨rfl, hkind, rfl, .inl ⟨rfl, .inr ⟨old, hold, hdeleted, hbefore.symm⟩⟩⟩
        rw [if_neg hdeleted] at h
        split at h
        · exact hkept .backInScope (by decide) c (Option.some.inj h)
        · split at h
          · exact hkept .identityChanged (by decide) c (Option.some.inj h)
          · split at h
            · exact hkept .measureChanged (by decide) c (Option.some.inj h)
            · split at h
              · refine hkept _ ?_ c (Option.some.inj h)
                split
                · decide
                · split <;> decide
              · cases h

/-- A comparison that finds no change: the row was not seen and has no quantity, or the tracked part
is what it was. -/
theorem comparison_silent {ctx : Context} {rid : String} {item : Projection} {q : Rat}
    (hquantity : item.snapshot.quantity = some q) (hnonneg : 0 ≤ q)
    (h : ctx.comparison rid (ctx.previous.lookup rid) item.snapshot = none) :
    (item.snapshot.quantity = some 0 ∧ Unseen (ctx.previous.lookup rid)) ∨
      ∃ old before, ctx.previous.lookup rid = some old ∧ old.state ≠ .deleted ∧
        old.snapshot = some before ∧ before.tracked = item.snapshot.tracked := by
  have hzero : ¬ positive (some item.snapshot) = true → item.snapshot.quantity = some 0 := by
    intro hnot
    simp only [positive, hquantity, decide_eq_true_eq, not_lt] at hnot
    rw [hquantity, le_antisymm hnot hnonneg]
  cases hold : ctx.previous.lookup rid with
  | none =>
    simp only [Context.comparison, hold, Option.bind_none] at h
    split at h
    · cases h
    · next hnot => exact .inl ⟨hzero hnot, unseen_none⟩
  | some old =>
    cases hbefore : old.snapshot with
    | none =>
      simp only [Context.comparison, hold, Option.bind_some, hbefore] at h
      split at h
      · cases h
      · next hnot => exact .inl ⟨hzero hnot, unseen_some.mpr (.inl hbefore)⟩
    | some before =>
      simp only [Context.comparison, hold, Option.bind_some, Option.map_some, hbefore,
        Option.some.injEq] at h
      by_cases hdeleted : old.state = .deleted
      · rw [if_pos hdeleted] at h
        split at h
        · cases h
        · next hnot => exact .inl ⟨hzero hnot, unseen_some.mpr (.inr hdeleted)⟩
      · rw [if_neg hdeleted] at h
        refine .inr ⟨old, before, rfl, hdeleted, hbefore, ?_⟩
        split at h
        · cases h
        · split at h
          · cases h
          · next hidentity =>
            split at h
            · cases h
            · next hmeasures =>
              split at h
              · cases h
              · next hsame =>
                simp only [not_or, not_not] at hidentity hmeasures hsame
                unfold HoldingSnapshot.tracked
                rw [hidentity, hmeasures.1, hmeasures.2, hsame]

/-- A change of a present row: it keeps the snapshot that its change gives. -/
theorem outcome_change {ctx : Context} {rid : String} {item : Projection} {c : Change}
    (h : (ctx.outcome rid item).change = some c) :
    c.recordId = rid ∧ c.kind ≠ .recordDeleted ∧ c.after = some item.snapshot ∧
      ctx.Precedes rid item c ∧
      ∃ st, (ctx.outcome rid item).state = some st ∧ st.snapshot = some item.snapshot ∧
        st.state ≠ .deleted := by
  cases hexcluded : item.excluded with
  | true =>
    unfold Context.outcome at h ⊢
    rw [if_pos hexcluded] at h ⊢
    unfold Context.excludedOutcome at h ⊢
    cases hold : ctx.previous.lookup rid with
    | none =>
      simp only [hold] at h
      cases h
    | some row =>
      simp only [hold, Option.bind_some] at h ⊢
      by_cases hleft : row.snapshot.isSome = true ∧ ¬ row.settled = true
      · rw [if_pos hleft] at h ⊢
        cases h
        refine ⟨rfl, ChangeKind.noConfusion, rfl, .inl ⟨rfl, .inr ⟨row, hold, ?_, rfl⟩⟩, _, rfl, rfl,
          RowStatus.noConfusion⟩
        intro hdeleted
        refine hleft.2 ?_
        unfold RowState.settled
        rw [hdeleted]
        rfl
      · rw [if_neg hleft] at h
        cases h
  | false =>
    unfold Context.outcome at h ⊢
    simp only [hexcluded, Bool.false_eq_true, if_false] at h ⊢
    cases hproblem : ctx.rowProblem rid item with
    | some problem =>
      rw [hproblem] at h
      cases h
    | none =>
      rw [hproblem] at h
      simp only at h ⊢
      have hkept : ∃ st : RowState,
          some (⟨.active, some item.snapshot, some ctx.now, none, none, none⟩ : RowState) = some st ∧
            st.snapshot = some item.snapshot ∧ st.state ≠ .deleted :=
        ⟨_, rfl, rfl, RowStatus.noConfusion⟩
      cases hpredecessor : ctx.predecessor ((ctx.previous.lookup rid).bind RowState.snapshot)
          (identity (some item.snapshot)) with
      | some predecessor =>
        rw [hpredecessor] at h
        cases h
        unfold Context.predecessor at hpredecessor
        split at hpredecessor
        · cases hpredecessor
        · split at hpredecessor
          · next gone hmissing =>
            split at hpredecessor
            · next hdeleted =>
              cases hpredecessor
              exact ⟨rfl, ChangeKind.noConfusion, rfl,
                .inr ⟨_, rfl, hdeleted, hmissing, hexcluded, hproblem, rfl⟩, hkept⟩
            · cases hpredecessor
          · cases hpredecessor
      | none =>
        rw [hpredecessor] at h
        simp only at h
        split at h
        · cases h
        · obtain ⟨hid, hkind, hafter, hprecedes⟩ := comparison_change h
          exact ⟨hid, hkind, hafter, hprecedes, hkept⟩

/-- A present row without a change: it is kept as it is, it is in a gap and keeps its snapshot, or it
is compared and its tracked part is what it was. -/
theorem outcome_silent {ctx : Context} {rid : String} {item : Projection}
    (hinitializing : ctx.initializing = false)
    (hquantity : item.eligible = true → ∃ q, item.snapshot.quantity = some q ∧ 0 ≤ q)
    (h : (ctx.outcome rid item).change = none) :
    (ctx.outcome rid item).state = ctx.previous.lookup rid ∨
      (item.excluded = false ∧ ctx.rowProblem rid item ≠ none ∧
        ∃ st, (ctx.outcome rid item).state = some st ∧ st.state = .gap ∧
          st.snapshot = (ctx.previous.lookup rid).bind RowState.snapshot) ∨
      ∃ st, (ctx.outcome rid item).state = some st ∧ st.state = .active ∧
        st.snapshot = some item.snapshot ∧
        ((item.snapshot.quantity = some 0 ∧ Unseen (ctx.previous.lookup rid)) ∨
          ∃ old before, ctx.previous.lookup rid = some old ∧ old.state ≠ .deleted ∧
            old.snapshot = some before ∧ before.tracked = item.snapshot.tracked) := by
  cases hexcluded : item.excluded with
  | true =>
    refine .inl ?_
    unfold Context.outcome at h ⊢
    rw [if_pos hexcluded] at h ⊢
    unfold Context.excludedOutcome at h ⊢
    cases hold : ctx.previous.lookup rid with
    | none => rfl
    | some row =>
      simp only [hold, Option.bind_some] at h ⊢
      by_cases hleft : row.snapshot.isSome = true ∧ ¬ row.settled = true
      · rw [if_pos hleft] at h
        cases h
      · rw [if_neg hleft]
  | false =>
    unfold Context.outcome at h ⊢
    simp only [hexcluded, Bool.false_eq_true, if_false] at h ⊢
    cases hproblem : ctx.rowProblem rid item with
    | some problem => exact .inr (.inl ⟨trivial, Option.some_ne_none _, _, rfl, rfl, rfl⟩)
    | none =>
      rw [hproblem] at h
      simp only at h
      refine .inr (.inr ⟨_, rfl, rfl, rfl, ?_⟩)
      cases hpredecessor : ctx.predecessor ((ctx.previous.lookup rid).bind RowState.snapshot)
          (identity (some item.snapshot)) with
      | some predecessor =>
        rw [hpredecessor] at h
        cases h
      | none =>
        rw [hpredecessor] at h
        simp only [hinitializing, Bool.false_eq_true, if_false] at h
        obtain ⟨q, hq, hnonneg⟩ := hquantity (eligible_iff.mpr ⟨hexcluded, reason_eq_none hproblem⟩)
        exact comparison_silent hq hnonneg h

/-! ## The changes of an observation -/

section
variable {o : Observation} {previous : RowStates} {initializing : Bool} {p : Plan}

/-- The deletion of a row. -/
theorem deletion_eq {ctx : Context} {rid : String} {c : Change} (h : ctx.deletion rid = some c) :
    c.kind = .recordDeleted ∧ c.recordId = rid ∧ c.previousRecordId = none ∧ c.after = none ∧
      ∃ old s, ctx.previous.lookup rid = some old ∧ old.snapshot = some s ∧ c.before = some s := by
  unfold Context.deletion at h
  obtain ⟨old, hold, h⟩ := Option.bind_eq_some_iff.mp h
  obtain ⟨s, hs, h⟩ := Option.bind_eq_some_iff.mp h
  cases h
  exact ⟨rfl, rfl, rfl, rfl, old, s, hold, hs, rfl⟩

/-- A change is that of a present row, or the deletion of a row that none of them replaces. -/
theorem mem_changes (h : o.plan rt accounts previous initializing = .ok p) {c : Change} :
    c ∈ p.changes ↔
      (∃ record ∈ o.records, (o.outcome rt accounts previous initializing record).change = some c) ∨
        ∃ rid ∈ (o.context rt accounts previous initializing).deleted,
          (∀ record ∈ o.records, ∀ c',
            (o.outcome rt accounts previous initializing record).change = some c' →
              c'.previousRecordId ≠ some rid) ∧
            (o.context rt accounts previous initializing).deletion rid = some c := by
  rw [o.changes_eq h, List.mem_append, List.mem_filterMap, List.mem_filterMap]
  refine or_congr Iff.rfl ⟨?_, ?_⟩
  · rintro ⟨rid, hrid, hdeletion⟩
    obtain ⟨hdeleted, hnot⟩ := List.mem_filter.mp hrid
    refine ⟨rid, hdeleted, fun record hrecord c' hc' hreplaced => ?_, hdeletion⟩
    refine of_decide_eq_true hnot (List.mem_filterMap.mpr ⟨c', ?_, hreplaced⟩)
    exact List.mem_filterMap.mpr ⟨record, hrecord, hc'⟩
  · rintro ⟨rid, hdeleted, hnot, hdeletion⟩
    refine ⟨rid, List.mem_filter.mpr ⟨hdeleted, decide_eq_true fun hmem => ?_⟩, hdeletion⟩
    obtain ⟨c', hc', hreplaced⟩ := List.mem_filterMap.mp hmem
    obtain ⟨record, hrecord, hc'⟩ := List.mem_filterMap.mp hc'
    exact hnot record hrecord c' hc' hreplaced

/-- A record of a present change is in the read or deleted. -/
theorem touched_present {record : RawHoldingRecord} {c : Change}
    (hc : (o.outcome rt accounts previous initializing record).change = some c) {rid : String}
    (hrid : rid ∈ c.touched) :
    rid = record.recordId ∨ (c.previousRecordId = some rid ∧
      rid ∈ (o.context rt accounts previous initializing).deleted) := by
  obtain ⟨hid, -, -, hprecedes, -⟩ := outcome_change hc
  unfold Change.touched at hrid
  rcases List.mem_cons.mp hrid with rfl | hprevious
  · exact .inl hid
  · have hprevious := Option.mem_toList.mp hprevious
    rcases hprecedes with ⟨hnone, -⟩ | ⟨predecessor, hpredecessor, hdeleted, -⟩
    · rw [hnone] at hprevious
      cases hprevious
    · rw [hpredecessor] at hprevious
      cases hprevious
      exact .inr ⟨hpredecessor, hdeleted⟩

theorem touched_deletion {ctx : Context} {rid rid' : String} {c : Change}
    (hc : ctx.deletion rid = some c) (hrid : rid' ∈ c.touched) : rid' = rid := by
  obtain ⟨-, hid, hnone, -⟩ := deletion_eq hc
  unfold Change.touched at hrid
  rw [hnone, Option.toList_none, List.mem_singleton] at hrid
  rw [hrid, hid]

/-- A row is replaced by one row at most: two that could replace it would be duplicates. -/
theorem predecessor_unique (hprevious : (previous.map Prod.fst).Nodup)
    (hnodup : (o.records.map RawHoldingRecord.recordId).Nodup) {record other : RawHoldingRecord}
    (hrecord : record ∈ o.records) (hother : other ∈ o.records) {c c' : Change}
    (hc : (o.outcome rt accounts previous initializing record).change = some c)
    (hc' : (o.outcome rt accounts previous initializing other).change = some c') {rid : String}
    (hrid : c.previousRecordId = some rid) (hrid' : c'.previousRecordId = some rid) :
    record = other := by
  obtain ⟨-, -, -, hprecedes, -⟩ := outcome_change hc
  obtain ⟨-, -, -, hprecedes', -⟩ := outcome_change hc'
  rcases hprecedes with ⟨hnone, -⟩ | ⟨gone, hgone, -, hmissing, hexcluded, hproblem, -⟩
  · rw [hnone] at hrid
    cases hrid
  · rcases hprecedes' with ⟨hnone, -⟩ | ⟨gone', hgone', -, hmissing', hexcluded', hproblem', -⟩
    · rw [hnone] at hrid'
      cases hrid'
    · rw [hgone] at hrid
      cases hrid
      rw [hgone'] at hrid'
      cases hrid'
      have hkey : ∀ key, missingByIdentity previous (o.records.map RawHoldingRecord.recordId) key =
          [rid] → ∃ old, previous.lookup rid = some old ∧ old.identity = key := by
        intro key hkey
        have hmem : rid ∈ missingByIdentity previous (o.records.map RawHoldingRecord.recordId) key :=
          hkey ▸ List.mem_singleton_self rid
        obtain ⟨⟨_, old⟩, hrow, rfl⟩ := List.mem_map.mp hmem
        obtain ⟨hrow, hidentity⟩ := List.mem_filter.mp hrow
        exact ⟨old, (Items.mem_iff_lookup hprevious).mp (List.mem_filter.mp hrow).1,
          of_decide_eq_true hidentity⟩
      obtain ⟨old, hold, hidentity⟩ := hkey _ hmissing
      obtain ⟨old', hold', hidentity'⟩ := hkey _ hmissing'
      cases hold.symm.trans hold'
      by_contra hne
      have hduplicate : IsDuplicate rt accounts o.records previous record :=
        isDuplicate_of_eligible hrecord hother hne
          (eligible_iff.mpr ⟨hexcluded, reason_eq_none hproblem⟩)
          (eligible_iff.mpr ⟨hexcluded', reason_eq_none hproblem'⟩) (hidentity.symm.trans hidentity')
      have hmember := (mem_duplicateIds hnodup hrecord).mpr hduplicate
      have hsome : (o.context rt accounts previous initializing).rowProblem record.recordId
          (projectRecord rt accounts record) ≠ none := by
        unfold Context.rowProblem
        rw [if_pos (show record.recordId ∈
          (o.context rt accounts previous initializing).duplicateIds from hmember)]
        simp only
        split <;> exact Option.some_ne_none _
      exact hsome hproblem

theorem deleted_not_holds {rid : String}
    (h : rid ∈ (o.context rt accounts previous initializing).deleted) : ¬ o.Holds rid := by
  obtain ⟨⟨_, old⟩, hrow, rfl⟩ := List.mem_map.mp h
  exact (of_decide_eq_true (List.mem_filter.mp (List.mem_filter.mp hrow).1).2 :
    _ ∉ o.records.map RawHoldingRecord.recordId ∧ _).1

/-- The changes of an observation are about different records. -/
theorem apart_changes (hprevious : (previous.map Prod.fst).Nodup)
    (h : o.plan rt accounts previous initializing = .ok p) : Apart p.changes := by
  have hnodup := o.nodup_of_plan h
  unfold Apart
  rw [o.changes_eq h, List.pairwise_append]
  refine ⟨?_, ?_, ?_⟩
  · refine List.pairwise_filterMap.mpr (hnodup.of_map.pairwise_of_forall_ne ?_)
    intro record hrecord other hother hne c hc c' hc' rid hrid hrid'
    rcases touched_present hc hrid with rfl | ⟨hreplaced, hdeleted⟩
    · rcases touched_present hc' hrid' with hsame | ⟨-, hdeleted⟩
      · exact hne (eq_of_key_eq hnodup hrecord hother hsame)
      · exact deleted_not_holds hdeleted (List.mem_map_of_mem hrecord)
    · rcases touched_present hc' hrid' with rfl | ⟨hreplaced', -⟩
      · exact deleted_not_holds hdeleted (List.mem_map_of_mem hother)
      · exact hne (predecessor_unique hprevious hnodup hrecord hother hc hc' hreplaced hreplaced')
  · have hdeleted : (o.context rt accounts previous initializing).deleted.Nodup :=
      hprevious.sublist ((List.filter_sublist.trans List.filter_sublist).map _)
    refine List.pairwise_filterMap.mpr ((hdeleted.filter _).pairwise_of_forall_ne ?_)
    intro rid _ rid' _ hne c hc c' hc' key hkey hkey'
    exact hne ((touched_deletion hc hkey).symm.trans (touched_deletion hc' hkey'))
  · intro c hc c' hc' rid hrid hrid'
    obtain ⟨record, hrecord, hc⟩ := List.mem_filterMap.mp hc
    obtain ⟨gone, hgone, hc'⟩ := List.mem_filterMap.mp hc'
    obtain ⟨hdeleted, hnot⟩ := List.mem_filter.mp hgone
    cases touched_deletion hc' hrid'
    rcases touched_present hc hrid with rfl | ⟨hreplaced, -⟩
    · exact deleted_not_holds hdeleted (List.mem_map_of_mem hrecord)
    · refine of_decide_eq_true hnot (List.mem_filterMap.mpr ⟨c, ?_, hreplaced⟩)
      exact List.mem_filterMap.mpr ⟨record, hrecord, hc⟩

end

/-! ## One observation -/

/-- What the notified changes have to give for a row: its snapshot, and nothing once it is deleted. -/
def RowState.kept (st : RowState) : Option HoldingSnapshot :=
  if st.state = .deleted then none else st.snapshot

/-- No deleted row with a quantity is seen again with a problem. -/
def NoTrackedReturn (rt : ValueRuntime) (accounts : List String) (rows : RowStates) (o : Observation) :
    Prop :=
  ∀ record ∈ o.records, (projectRecord rt accounts record).excluded = false →
    (o.context rt accounts rows false).rowProblem record.recordId
      (projectRecord rt accounts record) ≠ none →
    ∀ old s, rows.lookup record.recordId = some old → old.state = .deleted → old.snapshot = some s →
      s.quantity = some 0

theorem RowState.kept_of_ne {st : RowState} (h : st.state ≠ .deleted) : st.kept = st.snapshot := by
  unfold RowState.kept
  rw [if_neg h]

theorem Unseen.kept {old : Option RowState} (h : Unseen old) : old.bind RowState.kept = none := by
  cases old with
  | none => rfl
  | some row =>
    show row.kept = none
    unfold RowState.kept
    rcases unseen_some.mp h with hsnapshot | hdeleted
    · rw [hsnapshot, ite_self]
    · rw [if_pos hdeleted]

theorem not_deleted_of_settled {row : RowState} (h : row.settled = false) : row.state ≠ .deleted := by
  intro hdeleted
  unfold RowState.settled at h
  rw [hdeleted] at h
  cases h

section
variable {o : Observation} {previous : RowStates} {p : Plan} {tracked : Replayed}

/-- What a change says was there is what the changes before give. -/
theorem agrees_before {initializing : Bool} (hprevious : (previous.map Prod.fst).Nodup)
    (h : o.plan rt accounts previous initializing = .ok p)
    (htracked : ∀ rid, Agrees (tracked rid) ((previous.lookup rid).bind RowState.kept)) {c : Change}
    (hc : c ∈ p.changes) : Agrees (tracked (c.previousRecordId.getD c.recordId)) c.before := by
  have hgone : ∀ rid ∈ (o.context rt accounts previous initializing).deleted,
      Agrees (tracked rid) ((previous.lookup rid).bind RowState.snapshot) := by
    intro rid hrid
    obtain ⟨-, old, hold, hsettled, -⟩ := (Observation.mem_deleted hprevious).mp hrid
    have hagrees := htracked rid
    rw [hold, Option.bind_some, RowState.kept_of_ne (not_deleted_of_settled hsettled)] at hagrees
    rw [hold]
    exact hagrees
  rcases (mem_changes h).mp hc with ⟨record, hrecord, hchange⟩ | ⟨rid, hdeleted, -, hdeletion⟩
  · obtain ⟨hid, -, -, hprecedes, -⟩ := outcome_change hchange
    rcases hprecedes with ⟨hnone, hbefore⟩ | ⟨predecessor, hpredecessor, hdeleted, -, -, -, hbefore⟩
    · rw [hnone, Option.getD_none, hid]
      have hagrees := htracked record.recordId
      rcases hbefore with ⟨hbefore, hunseen⟩ | ⟨old, hold, hnot, hbefore⟩
      · have hunseen : Unseen (previous.lookup record.recordId) := hunseen
        rw [Unseen.kept hunseen] at hagrees
        rw [hbefore]
        exact hagrees
      · have hold : previous.lookup record.recordId = some old := hold
        rw [hold, Option.bind_some, RowState.kept_of_ne hnot] at hagrees
        rw [hbefore]
        exact hagrees
    · rw [hpredecessor, Option.getD_some, hbefore]
      exact hgone predecessor hdeleted
  · obtain ⟨-, hid, hnone, -, old, s, hold, hs, hbefore⟩ := deletion_eq hdeletion
    have hagrees := hgone rid hdeleted
    have hold : previous.lookup rid = some old := hold
    rw [hold, Option.bind_some, hs] at hagrees
    rw [hnone, Option.getD_none, hid, hbefore]
    exact hagrees

/-- A record that no present row is and no deletion is about is in no change. -/
theorem not_touched_of_present (h : o.plan rt accounts previous false = .ok p)
    {record : RawHoldingRecord} (hrecord : record ∈ o.records)
    (hsilent : (o.outcome rt accounts previous false record).change = none) :
    ∀ c ∈ p.changes, record.recordId ∉ c.touched := by
  intro c hc hmem
  have hholds : o.Holds record.recordId := List.mem_map_of_mem hrecord
  rcases (mem_changes h).mp hc with ⟨other, hother, hchange⟩ | ⟨rid, hdeleted, -, hdeletion⟩
  · rcases touched_present hchange hmem with hsame | ⟨-, hdeleted⟩
    · cases eq_of_key_eq (o.nodup_of_plan h) hrecord hother hsame
      rw [hsilent] at hchange
      cases hchange
    · exact deleted_not_holds hdeleted hholds
  · cases touched_deletion hdeletion hmem
    exact deleted_not_holds hdeleted hholds

theorem not_touched_of_absent (h : o.plan rt accounts previous false = .ok p) {rid : String}
    (hnot : ¬ o.Holds rid) (hdeleted : rid ∉ (o.context rt accounts previous false).deleted) :
    ∀ c ∈ p.changes, rid ∉ c.touched := by
  intro c hc hmem
  rcases (mem_changes h).mp hc with ⟨record, hrecord, hchange⟩ | ⟨gone, hgone, -, hdeletion⟩
  · rcases touched_present hchange hmem with rfl | ⟨-, hmem⟩
    · exact hnot (List.mem_map_of_mem hrecord)
    · exact hdeleted hmem
  · cases touched_deletion hdeletion hmem
    exact hdeleted hgone

/-- A row that is not there has the snapshot it had, unless its absence is confirmed. -/
theorem kept_absent {old : RowState} {now : Moment}
    (h : old.settled = true ∨ old.confirmedAbsent now = false) : (old.absent now).kept = old.kept := by
  unfold RowState.absent
  split
  · rfl
  · next hsettled =>
    have hunconfirmed := h.resolve_left hsettled
    rw [if_neg (Bool.eq_false_iff.mp hunconfirmed)]
    have hnot := not_deleted_of_settled (Bool.eq_false_iff.mpr hsettled)
    rw [RowState.kept_of_ne hnot]
    exact RowState.kept_of_ne RowStatus.noConfusion

/-- The changes give what is kept of a present row. -/
theorem agrees_present (hprevious : (previous.map Prod.fst).Nodup)
    (h : o.plan rt accounts previous false = .ok p) (hreturn : NoTrackedReturn rt accounts previous o)
    {record : RawHoldingRecord} (hrecord : record ∈ o.records)
    (hagrees : Agrees (tracked record.recordId)
      ((previous.lookup record.recordId).bind RowState.kept)) :
    Agrees (replay p.changes tracked record.recordId)
      ((p.rows.lookup record.recordId).bind RowState.kept) := by
  have hapart := apart_changes hprevious h
  rw [o.lookup_present h hrecord]
  cases hchange : (o.outcome rt accounts previous false record).change with
  | some c =>
    obtain ⟨hid, -, hafter, -, st, hst, hsnapshot, hnot⟩ := outcome_change hchange
    have hmem : c ∈ p.changes := (mem_changes h).mpr (.inl ⟨record, hrecord, hchange⟩)
    have htouched : record.recordId ∈ c.touched := hid ▸ List.mem_cons_self
    have hst : (o.outcome rt accounts previous false record).state = some st := hst
    rw [replay_of_mem hapart hmem htouched, ← hid, c.replay_recordId, hafter, hst, Option.bind_some,
      RowState.kept_of_ne hnot, hsnapshot]
    exact Agrees.refl _
  | none =>
    rw [replay_of_not_mem (not_touched_of_present h hrecord hchange)]
    have hquantity : (projectRecord rt accounts record).eligible = true →
        ∃ q, (projectRecord rt accounts record).snapshot.quantity = some q ∧ 0 ≤ q :=
      fun heligible => (eligible_facts heligible).2
    rcases outcome_silent rfl hquantity hchange with hkept | ⟨hexcluded, hproblem, st, hst, hgap, hsnapshot⟩ |
      ⟨st, hst, hactive, hsnapshot, hcompared⟩
    · have hkept : (o.outcome rt accounts previous false record).state =
          previous.lookup record.recordId := hkept
      rw [hkept]
      exact hagrees
    · have hst : (o.outcome rt accounts previous false record).state = some st := hst
      have hsnapshot : st.snapshot = (previous.lookup record.recordId).bind RowState.snapshot :=
        hsnapshot
      rw [hst, Option.bind_some, RowState.kept_of_ne (by rw [hgap]; decide), hsnapshot]
      cases hold : previous.lookup record.recordId with
      | none =>
        rw [hold] at hagrees
        exact hagrees
      | some old =>
        rw [hold, Option.bind_some] at hagrees
        by_cases hdeleted : old.state = .deleted
        · -- its deletion was notified
          unfold RowState.kept at hagrees
          rw [if_pos hdeleted] at hagrees
          rw [Agrees.eq_none hagrees, Option.bind_some]
          refine Agrees.none_iff.mpr ?_
          cases hs : old.snapshot with
          | none => exact .inl rfl
          | some s => exact .inr ⟨s, rfl,
              hreturn record hrecord hexcluded hproblem old s hold hdeleted hs⟩
        · rw [RowState.kept_of_ne hdeleted] at hagrees
          exact hagrees
    · have hst : (o.outcome rt accounts previous false record).state = some st := hst
      rw [hst, Option.bind_some, RowState.kept_of_ne (by rw [hactive]; decide), hsnapshot]
      rcases hcompared with ⟨hzero, hunseen⟩ | ⟨old, before, hold, hnot, hbefore, hsame⟩
      · have hunseen : Unseen (previous.lookup record.recordId) := hunseen
        rw [Unseen.kept hunseen] at hagrees
        rw [Agrees.eq_none hagrees]
        exact Agrees.none_iff.mpr (.inr ⟨_, rfl, hzero⟩)
      · have hold : previous.lookup record.recordId = some old := hold
        rw [hold, Option.bind_some, RowState.kept_of_ne hnot, hbefore] at hagrees
        exact hagrees.congr hsame

/-- The changes take away a row whose absence is confirmed. -/
theorem agrees_deleted (hprevious : (previous.map Prod.fst).Nodup)
    (h : o.plan rt accounts previous false = .ok p) {rid : String}
    (hdeleted : rid ∈ (o.context rt accounts previous false).deleted)
    (hagrees : Agrees (tracked rid) ((previous.lookup rid).bind RowState.kept)) :
    Agrees (replay p.changes tracked rid) ((p.rows.lookup rid).bind RowState.kept) := by
  have hapart := apart_changes hprevious h
  have hholds := deleted_not_holds hdeleted
  rw [o.lookup_absent h hholds]
  obtain ⟨-, old, hold, hsettled, hconfirmed⟩ := (Observation.mem_deleted hprevious).mp hdeleted
  have hgone : (old.absent o.now).kept = none := by
    unfold RowState.absent RowState.kept
    rw [if_neg (Bool.eq_false_iff.mp hsettled), if_pos hconfirmed]
    rfl
  rw [hold, Option.map_some, Option.bind_some, hgone]
  rw [hold, Option.bind_some, RowState.kept_of_ne (not_deleted_of_settled hsettled)] at hagrees
  -- the deletion is notified, or its row is replaced
  by_cases hreplaced : ∃ record ∈ o.records, ∃ c,
      (o.outcome rt accounts previous false record).change = some c ∧ c.previousRecordId = some rid
  · obtain ⟨record, hrecord, c, hchange, hprevious⟩ := hreplaced
    have hmem : c ∈ p.changes := (mem_changes h).mpr (.inl ⟨record, hrecord, hchange⟩)
    have htouched : rid ∈ c.touched := List.mem_cons_of_mem _ (Option.mem_toList.mpr hprevious)
    have hne : rid ≠ c.recordId := by
      rintro rfl
      exact hholds ((outcome_change hchange).1 ▸ List.mem_map_of_mem hrecord)
    rw [replay_of_mem hapart hmem htouched, c.replay_previous hprevious hne]
    exact Agrees.refl _
  · have hnone : ∀ record ∈ o.records, ∀ c',
        (o.outcome rt accounts previous false record).change = some c' →
          c'.previousRecordId ≠ some rid :=
      fun record hrecord c' hc' hprevious => hreplaced ⟨record, hrecord, c', hc', hprevious⟩
    cases hdeletion : (o.context rt accounts previous false).deletion rid with
    | some c =>
      obtain ⟨-, hid, hnone', hafter, -⟩ := deletion_eq hdeletion
      have hmem : c ∈ p.changes := (mem_changes h).mpr (.inr ⟨rid, hdeleted, hnone, hdeletion⟩)
      have htouched : rid ∈ c.touched := hid ▸ List.mem_cons_self
      rw [replay_of_mem hapart hmem htouched, ← hid, c.replay_recordId, hafter]
      exact Agrees.refl _
    | none =>
      have hsnapshot : old.snapshot = none := by
        cases hs : old.snapshot with
        | none => rfl
        | some s =>
          have hold : (o.context rt accounts previous false).previous.lookup rid = some old := hold
          unfold Context.deletion at hdeletion
          rw [hold] at hdeletion
          simp [hs] at hdeletion
      have huntouched : ∀ c ∈ p.changes, rid ∉ c.touched := by
        intro c hc hmem
        rcases (mem_changes h).mp hc with ⟨record, hrecord, hchange⟩ | ⟨gone, -, -, hchange⟩
        · rcases touched_present hchange hmem with rfl | ⟨hprevious, -⟩
          · exact hholds (List.mem_map_of_mem hrecord)
          · exact hnone record hrecord c hchange hprevious
        · cases touched_deletion hchange hmem
          rw [hdeletion] at hchange
          cases hchange
      rw [replay_of_not_mem huntouched]
      rw [hsnapshot] at hagrees
      exact hagrees

/-- The changes of an observation take the replayed snapshots to what it keeps. -/
theorem agrees_step (hprevious : (previous.map Prod.fst).Nodup)
    (h : o.plan rt accounts previous false = .ok p) (hreturn : NoTrackedReturn rt accounts previous o)
    (htracked : ∀ rid, Agrees (tracked rid) ((previous.lookup rid).bind RowState.kept)) (rid : String) :
    Agrees (replay p.changes tracked rid) ((p.rows.lookup rid).bind RowState.kept) := by
  by_cases hholds : o.Holds rid
  · obtain ⟨record, hrecord, rfl⟩ := List.mem_map.mp hholds
    exact agrees_present hprevious h hreturn hrecord (htracked _)
  · by_cases hdeleted : rid ∈ (o.context rt accounts previous false).deleted
    · exact agrees_deleted hprevious h hdeleted (htracked rid)
    · have hagrees := htracked rid
      rw [o.lookup_absent h hholds]
      rw [replay_of_not_mem (not_touched_of_absent h hholds hdeleted)]
      cases hold : previous.lookup rid with
      | none =>
        rw [hold] at hagrees
        exact hagrees
      | some old =>
        have hkept : (old.absent o.now).kept = old.kept := by
          refine kept_absent ?_
          cases hsettled : old.settled with
          | true => exact .inl rfl
          | false =>
            refine .inr (Bool.eq_false_iff.mpr fun hconfirmed => hdeleted ?_)
            exact (Observation.mem_deleted hprevious).mpr ⟨hholds, old, hold, hsettled, hconfirmed⟩
        rw [hold, Option.bind_some] at hagrees
        rw [Option.map_some, Option.bind_some, hkept]
        exact hagrees

end

/-! ## Silent updates and reports -/

/-- An update that no change tells of: the tracked part is what it was, or the row was not seen before
and has quantity zero. -/
def Silent (old : Option RowState) (st : RowState) : Prop :=
  st.snapshot.map HoldingSnapshot.tracked = (old.bind RowState.snapshot).map HoldingSnapshot.tracked ∨
    ∃ s, st.snapshot = some s ∧ s.quantity = some 0 ∧ Unseen old

section
variable {o : Observation} {previous : RowStates} {p : Plan}

theorem absent_snapshot (old : RowState) (now : Moment) : (old.absent now).snapshot = old.snapshot := by
  unfold RowState.absent
  split
  · rfl
  · split <;> rfl

/-- A row that no change tells of is updated silently. -/
theorem silent_step (h : o.plan rt accounts previous false = .ok p) {rid : String} {st : RowState}
    (hst : p.rows.lookup rid = some st) (hnone : ∀ c ∈ p.changes, c.recordId ≠ rid) :
    Silent (previous.lookup rid) st := by
  by_cases hholds : o.Holds rid
  · obtain ⟨record, hrecord, rfl⟩ := List.mem_map.mp hholds
    have hchange : (o.outcome rt accounts previous false record).change = none := by
      cases hchange : (o.outcome rt accounts previous false record).change with
      | none => rfl
      | some c =>
        have hmem : c ∈ p.changes := (mem_changes h).mpr (.inl ⟨record, hrecord, hchange⟩)
        exact absurd (outcome_change hchange).1 (hnone c hmem)
    rw [o.lookup_present h hrecord] at hst
    have hquantity : (projectRecord rt accounts record).eligible = true →
        ∃ q, (projectRecord rt accounts record).snapshot.quantity = some q ∧ 0 ≤ q :=
      fun heligible => (eligible_facts heligible).2
    rcases outcome_silent rfl hquantity hchange with hkept | ⟨-, -, st', hst', -, hsnapshot⟩ |
      ⟨st', hst', -, hsnapshot, hcompared⟩
    · have hkept : previous.lookup record.recordId = some st := hkept.symm.trans hst
      rw [hkept]
      exact .inl rfl
    · cases hst.symm.trans hst'
      exact .inl (congrArg _ hsnapshot)
    · cases hst.symm.trans hst'
      rcases hcompared with ⟨hzero, hunseen⟩ | ⟨old, before, hold, -, hbefore, hsame⟩
      · exact .inr ⟨_, hsnapshot, hzero, hunseen⟩
      · have hold : previous.lookup record.recordId = some old := hold
        rw [hold]
        refine .inl ?_
        rw [hsnapshot, Option.bind_some, hbefore, Option.map_some, Option.map_some, hsame]
  · rw [o.lookup_absent h hholds] at hst
    obtain ⟨old, hold, rfl⟩ := Option.map_eq_some_iff.mp hst
    rw [hold]
    exact .inl (congrArg _ (absent_snapshot old o.now))

/-- A record that a change reports is gone. -/
theorem deleted_of_reports {initializing : Bool} (h : o.plan rt accounts previous initializing = .ok p)
    {c : Change} (hc : c ∈ p.changes) {rid : String} (hreports : c.Reports rid) :
    rid ∈ (o.context rt accounts previous initializing).deleted := by
  rcases (mem_changes h).mp hc with ⟨record, -, hchange⟩ | ⟨gone, hgone, -, hdeletion⟩
  · obtain ⟨hid, hkind, -, hprecedes, -⟩ := outcome_change hchange
    rcases hreports with ⟨hdeleted, -⟩ | hreplaced
    · exact absurd hdeleted hkind
    · rcases hprecedes with ⟨hnone, -⟩ | ⟨predecessor, hpredecessor, hdeleted, -⟩
      · rw [hnone] at hreplaced
        cases hreplaced
      · rw [hpredecessor] at hreplaced
        cases hreplaced
        exact hdeleted
  · obtain ⟨-, hid, hnone, -⟩ := deletion_eq hdeletion
    rcases hreports with ⟨-, hsame⟩ | hreplaced
    · exact (hid.symm.trans hsame) ▸ hgone
    · rw [hnone] at hreplaced
      cases hreplaced

/-- A deleted row with a snapshot is reported. -/
theorem exists_reports (hprevious : (previous.map Prod.fst).Nodup)
    (h : o.plan rt accounts previous false = .ok p) {rid : String}
    (hdeleted : rid ∈ (o.context rt accounts previous false).deleted)
    (hsnapshot : ((previous.lookup rid).bind RowState.snapshot).isSome = true) :
    ∃ c ∈ p.changes, c.Reports rid := by
  by_cases hreplaced : ∃ record ∈ o.records, ∃ c,
      (o.outcome rt accounts previous false record).change = some c ∧ c.previousRecordId = some rid
  · obtain ⟨record, hrecord, c, hchange, hpredecessor⟩ := hreplaced
    exact ⟨c, (mem_changes h).mpr (.inl ⟨record, hrecord, hchange⟩), .inr hpredecessor⟩
  · have hnone : ∀ record ∈ o.records, ∀ c',
        (o.outcome rt accounts previous false record).change = some c' →
          c'.previousRecordId ≠ some rid :=
      fun record hrecord c' hc' hpredecessor => hreplaced ⟨record, hrecord, c', hc', hpredecessor⟩
    obtain ⟨-, old, hold, -⟩ := (Observation.mem_deleted hprevious).mp hdeleted
    rw [hold, Option.bind_some] at hsnapshot
    obtain ⟨s, hs⟩ := Option.isSome_iff_exists.mp hsnapshot
    have hold : (o.context rt accounts previous false).previous.lookup rid = some old := hold
    have hdeletion : ∃ c, (o.context rt accounts previous false).deletion rid = some c := by
      unfold Context.deletion
      rw [hold]
      simp [hs]
    obtain ⟨c, hdeletion⟩ := hdeletion
    obtain ⟨hkind, hid, -⟩ := deletion_eq hdeletion
    exact ⟨c, (mem_changes h).mpr (.inr ⟨rid, hdeleted, hnone, hdeletion⟩), .inl ⟨hkind, hid⟩⟩

theorem touched_of_reports {c : Change} {rid : String} (h : c.Reports rid) : rid ∈ c.touched := by
  rcases h with ⟨-, rfl⟩ | hprevious
  · exact List.mem_cons_self
  · exact List.mem_cons_of_mem _ (Option.mem_toList.mpr hprevious)

/-- Of changes about different records one at most reports a record. -/
theorem length_reports_le {changes : List Change} (hapart : Apart changes) (rid : String) :
    (changes.filter fun c => c.Reports rid).length ≤ 1 := by
  have hfilter := hapart.sublist (List.filter_sublist (p := fun c => decide (c.Reports rid)))
  cases hreports : changes.filter fun c => c.Reports rid with
  | nil => exact Nat.zero_le 1
  | cons c rest =>
    cases rest with
    | nil => exact le_refl 1
    | cons c' rest =>
      rw [hreports] at hfilter
      have hmem : ∀ d ∈ c :: c' :: rest, rid ∈ d.touched := by
        intro d hd
        rw [← hreports] at hd
        exact touched_of_reports (of_decide_eq_true (List.mem_filter.mp hd).2)
      have hne := (List.pairwise_cons.mp hfilter).1 c' List.mem_cons_self rid (hmem c List.mem_cons_self)
      exact absurd (hmem c' (List.mem_cons_of_mem _ List.mem_cons_self)) hne

/-- A baseline notifies nothing. -/
theorem changes_baseline (h : o.plan rt accounts [] true = .ok p) : p.changes = [] := by
  refine List.eq_nil_iff_forall_not_mem.mpr fun c hc => ?_
  have hdeleted : (o.context rt accounts [] true).deleted = [] := rfl
  rcases (mem_changes h).mp hc with ⟨record, -, hchange⟩ | ⟨rid, hrid, -⟩
  · unfold Observation.outcome Context.outcome at hchange
    split at hchange
    · cases hchange
    · simp only at hchange
      split at hchange <;> cases hchange
  · rw [hdeleted] at hrid
    cases hrid

/-- A baseline deletes nothing, so the snapshots of its rows are what is kept. -/
theorem agrees_baseline (h : o.plan rt accounts [] true = .ok p) (rid : String) :
    Agrees (replayed [(o, p)] rid) ((p.rows.lookup rid).bind RowState.kept) := by
  show Agrees ((p.rows.lookup rid).bind RowState.snapshot) _
  cases hst : p.rows.lookup rid with
  | none => exact Agrees.refl _
  | some st =>
    have hnot : st.state ≠ .deleted := by
      intro hdeleted
      by_cases hholds : o.Holds rid
      · obtain ⟨record, hrecord, rfl⟩ := List.mem_map.mp hholds
        rw [o.lookup_present h hrecord] at hst
        exact absurd (outcome_deleted hst hdeleted).symm (Option.some_ne_none _)
      · rw [o.lookup_absent h hholds] at hst
        exact absurd hst.symm (Option.some_ne_none _)
    rw [Option.bind_some, Option.bind_some, RowState.kept_of_ne hnot]
    exact Agrees.refl _

end

/-! ## Runs -/

/-- In every run in which no deleted row with a quantity comes back with a problem, the replayed
changes give what is kept of every row. -/
theorem Run.agrees {o : Observation} {p : Plan} {past : List (Observation × Plan)}
    (h : Run rt accounts (NoTrackedReturn rt accounts) ((o, p) :: past)) (rid : String) :
    Agrees (replayed ((o, p) :: past) rid) ((p.rows.lookup rid).bind RowState.kept) := by
  generalize hhistory : (o, p) :: past = history at h
  induction h generalizing o p past rid with
  | start hplan =>
    cases hhistory
    exact agrees_baseline hplan rid
  | next hrun hmeets hplan ih =>
    cases hhistory
    exact agrees_step hrun.nodup hplan hmeets (fun rid => ih rid rfl) rid

/-- In every run in which no deleted row with a quantity comes back with a problem: the changes,
replayed from the baseline, give the tracked part of what is kept; each says what the ones before give;
a row that none is about keeps its tracked part, or is seen for the first time with quantity zero; a
row proved deleted that was ever compared is reported by one change, and no other row is. And an
observation of unchanged rows without candidates finds nothing and keeps the states up to the times of
comparison exactly when no row of a group is kept in a gap for another reason. -/
theorem notifications_telescope {o : Observation} {p : Plan} {past : List (Observation × Plan)}
    (h : Run rt accounts (NoTrackedReturn rt accounts) ((o, p) :: past)) :
    (∀ rid st, p.rows.lookup rid = some st → st.state ≠ .deleted →
        Agrees (replayed ((o, p) :: past) rid) st.snapshot) ∧
      (Apart p.changes ∧ ∀ earlier c later, p.changes = earlier ++ c :: later →
        Agrees (replay earlier (replayed past) (c.previousRecordId.getD c.recordId)) c.before) ∧
      (∀ o' p' before, past = (o', p') :: before →
        (∀ rid st, p.rows.lookup rid = some st → (∀ c ∈ p.changes, c.recordId ≠ rid) →
          Silent (p'.rows.lookup rid) st) ∧
        ∀ rid, (p.changes.filter fun c => c.Reports rid).length ≤ 1 ∧
          (∀ c ∈ p.changes, c.Reports rid → rid ∈ p.provenDeletedIds) ∧
          (rid ∈ p.provenDeletedIds → ((p'.rows.lookup rid).bind RowState.snapshot).isSome = true →
            (p.changes.filter fun c => c.Reports rid).length = 1)) ∧
      ∀ o' p', o'.records.Perm o.records → o'.plan rt accounts p.rows false = .ok p' →
        p.hasMissingCandidates = false →
        ((p'.changes = [] ∧ ∀ rid, (p'.rows.lookup rid).map RowState.untimed =
            (p.rows.lookup rid).map RowState.untimed) ↔
          DuplicatesKnown rt accounts p.rows o') := by
  obtain ⟨before, initializing, hbefore, hlast⟩ := h.last
  refine ⟨fun rid st hst hnot => ?_, ⟨apart_changes hbefore hlast, ?_⟩, ?_, ?_⟩
  · have hagrees := h.agrees rid
    rw [hst, Option.bind_some, RowState.kept_of_ne hnot] at hagrees
    exact hagrees
  · intro earlier c later hchanges
    cases h with
    | start hplan =>
      rw [changes_baseline hplan] at hchanges
      exact absurd hchanges (List.append_ne_nil_of_right_ne_nil _ (List.cons_ne_nil _ _)).symm
    | next hrun hmeets hplan =>
      have hmem : c ∈ p.changes := hchanges ▸ List.mem_append_right _ List.mem_cons_self
      have hapart := apart_changes hrun.nodup hplan
      unfold Apart at hapart
      rw [hchanges, List.pairwise_append] at hapart
      have htouched : c.previousRecordId.getD c.recordId ∈ c.touched := by
        unfold Change.touched
        cases c.previousRecordId with
        | none => exact List.mem_cons_self
        | some previous => exact List.mem_cons_of_mem _ (List.mem_singleton_self _)
      rw [replay_of_not_mem fun d hd hmem' => hapart.2.2 d hd c List.mem_cons_self _ hmem' htouched]
      exact agrees_before hrun.nodup hplan hrun.agrees hmem
  · rintro o' p' earlier rfl
    cases h with
    | next hrun hmeets hplan =>
      have hapart := apart_changes hrun.nodup hplan
      refine ⟨fun rid st hst hnone => silent_step hplan hst hnone, fun rid => ?_⟩
      have hle := length_reports_le hapart rid
      refine ⟨hle, fun c hc hreports => ?_, fun hproved hsnapshot => ?_⟩
      · exact (o.mem_provenDeletedIds hplan).mpr (deleted_of_reports hplan hc hreports)
      · have hdeleted := (o.mem_provenDeletedIds hplan).mp hproved
        obtain ⟨c, hc, hreports⟩ := exists_reports hrun.nodup hplan hdeleted hsnapshot
        have hpos : 0 < (p.changes.filter fun c => c.Reports rid).length :=
          List.length_pos_of_mem (List.mem_filter.mpr ⟨hc, decide_eq_true hreports⟩)
        exact le_antisymm hle hpos
  · intro o' p' hperm hplan' hnone
    exact unchanged_iff hbefore hlast hperm hplan' hnone

/-! ## Two histories -/

/-- The row that is absent twice is in what the baseline gives, and its deletion is reported once. -/
theorem notifications_telescope_absentTwice :
    ∃ o p past, absentTwice = (o, p) :: past ∧ (replayed past "r1").isSome = true ∧
      replayed absentTwice "r1" = none ∧ (p.changes.filter fun c => c.Reports "r1").length = 1 := by
  have hrun : Run asciiRuntime ["a"] (NoTrackedReturn asciiRuntime ["a"]) absentTwice := by
    refine Run.settle (fun o ho rows record hrecord => ?_) (run_baseline (by decide +kernel))
    rcases List.mem_pair.mp ho with rfl | rfl <;> cases hrecord
  have hreplayed : (replayed absentTwice.tail "r1").isSome = true ∧ replayed absentTwice "r1" = none := by
    decide +kernel
  have hproved : (absentTwice.head?.map fun x => x.2.provenDeletedIds) = some ["r1"] := by
    decide +kernel
  have htracked : ((absentTwice.tail.head?.bind fun x => x.2.rows.lookup "r1").bind
      RowState.snapshot).isSome = true := by
    decide +kernel
  cases hhistory : absentTwice with
  | nil =>
    rw [hhistory] at hproved
    cases hproved
  | cons last past =>
    obtain ⟨o, p⟩ := last
    rw [hhistory] at hrun hreplayed hproved htracked
    refine ⟨o, p, past, rfl, hreplayed.1, hreplayed.2, ?_⟩
    have hids : p.provenDeletedIds = ["r1"] := Option.some.inj hproved
    cases past with
    | nil => cases hreplayed.1
    | cons before earlier =>
      obtain ⟨o', p'⟩ := before
      exact (((notifications_telescope hrun).2.2.1 o' p' earlier rfl).2 "r1").2.2
        (hids ▸ List.mem_singleton_self _) htracked

/-- A row is deleted, comes back without a quantity and then with the one it had. -/
def backSilently : List (Observation × Plan) :=
  settle asciiRuntime ["a"]
    [⟨[], 10000000⟩, ⟨[], 12000000⟩, ⟨[monitoredRow "r1" "IB" .null], 20000000⟩,
      ⟨[monitoredRow "r1" "IB" (.int 100)], 30000000⟩]
    (baseline ⟨[monitoredRow "r1" "IB" (.int 100)], 0⟩)

/-- Two rows of one identity without a quantity, read twice. -/
def groupReadTwice : List (Observation × Plan) :=
  let rows := [monitoredRow "r1" "IB" .null, monitoredRow "r2" "IB" .null]
  settle asciiRuntime ["a"] [⟨rows, 10000000⟩, ⟨rows, 20000000⟩] (baseline ⟨[], 0⟩)

/-- After its deletion is notified the row is back in a gap and then active without a change, so the
replayed changes lack it. And a second read of two unchanged rows finds another reason for their
gaps. -/
theorem deleted_row_returns_silently :
    (Run asciiRuntime ["a"] (fun _ _ => True) backSilently ∧
      (backSilently.map fun x => (x.2.changes.map Change.kind,
        (x.2.rows.lookup "r1").map RowState.state)) =
        [([], some .active), ([], some .gap), ([.recordDeleted], some .deleted),
          ([], some .missingCandidate), ([], some .active)] ∧
      replayed backSilently "r1" = none ∧
      ((backSilently.head?.bind fun x => x.2.rows.lookup "r1").bind RowState.snapshot).map
        HoldingSnapshot.quantity = some (some 100)) ∧
      Run asciiRuntime ["a"] (fun _ _ => True) groupReadTwice ∧
      (groupReadTwice.map fun x => ((x.2.rows.lookup "r1").map RowState.reason,
        x.2.hasMissingCandidates)) =
        [(some (some "duplicate_identity"), false), (some (some "invalid_quantity"), false),
          (none, false)] :=
  ⟨⟨Run.settle (fun _ _ _ => trivial) (run_baseline (by decide +kernel)), by decide +kernel,
    by decide +kernel, by decide +kernel⟩,
    Run.settle (fun _ _ _ => trivial) (run_baseline (by decide +kernel)), by decide +kernel⟩

end PortfolioManagement.Monitor
