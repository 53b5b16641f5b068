import PortfolioManagement.Monitor.Duplicates

/-!
# Observations of unchanged rows

A second observation of the same rows, with no row waiting for its second absence, finds no change
and keeps every state up to the time of the comparison, exactly when no row of a group is kept in a
gap for another reason than the group (`unchanged_iff`). The rows of a group that none of them made
one when it was first seen are tracked by then, which makes it one.
-/

namespace PortfolioManagement.Monitor

variable {rt : ValueRuntime} {accounts : List String}

/-- The context of an observation with the duplicate groups of its rows. -/
def Observation.context (rt : ValueRuntime) (accounts : List String) (o : Observation)
    (previous : RowStates) (initializing : Bool) : Context :=
  observationContext rt accounts o.records previous o.now (duplicateHoldingGroups rt o.records)
    initializing

/-- The comparison of a row of the read. -/
def Observation.outcome (rt : ValueRuntime) (accounts : List String) (o : Observation)
    (previous : RowStates) (initializing : Bool) (record : RawHoldingRecord) : Outcome :=
  (o.context rt accounts previous initializing).outcome record.recordId
    (projectRecord rt accounts record)

/-- The rows kept by a run have distinct ids. -/
theorem Run.nodup {K : RowStates → Observation → Prop} {o : Observation} {p : Plan}
    {past : List (Observation × Plan)} (h : Run rt accounts K ((o, p) :: past)) :
    (p.rows.map Prod.fst).Nodup := by
  generalize hhistory : (o, p) :: past = history at h
  induction h generalizing o p past with
  | start hplan =>
    cases hhistory
    exact nodup_rows (show (([] : RowStates).map Prod.fst).Nodup from List.nodup_nil) hplan
  | next hrun hmeets hplan ih =>
    cases hhistory
    exact nodup_rows (ih rfl) hplan

/-- The observation before the last settled one, or nothing before the baseline. -/
theorem Run.last {K : RowStates → Observation → Prop} {o : Observation} {p : Plan}
    {past : List (Observation × Plan)} (h : Run rt accounts K ((o, p) :: past)) :
    ∃ previous initializing, (previous.map Prod.fst).Nodup ∧
      o.plan rt accounts previous initializing = .ok p := by
  cases h with
  | start hplan => exact ⟨[], true, List.nodup_nil, hplan⟩
  | next hrun _ hplan => exact ⟨_, false, hrun.nodup, hplan⟩

/-! ## What a plan holds -/

section
variable {o : Observation} {previous : RowStates} {initializing : Bool} {p : Plan}

theorem Observation.nodup_of_plan (h : o.plan rt accounts previous initializing = .ok p) :
    (o.records.map RawHoldingRecord.recordId).Nodup := nodup_of_observe h

/-- The changes of the present rows, and the deletions of rows that none of them replaces. -/
theorem Observation.changes_eq (h : o.plan rt accounts previous initializing = .ok p) :
    p.changes =
      (o.records.filterMap fun record => (o.outcome rt accounts previous initializing record).change) ++
        (((o.context rt accounts previous initializing).deleted.filter fun rid =>
          rid ∉ (o.records.filterMap fun record =>
            (o.outcome rt accounts previous initializing record).change).filterMap
              Change.previousRecordId).filterMap
          (o.context rt accounts previous initializing).deletion) := by
  unfold Observation.plan observe at h
  simp only at h
  split at h
  · cases h
  · cases h
    simp only [List.filterMap_map]
    rfl

theorem Observation.lookup_absent (h : o.plan rt accounts previous initializing = .ok p) {rid : String}
    (hrid : ¬ o.Holds rid) :
    p.rows.lookup rid = (previous.lookup rid).map (RowState.absent o.now) := lookup_rows_absent h hrid

theorem Observation.lookup_present (h : o.plan rt accounts previous initializing = .ok p)
    {record : RawHoldingRecord} (hrecord : record ∈ o.records) :
    p.rows.lookup record.recordId = (o.outcome rt accounts previous initializing record).state :=
  lookup_rows_present h hrecord

/-- The rows whose absence an observation confirms. -/
theorem Observation.mem_deleted (hprevious : (previous.map Prod.fst).Nodup) {rid : String} :
    rid ∈ (o.context rt accounts previous initializing).deleted ↔
      ¬ o.Holds rid ∧ ∃ old, previous.lookup rid = some old ∧ old.settled = false ∧
        old.confirmedAbsent o.now = true := by
  show rid ∈ deletedIds previous (o.records.map RawHoldingRecord.recordId) o.now ↔ _
  unfold deletedIds missingRows
  rw [List.mem_map]
  constructor
  · rintro ⟨⟨rid, old⟩, hrow, rfl⟩
    obtain ⟨hmissing, hconfirmed⟩ := List.mem_filter.mp hrow
    obtain ⟨hmem, htest⟩ := List.mem_filter.mp hmissing
    have htest := of_decide_eq_true htest
    exact ⟨htest.1, old, (Items.mem_iff_lookup hprevious).mp hmem, Bool.eq_false_iff.mpr htest.2,
      hconfirmed⟩
  · rintro ⟨hnot, old, hold, hsettled, hconfirmed⟩
    refine ⟨(rid, old), List.mem_filter.mpr ⟨List.mem_filter.mpr ⟨?_, ?_⟩, hconfirmed⟩, rfl⟩
    · exact (Items.mem_iff_lookup hprevious).mpr hold
    · exact decide_eq_true ⟨hnot, Bool.eq_false_iff.mp hsettled⟩

theorem Observation.mem_provenDeletedIds (h : o.plan rt accounts previous initializing = .ok p)
    {rid : String} :
    rid ∈ p.provenDeletedIds ↔ rid ∈ (o.context rt accounts previous initializing).deleted := by
  unfold Observation.plan observe at h
  simp only at h
  split at h
  · cases h
  · cases h
    exact List.mem_insertionSort _

end

/-! ## A second observation -/

/-- A state without the time of its comparison. -/
def RowState.untimed (st : RowState) : RowState := { st with observedAt := none }

/-- No row of a group is kept in a gap for another reason. -/
def DuplicatesKnown (rt : ValueRuntime) (accounts : List String) (rows : RowStates) (o : Observation) :
    Prop :=
  ∀ record ∈ o.records, (projectRecord rt accounts record).excluded = false →
    Shared rt o.records record → ∀ st, rows.lookup record.recordId = some st →
      st.reason = some "duplicate_identity"

section
variable {o o' : Observation} {previous : RowStates} {initializing : Bool} {p p' : Plan}

/-- Without candidates every row that is not in the read is settled. -/
theorem missingRows_eq_nil (hprevious : (previous.map Prod.fst).Nodup)
    (h : o.plan rt accounts previous initializing = .ok p) (hnone : p.hasMissingCandidates = false)
    (hsame : ∀ rid, o'.Holds rid ↔ o.Holds rid) :
    missingRows p.rows (o'.records.map RawHoldingRecord.recordId) = [] := by
  refine List.filter_eq_nil_iff.mpr ?_
  rintro ⟨rid, st⟩ hrow htest
  obtain ⟨hnot, hunsettled⟩ := of_decide_eq_true htest
  have hlookup := (Items.mem_iff_lookup (nodup_rows hprevious h)).mp hrow
  rw [o.lookup_absent h fun hholds => hnot ((hsame rid).mpr hholds)] at hlookup
  obtain ⟨old, -, rfl⟩ := Option.map_eq_some_iff.mp hlookup
  have hcandidate : (old.absent o.now).state = .missingCandidate := by
    unfold RowState.absent at hunsettled ⊢
    split
    · next hsettled =>
      rw [if_pos hsettled] at hunsettled
      exact absurd hsettled hunsettled
    · next hsettled =>
      rw [if_neg hsettled] at hunsettled
      split
      · next hconfirmed =>
        rw [if_pos hconfirmed] at hunsettled
        exact absurd rfl hunsettled
      · rfl
  have hany : p.hasMissingCandidates = true := by
    rw [hasMissingCandidates_eq h]
    exact List.any_eq_true.mpr ⟨_, hrow, decide_eq_true hcandidate⟩
  rw [hnone] at hany
  cases hany

/-- Without candidates no identity was protected. -/
theorem protectedKeys_eq_nil (hprevious : (previous.map Prod.fst).Nodup)
    (h : o.plan rt accounts previous initializing = .ok p) (hnone : p.hasMissingCandidates = false) :
    (o.context rt accounts previous initializing).protectedKeys = [] := by
  show protectedIdentities previous (o.records.map RawHoldingRecord.recordId) o.now = []
  unfold protectedIdentities
  rw [List.map_eq_nil_iff]
  refine List.filter_eq_nil_iff.mpr ?_
  rintro ⟨rid, old⟩ hrow htest
  obtain ⟨hmem, hmissing⟩ := List.mem_filter.mp hrow
  obtain ⟨hnot, hunsettled⟩ := of_decide_eq_true hmissing
  have hunconfirmed := of_decide_eq_true htest
  have hlookup := o.lookup_absent h hnot
  rw [(Items.mem_iff_lookup hprevious).mp hmem, Option.map_some] at hlookup
  have hcandidate : (old.absent o.now).state = .missingCandidate := by
    unfold RowState.absent
    rw [if_neg hunsettled, if_neg hunconfirmed]
  have hany : p.hasMissingCandidates = true := by
    rw [hasMissingCandidates_eq h]
    exact List.any_eq_true.mpr ⟨_, Items.mem_of_lookup hlookup, decide_eq_true hcandidate⟩
  rw [hnone] at hany
  cases hany

/-- The problem of a row when no identity is protected. -/
theorem rowProblem_eq (hprotected : (o.context rt accounts previous initializing).protectedKeys = [])
    (hnodup : (o.records.map RawHoldingRecord.recordId).Nodup) {record : RawHoldingRecord}
    (hrecord : record ∈ o.records) [Decidable (IsDuplicate rt accounts o.records previous record)] :
    (o.context rt accounts previous initializing).rowProblem record.recordId
        (projectRecord rt accounts record) =
      if IsDuplicate rt accounts o.records previous record then some "duplicate_identity"
      else (projectRecord rt accounts record).reason := by
  unfold Context.rowProblem
  rw [hprotected, if_neg List.not_mem_nil]
  exact if_congr (mem_duplicateIds hnodup hrecord) rfl rfl

/-- A row keeps its problem in a second observation of the same rows. -/
theorem outcome_again {ctx ctx' : Context} {rid : String} {item : Projection}
    (hrows : ctx'.previous.lookup rid = (ctx.outcome rid item).state)
    (hinitializing : ctx'.initializing = false)
    (hproblem : item.excluded = false → ctx'.rowProblem rid item = ctx.rowProblem rid item) :
    (ctx'.outcome rid item).change = none ∧
      (ctx'.outcome rid item).state.map RowState.untimed =
        (ctx.outcome rid item).state.map RowState.untimed := by
  cases hexcluded : item.excluded with
  | true =>
    -- an excluded row is kept once it is out of scope or was never comparable
    have houtcome : ∀ ctx : Context, ctx.outcome rid item = ctx.excludedOutcome rid item := fun ctx => by
      unfold Context.outcome
      rw [if_pos hexcluded]
    rw [houtcome ctx] at hrows ⊢
    rw [houtcome ctx']
    cases hold : ctx.previous.lookup rid with
    | none =>
      have hstate : (ctx.excludedOutcome rid item).state = none := by
        simp only [Context.excludedOutcome, hold]
      rw [hstate] at hrows ⊢
      simp only [Context.excludedOutcome, hrows, and_self]
    | some row =>
      by_cases hleft : (row.snapshot.isSome = true ∧ ¬ row.settled = true)
      · have hstate : (ctx.excludedOutcome rid item).state =
            some ⟨.outOfScope, some item.snapshot, some ctx.now, none, none, none⟩ := by
          simp only [Context.excludedOutcome, hold, Option.bind_some]
          rw [if_pos hleft]
        rw [hstate] at hrows ⊢
        simp [Context.excludedOutcome, hrows, RowState.settled]
      · have hstate : (ctx.excludedOutcome rid item).state = some row := by
          simp only [Context.excludedOutcome, hold, Option.bind_some]
          rw [if_neg hleft]
        rw [hstate] at hrows ⊢
        simp only [Context.excludedOutcome, hrows, Option.bind_some]
        rw [if_neg hleft]
        exact ⟨rfl, rfl⟩
  | false =>
    have hproblem := hproblem hexcluded
    unfold Context.outcome at hrows ⊢
    simp only [hexcluded, Bool.false_eq_true, if_false] at hrows ⊢
    rw [hproblem]
    cases hfound : ctx.rowProblem rid item with
    | some problem =>
      rw [hfound] at hrows
      simp only at hrows ⊢
      rw [hrows]
      exact ⟨trivial, rfl⟩
    | none =>
      rw [hfound] at hrows
      simp only at hrows ⊢
      refine ⟨?_, rfl⟩
      rw [hrows]
      simp [Context.predecessor, Context.comparison, hinitializing]

/-- A row of the read that was watched is watched in the next observation. -/
theorem isDuplicate_next (hplan : o.plan rt accounts previous initializing = .ok p)
    (hperm : o'.records.Perm o.records) {record : RawHoldingRecord}
    (h : IsDuplicate rt accounts o.records previous record) :
    IsDuplicate rt accounts o'.records p.rows record := by
  obtain ⟨⟨key, hkey, hlength⟩, member, hmember, hsame, hwatched⟩ := h
  refine ⟨⟨key, hkey, ?_⟩, member, hperm.mem_iff.mpr hmember, hsame, hwatched.imp_right fun hold => ?_⟩
  · unfold sharing at hlength ⊢
    rw [(hperm.filter _).length_eq]
    exact hlength
  · rw [o.lookup_present hplan hmember]
    obtain ⟨old, hold⟩ := Option.isSome_iff_exists.mp hold
    show ((o.context rt accounts previous initializing).outcome _ _).state.isSome = true
    have hlookup : (o.context rt accounts previous initializing).previous.lookup member.recordId =
        some old := hold
    unfold Context.outcome Context.excludedOutcome
    simp only [hlookup]
    split <;> split <;> rfl

/-- The rows of an unchanged read keep their problems. -/
theorem rowProblem_again (hprevious : (previous.map Prod.fst).Nodup)
    (hplan : o.plan rt accounts previous initializing = .ok p)
    (hperm : o'.records.Perm o.records) (hnone : p.hasMissingCandidates = false)
    (hknown : DuplicatesKnown rt accounts p.rows o') {record : RawHoldingRecord}
    (hrecord : record ∈ o'.records) (hexcluded : (projectRecord rt accounts record).excluded = false)
    (hprotected : (o'.context rt accounts p.rows false).protectedKeys = []) :
    (o'.context rt accounts p.rows false).rowProblem record.recordId (projectRecord rt accounts record) =
      (o.context rt accounts previous initializing).rowProblem record.recordId
        (projectRecord rt accounts record) := by
  classical
  have hnodup := o.nodup_of_plan hplan
  have hnodup' : (o'.records.map RawHoldingRecord.recordId).Nodup :=
    (hperm.map _).nodup_iff.mpr hnodup
  have hmem : record ∈ o.records := hperm.mem_iff.mp hrecord
  have hfirst := rowProblem_eq (protectedKeys_eq_nil hprevious hplan hnone) hnodup hmem
  rw [rowProblem_eq hprotected hnodup' hrecord]
  by_cases hduplicate : IsDuplicate rt accounts o.records previous record
  · rw [hfirst, if_pos hduplicate, if_pos (isDuplicate_next hplan hperm hduplicate)]
  · by_cases hduplicate' : IsDuplicate rt accounts o'.records p.rows record
    · rw [if_pos hduplicate']
      rw [if_neg hduplicate] at hfirst
      cases hreason : (projectRecord rt accounts record).reason with
      | none =>
        -- a row that can be compared makes a group by itself
        refine absurd ?_ hduplicate
        obtain ⟨⟨key, hkey, hlength⟩, -⟩ := hduplicate'
        refine ⟨⟨key, hkey, ?_⟩, record, hmem, rfl, .inl (eligible_iff.mpr ⟨hexcluded, hreason⟩)⟩
        unfold sharing at hlength ⊢
        rw [← (hperm.filter _).length_eq]
        exact hlength
      | some reason =>
        rw [hreason] at hfirst
        have hstate : (o.outcome rt accounts previous initializing record).state =
            some ⟨.gap, (previous.lookup record.recordId).bind RowState.snapshot,
              (previous.lookup record.recordId).bind RowState.observedAt, some reason, none,
              some (projectRecord rt accounts record).snapshot⟩ := by
          show ((o.context rt accounts previous initializing).outcome _ _).state = _
          unfold Context.outcome
          simp only [hexcluded, Bool.false_eq_true, if_false]
          rw [hfirst]
          rfl
        have hlookup := (o.lookup_present hplan hmem).trans hstate
        rw [hfirst]
        exact (hknown record hrecord hexcluded hduplicate'.1 _ hlookup).symm
    · rw [hfirst, if_neg hduplicate, if_neg hduplicate']

/-- A second observation of the same rows without a candidate finds no change and keeps the states,
up to the times of comparison, exactly when no row of a group is kept in a gap for another reason. -/
theorem unchanged_iff (hprevious : (previous.map Prod.fst).Nodup)
    (hplan : o.plan rt accounts previous initializing = .ok p) (hperm : o'.records.Perm o.records)
    (hplan' : o'.plan rt accounts p.rows false = .ok p') (hnone : p.hasMissingCandidates = false) :
    (p'.changes = [] ∧ ∀ rid, (p'.rows.lookup rid).map RowState.untimed =
        (p.rows.lookup rid).map RowState.untimed) ↔
      DuplicatesKnown rt accounts p.rows o' := by
  have hholds : ∀ rid, o'.Holds rid ↔ o.Holds rid := fun rid => (hperm.map _).mem_iff
  have hmissing := missingRows_eq_nil hprevious hplan hnone hholds
  have hprotected : (o'.context rt accounts p.rows false).protectedKeys = [] := by
    show protectedIdentities p.rows (o'.records.map RawHoldingRecord.recordId) o'.now = []
    unfold protectedIdentities
    rw [hmissing]
    rfl
  have hdeleted : (o'.context rt accounts p.rows false).deleted = [] := by
    show deletedIds p.rows (o'.records.map RawHoldingRecord.recordId) o'.now = []
    unfold deletedIds
    rw [hmissing]
    rfl
  constructor
  · rintro ⟨-, hsame⟩ record hrecord hexcluded hshared st hst
    classical
    have hduplicate : IsDuplicate rt accounts o'.records p.rows record :=
      ⟨hshared, record, hrecord, rfl, .inr (by rw [hst]; rfl)⟩
    have hproblem := rowProblem_eq hprotected (o'.nodup_of_plan hplan') hrecord
    rw [if_pos hduplicate] at hproblem
    have hstate := hsame record.recordId
    rw [o'.lookup_present hplan' hrecord, hst] at hstate
    unfold Observation.outcome Context.outcome at hstate
    simp only [hexcluded, Bool.false_eq_true, if_false, hproblem, Option.map_some, Option.some.injEq,
      RowState.untimed] at hstate
    exact (congrArg RowState.reason hstate).symm
  · intro hknown
    have hagain : ∀ record ∈ o'.records,
        (o'.outcome rt accounts p.rows false record).change = none ∧
          (o'.outcome rt accounts p.rows false record).state.map RowState.untimed =
            (o.outcome rt accounts previous initializing record).state.map RowState.untimed := by
      intro record hrecord
      refine outcome_again (o.lookup_present hplan (hperm.mem_iff.mp hrecord)) rfl fun hexcluded => ?_
      exact rowProblem_again hprevious hplan hperm hnone hknown hrecord hexcluded hprotected
    constructor
    · have hpresent : (o'.records.filterMap fun record =>
          (o'.outcome rt accounts p.rows false record).change) = [] :=
        List.filterMap_eq_nil_iff.mpr fun record hrecord => (hagain record hrecord).1
      rw [o'.changes_eq hplan', hpresent, hdeleted]
      rfl
    · intro rid
      by_cases hrid : o'.Holds rid
      · obtain ⟨record, hrecord, rfl⟩ := List.mem_map.mp hrid
        rw [o'.lookup_present hplan' hrecord, o.lookup_present hplan (hperm.mem_iff.mp hrecord)]
        exact (hagain record hrecord).2
      · rw [o'.lookup_absent hplan' hrid]
        cases hst : p.rows.lookup rid with
        | none => rfl
        | some st =>
          have hsettled : st.settled = true := by
            by_contra hunsettled
            have hmem : (rid, st) ∈ missingRows p.rows (o'.records.map RawHoldingRecord.recordId) :=
              List.mem_filter.mpr ⟨Items.mem_of_lookup hst, decide_eq_true ⟨hrid, hunsettled⟩⟩
            rw [hmissing] at hmem
            cases hmem
          have habsent : st.absent o'.now = st := by
            unfold RowState.absent
            rw [if_pos hsettled]
          rw [Option.map_some, habsent]

end

end PortfolioManagement.Monitor
