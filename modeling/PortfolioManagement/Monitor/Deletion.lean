import PortfolioManagement.Monitor.Observe

/-!
# Deletion is proved by two absences

The state of a row after an observation is a function of its state before and of the row of the read
that has its id, if there is one (`lookup_rows_absent`, `lookup_rows_present`). A first absence is
kept in `missing_since`; every comparison of a present row clears it, but that of an excluded row
without a snapshot, whose state is kept as it is. So a row that was never comparable, was absent once
and came back excluded is deleted by its next absence.
-/

namespace PortfolioManagement.Monitor

section
variable {rt : ValueRuntime} {accounts : List String} {records : List RawHoldingRecord}
  {previous : RowStates} {now : Moment} {groups : Items Identity (List RawHoldingRecord)}
  {initializing : Bool} {plan : Plan}

/-! ## What an observation writes -/

theorem nodup_of_observe (h : observe rt accounts records previous now groups initializing = .ok plan) :
    (records.map RawHoldingRecord.recordId).Nodup := by
  unfold observe at h
  simp only at h
  split at h
  · cases h
  · next hok => exact Decidable.not_not.mp fun hnot => hok (.inl hnot)

theorem hasMissingCandidates_eq
    (h : observe rt accounts records previous now groups initializing = .ok plan) :
    plan.hasMissingCandidates = plan.rows.any fun row => row.2.state = .missingCandidate := by
  unfold observe at h
  simp only at h
  split at h
  · cases h
  · cases h
    rfl

/-- The keys of the rows are distinct. -/
theorem nodup_rows (hprevious : (previous.map Prod.fst).Nodup)
    (h : observe rt accounts records previous now groups initializing = .ok plan) :
    (plan.rows.map Prod.fst).Nodup := by
  have hnodup := nodup_of_observe h
  unfold observe at h
  simp only at h
  split at h
  · cases h
  · cases h
    have habsent : ∀ rows : RowStates, (rows.map fun row => (row.1, row.2.absent now)).map Prod.fst =
        rows.map Prod.fst := by
      intro rows
      rw [List.map_map]
      rfl
    rw [List.filterMap_map]
    have hpresent := Items.keys_filterMap_sublist RawHoldingRecord.recordId (fun record =>
      ((observationContext rt accounts records previous now groups initializing).outcome record.recordId
        (projectRecord rt accounts record)).state) records
    rw [List.map_append, List.nodup_append, habsent]
    refine ⟨?_, hnodup.sublist hpresent, ?_⟩
    · exact hprevious.sublist (List.filter_sublist.map _)
    · rintro key hkey key' hkey' rfl
      obtain ⟨row, hrow, rfl⟩ := List.mem_map.mp hkey
      exact of_decide_eq_true (List.mem_filter.mp hrow).2 (hpresent.subset hkey')

/-- A row the read does not hold is absent. -/
theorem lookup_rows_absent (h : observe rt accounts records previous now groups initializing = .ok plan)
    {rid : String} (hrid : rid ∉ records.map RawHoldingRecord.recordId) :
    plan.rows.lookup rid = (previous.lookup rid).map (RowState.absent now) := by
  unfold observe at h
  simp only at h
  split at h
  · cases h
  · cases h
    have hpresent := Items.keys_filterMap_sublist RawHoldingRecord.recordId (fun record =>
      ((observationContext rt accounts records previous now groups initializing).outcome record.recordId
        (projectRecord rt accounts record)).state) records
    rw [List.filterMap_map, List.lookup_append]
    have hnone := Items.lookup_eq_none fun hmem => hrid (hpresent.subset hmem)
    refine (congrArg₂ Option.or rfl hnone).trans ?_
    rw [Option.or_none, Items.lookup_map_value (RowState.absent now),
      Items.lookup_filter_key (fun key => decide (key ∉ records.map RawHoldingRecord.recordId)),
      if_pos (decide_eq_true hrid)]

/-- A row the read holds has the state of its comparison. -/
theorem lookup_rows_present (h : observe rt accounts records previous now groups initializing = .ok plan)
    {record : RawHoldingRecord} (hrecord : record ∈ records) :
    plan.rows.lookup record.recordId =
      ((observationContext rt accounts records previous now groups initializing).outcome record.recordId
        (projectRecord rt accounts record)).state := by
  have hnodup := nodup_of_observe h
  have hmem : record.recordId ∈ records.map RawHoldingRecord.recordId := List.mem_map_of_mem hrecord
  unfold observe at h
  simp only at h
  split at h
  · cases h
  · cases h
    rw [List.lookup_append, Items.lookup_map_value (RowState.absent now),
      Items.lookup_filter_key (fun key => decide (key ∉ records.map RawHoldingRecord.recordId)),
      if_neg (by simpa using hmem), Option.map_none, Option.none_or, List.filterMap_map]
    exact Items.lookup_filterMap RawHoldingRecord.recordId _ hnodup hrecord

/-- The rows proved deleted: tracked, absent, and absent for two seconds. -/
theorem mem_provenDeletedIds (h : observe rt accounts records previous now groups initializing = .ok plan)
    {rid : String} (hrid : rid ∈ plan.provenDeletedIds) :
    rid ∉ records.map RawHoldingRecord.recordId ∧
      ∃ old, (rid, old) ∈ previous ∧ old.settled = false ∧ old.confirmedAbsent now = true := by
  unfold observe at h
  simp only at h
  split at h
  · cases h
  · cases h
    rw [List.mem_insertionSort] at hrid
    obtain ⟨⟨key, old⟩, hold, rfl⟩ := List.mem_map.mp hrid
    obtain ⟨hmissing, hconfirmed⟩ := List.mem_filter.mp hold
    obtain ⟨hprevious, htest⟩ := List.mem_filter.mp hmissing
    have htest := of_decide_eq_true htest
    exact ⟨htest.1, old, hprevious, by simpa using htest.2, hconfirmed⟩

end

/-! ## What the comparison of a present row keeps -/

/-- A present row is no candidate for deletion, unless it is excluded and its state is kept. -/
theorem outcome_present {ctx : Context} {rid : String} {item : Projection} {st : RowState}
    (h : (ctx.outcome rid item).state = some st) :
    (st.missingSince = none ∧ st.state ≠ .missingCandidate) ∨
      (item.excluded = true ∧ ctx.previous.lookup rid = some st ∧
        (st.snapshot = none ∨ st.settled = true)) := by
  unfold Context.outcome at h
  split at h
  · next hexcluded =>
    unfold Context.excludedOutcome at h
    simp only at h
    split at h
    · cases h
    · next row hrow =>
      split at h
      · cases h
        exact .inl ⟨rfl, nofun⟩
      · next hkept =>
        cases h
        refine .inr ⟨hexcluded, hrow, ?_⟩
        rw [hrow] at hkept
        cases hsnapshot : st.snapshot with
        | none => exact .inl rfl
        | some s =>
          refine .inr (Bool.not_eq_false _ |>.mp fun hsettled => hkept ⟨?_, ?_⟩)
          · rw [Option.bind_some, hsnapshot]
            rfl
          · rw [hsettled]
            exact Bool.false_ne_true
  · simp only at h
    split at h
    · cases h
      exact .inl ⟨rfl, nofun⟩
    · cases h
      exact .inl ⟨rfl, nofun⟩

/-- An absent row is missing since its first absence. -/
theorem absent_missingSince {old : RowState} {now t : Moment}
    (hstatus : ∀ t, old.missingSince = some t → old.state = .missingCandidate)
    (h : (old.absent now).missingSince = some t) :
    (old.absent now).state = .missingCandidate ∧
      (old.missingSince = some t ∨ (old.missingSince = none ∧ t = now)) := by
  unfold RowState.absent at h ⊢
  split at h
  · next hsettled =>
    have hcandidate := hstatus t h
    unfold RowState.settled at hsettled
    rw [hcandidate] at hsettled
    exact absurd hsettled (by decide)
  · next hsettled =>
    rw [if_neg hsettled]
    split at h
    · cases h
    · next hconfirmed =>
      rw [if_neg hconfirmed]
      refine ⟨rfl, ?_⟩
      cases hsince : old.missingSince with
      | none =>
        simp only [hsince, Option.getD_none, Option.some.injEq] at h
        exact .inr ⟨rfl, h.symm⟩
      | some first =>
        simp only [hsince, Option.getD_some] at h
        exact .inl h

/-! ## Absences over a run -/

/-- Every observation of the history down to one at time `t`, that one included, is without the row. -/
def AbsentSince (rid : String) (t : Moment) (history : List (Observation × Plan)) : Prop :=
  ∃ later first earlier, history = later ++ first :: earlier ∧ first.1.now = t ∧
    ¬ first.1.Holds rid ∧ ∀ x ∈ later, ¬ x.1.Holds rid

/-- No row that waits for its second absence and was never comparable comes back excluded. -/
def NoneReturnsExcluded (rt : ValueRuntime) (accounts : List String) (rows : RowStates)
    (o : Observation) : Prop :=
  ∀ record ∈ o.records, (projectRecord rt accounts record).excluded = true →
    ∀ old, rows.lookup record.recordId = some old → old.state = .missingCandidate →
      old.snapshot.isSome = true

/-- What is kept of absences is what the history says. -/
structure AbsencesKept (rows : RowStates) (o : Observation) (history : List (Observation × Plan)) :
    Prop where
  /-- the rows have distinct ids -/
  nodup : (rows.map Prod.fst).Nodup
  /-- a row is missing since a time only as a candidate -/
  status : ∀ rid st t, rows.lookup rid = some st → st.missingSince = some t →
    st.state = .missingCandidate
  /-- it has been absent since then -/
  since : ∀ rid st t, rows.lookup rid = some st → st.missingSince = some t →
    AbsentSince rid t history
  /-- a candidate is absent from the last read -/
  absent : ∀ rid st, rows.lookup rid = some st → st.state = .missingCandidate → ¬ o.Holds rid

section
variable {rt : ValueRuntime} {accounts : List String}

/-- One observation keeps what is known of absences. -/
theorem AbsencesKept.step {o o' : Observation} {previous : RowStates} {p' : Plan} {initializing : Bool}
    {history : List (Observation × Plan)} (hkept : AbsencesKept previous o history)
    (hreturns : NoneReturnsExcluded rt accounts previous o')
    (hplan : o'.plan rt accounts previous initializing = .ok p') :
    AbsencesKept p'.rows o' ((o', p') :: history) := by
  have hpresent : ∀ rid st, o'.Holds rid → p'.rows.lookup rid = some st →
      st.missingSince = none ∧ st.state ≠ .missingCandidate := by
    intro rid st hholds hlookup
    obtain ⟨record, hrecord, rfl⟩ := List.mem_map.mp hholds
    rw [lookup_rows_present hplan hrecord] at hlookup
    rcases outcome_present hlookup with h | ⟨hexcluded, hold, hwithout⟩
    · exact h
    · have hnot : st.state ≠ .missingCandidate := by
        intro hcandidate
        have hsome := hreturns record hrecord hexcluded st hold hcandidate
        rcases hwithout with hnone | hsettled
        · rw [hnone] at hsome
          cases hsome
        · unfold RowState.settled at hsettled
          rw [hcandidate] at hsettled
          exact absurd hsettled (by decide)
      refine ⟨?_, hnot⟩
      cases hsince : st.missingSince with
      | none => rfl
      | some t => exact absurd (hkept.status _ st t hold hsince) hnot
  have habsent : ∀ rid st, ¬ o'.Holds rid → p'.rows.lookup rid = some st →
      ∃ old, previous.lookup rid = some old ∧ st = old.absent o'.now := by
    intro rid st hnot hlookup
    rw [lookup_rows_absent hplan hnot] at hlookup
    obtain ⟨old, hold, rfl⟩ := Option.map_eq_some_iff.mp hlookup
    exact ⟨old, hold, rfl⟩
  refine ⟨nodup_rows hkept.nodup hplan, fun rid st t hlookup hsince => ?_,
    fun rid st t hlookup hsince => ?_, fun rid st hlookup hcandidate hholds => ?_⟩
  · by_cases hholds : o'.Holds rid
    · rw [(hpresent rid st hholds hlookup).1] at hsince
      cases hsince
    · obtain ⟨old, hold, rfl⟩ := habsent rid st hholds hlookup
      exact (absent_missingSince (fun t => hkept.status rid old t hold) hsince).1
  · by_cases hholds : o'.Holds rid
    · rw [(hpresent rid st hholds hlookup).1] at hsince
      cases hsince
    · obtain ⟨old, hold, rfl⟩ := habsent rid st hholds hlookup
      rcases (absent_missingSince (fun t => hkept.status rid old t hold) hsince).2 with
        hfirst | ⟨-, rfl⟩
      · obtain ⟨later, first, earlier, rfl, hnow, hfirstAbsent, hlater⟩ := hkept.since rid old t hold hfirst
        refine ⟨(o', p') :: later, first, earlier, rfl, hnow, hfirstAbsent, fun x hx => ?_⟩
        rcases List.mem_cons.mp hx with rfl | hx
        · exact hholds
        · exact hlater x hx
      · exact ⟨[], (o', p'), history, rfl, rfl, hholds, nofun⟩
  · exact (hpresent rid st hholds hlookup).2 hcandidate

theorem absencesKept_nil (o : Observation) (history : List (Observation × Plan)) :
    AbsencesKept [] o history :=
  ⟨List.nodup_nil, fun _ _ _ h => absurd h.symm (Option.some_ne_none _),
    fun _ _ _ h => absurd h.symm (Option.some_ne_none _), fun _ _ h => absurd h.symm (Option.some_ne_none _)⟩

/-- Every run keeps what is known of absences. -/
theorem Run.absencesKept {o : Observation} {p : Plan} {past : List (Observation × Plan)}
    (h : Run rt accounts (NoneReturnsExcluded rt accounts) ((o, p) :: past)) :
    AbsencesKept p.rows o ((o, p) :: past) := by
  generalize hhistory : (o, p) :: past = history at h
  induction h generalizing o p past with
  | start hplan =>
    cases hhistory
    exact (absencesKept_nil ⟨[], 0⟩ []).step (fun _ _ _ _ h => absurd h.symm (Option.some_ne_none _)) hplan
  | next hrun hmeets hplan ih =>
    cases hhistory
    exact (ih rfl).step hmeets hplan

/-- A comparison deletes no row: a present row that is deleted was so before. -/
theorem outcome_deleted {ctx : Context} {rid : String} {item : Projection} {st : RowState}
    (h : (ctx.outcome rid item).state = some st) (hdeleted : st.state = .deleted) :
    ctx.previous.lookup rid = some st := by
  unfold Context.outcome at h
  split at h
  · unfold Context.excludedOutcome at h
    simp only at h
    split at h
    · cases h
    · next row hrow =>
      split at h
      · cases h
        cases hdeleted
      · cases h
        exact hrow
  · simp only at h
    split at h <;> cases h <;> cases hdeleted

/-- A row that becomes deleted is one the plan proves deleted. -/
theorem mem_provenDeletedIds_of_state {o' : Observation} {previous : RowStates} {p' : Plan}
    (hplan : o'.plan rt accounts previous false = .ok p')
    {rid : String} {st : RowState} (hst : p'.rows.lookup rid = some st) (hdeleted : st.state = .deleted)
    (hbefore : ∀ old, previous.lookup rid = some old → old.state ≠ .deleted) :
    rid ∈ p'.provenDeletedIds := by
  by_cases hholds : o'.Holds rid
  · obtain ⟨record, hrecord, rfl⟩ := List.mem_map.mp hholds
    rw [lookup_rows_present hplan hrecord] at hst
    exact absurd hdeleted (hbefore st (outcome_deleted hst hdeleted))
  · have hrows := lookup_rows_absent hplan hholds
    rw [hst] at hrows
    obtain ⟨old, hold, rfl⟩ := Option.map_eq_some_iff.mp hrows.symm
    have hmem : (rid, old) ∈ previous := Items.mem_of_lookup hold
    unfold RowState.absent at hdeleted
    split at hdeleted
    · exact absurd hdeleted (hbefore old hold)
    · next hsettled =>
      split at hdeleted
      · next hconfirmed =>
        have hraw : (rid, old) ∈ missingRows previous (o'.records.map RawHoldingRecord.recordId) :=
          List.mem_filter.mpr ⟨hmem, decide_eq_true ⟨hholds, hsettled⟩⟩
        unfold Observation.plan observe at hplan
        simp only at hplan
        split at hplan
        · cases hplan
        · cases hplan
          rw [List.mem_insertionSort]
          exact List.mem_map.mpr ⟨(rid, old), List.mem_filter.mpr ⟨hraw, hconfirmed⟩, rfl⟩
      · cases hdeleted

/-- A record id is proved deleted, or becomes deleted, only when the read does not hold it and no
observation since one at least two seconds older, the last one included, did. Rows wait for a second
absence only when some row is absent. -/
theorem deletion_needs_two_absences {o : Observation} {p : Plan} {past : List (Observation × Plan)}
    (h : Run rt accounts (NoneReturnsExcluded rt accounts) ((o, p) :: past)) :
    (∀ rid, (rid ∈ p.provenDeletedIds ∨
        (∃ st, p.rows.lookup rid = some st ∧ st.state = .deleted) ∧
          ∀ o' p' earlier, past = (o', p') :: earlier →
            ∀ old, p'.rows.lookup rid = some old → old.state ≠ .deleted) →
      ¬ o.Holds rid ∧ ∃ later first earlier, past = later ++ first :: earlier ∧
        ¬ first.1.Holds rid ∧ (∀ x ∈ later, ¬ x.1.Holds rid) ∧ first.1.now + 2000000 ≤ o.now) ∧
      (p.hasMissingCandidates = true →
        ∃ rid st, p.rows.lookup rid = some st ∧ st.state = .missingCandidate ∧ ¬ o.Holds rid) := by
  have hcandidates : p.hasMissingCandidates = true →
      ∃ rid st, p.rows.lookup rid = some st ∧ st.state = .missingCandidate ∧ ¬ o.Holds rid := by
    intro hmissing
    have hkept := h.absencesKept
    have hany : p.rows.any (fun row => row.2.state = .missingCandidate) = true := by
      cases h with
      | start hplan => exact hasMissingCandidates_eq hplan ▸ hmissing
      | next _ _ hplan => exact hasMissingCandidates_eq hplan ▸ hmissing
    obtain ⟨⟨rid, st⟩, hrow, hcandidate⟩ := List.any_eq_true.mp hany
    have hlookup := (Items.mem_iff_lookup hkept.nodup).mp hrow
    exact ⟨rid, st, hlookup, of_decide_eq_true hcandidate,
      hkept.absent rid st hlookup (of_decide_eq_true hcandidate)⟩
  refine ⟨fun rid hrid => ?_, hcandidates⟩
  cases h with
  | start hplan =>
    -- the baseline deletes nothing
    rcases hrid with hproved | ⟨⟨st, hst, hdeleted⟩, -⟩
    · obtain ⟨-, old, hold, -⟩ := mem_provenDeletedIds hplan hproved
      cases hold
    · by_cases hholds : o.Holds rid
      · obtain ⟨record, hrecord, rfl⟩ := List.mem_map.mp hholds
        rw [lookup_rows_present hplan hrecord] at hst
        exact absurd (outcome_deleted hst hdeleted).symm (Option.some_ne_none _)
      · rw [lookup_rows_absent hplan hholds] at hst
        exact absurd hst.symm (Option.some_ne_none _)
  | @next o₁ _ p₁ _ earlier hrun hmeets hplan =>
    have hkept := hrun.absencesKept
    have hproved : rid ∈ p.provenDeletedIds := by
      rcases hrid with hproved | ⟨⟨st, hst, hdeleted⟩, hbefore⟩
      · exact hproved
      · exact mem_provenDeletedIds_of_state hplan hst hdeleted (hbefore o₁ p₁ earlier rfl)
    obtain ⟨hnot, old, hold, -, hconfirmed⟩ := mem_provenDeletedIds hplan hproved
    refine ⟨hnot, ?_⟩
    unfold RowState.confirmedAbsent at hconfirmed
    cases hsince : old.missingSince with
    | none =>
      rw [hsince] at hconfirmed
      cases hconfirmed
    | some t =>
      rw [hsince] at hconfirmed
      obtain ⟨later, first, rest, hpast, rfl, hfirst, hlater⟩ :=
        hkept.since rid old t ((Items.mem_iff_lookup hkept.nodup).mp hold) hsince
      exact ⟨later, first, rest, hpast, hfirst, hlater, of_decide_eq_true hconfirmed⟩

end

/-! ## Two histories -/

/-- The standard library on ASCII texts. -/
def asciiRuntime : ValueRuntime where
  numberText _ := ""
  lower s := String.ofList (s.toList.map Char.toLower)
  upper s := String.ofList (s.toList.map Char.toUpper)
  isAlnum := Char.isAlphanum

/-- A row of an account's only asset. -/
def monitoredRow (recordId broker : String) (quantity : Ledger.Cell) : RawHoldingRecord :=
  ⟨recordId, [("asset_id", .text "EXAMPLE"), ("account", .text "a"), ("broker", .text broker),
    ("asset_type", .text "us_stock"), ("currency", .text "USD"), ("quantity", quantity)]⟩

/-- The baseline of a read. -/
def baseline (o : Observation) : List (Observation × Plan) :=
  match o.plan asciiRuntime ["a"] [] true with
  | .ok p => [(o, p)]
  | .error _ => []

theorem run_baseline {K : RowStates → Observation → Prop} {o : Observation} (h : baseline o ≠ []) :
    Run asciiRuntime ["a"] K (baseline o) := by
  unfold baseline at h ⊢
  cases hplan : o.plan asciiRuntime ["a"] [] true with
  | ok p => exact .start hplan
  | error e =>
    rw [hplan] at h
    exact absurd rfl h

/-- What the plans of a history prove deleted and whether they have candidates, the last one first. -/
def deletions (history : List (Observation × Plan)) : List (List String × Bool) :=
  history.map fun x => (x.2.provenDeletedIds, x.2.hasMissingCandidates)

/-- A row is absent at 10 and at 12 seconds. -/
def absentTwice : List (Observation × Plan) :=
  settle asciiRuntime ["a"] [⟨[], 10000000⟩, ⟨[], 12000000⟩]
    (baseline ⟨[monitoredRow "r1" "IB" (.int 100)], 0⟩)

/-- The row is proved deleted by its second absence, after which the theorem applies. -/
theorem deletion_needs_two_absences_twice :
    ∃ o p past, absentTwice = (o, p) :: past ∧ p.provenDeletedIds = ["r1"] ∧ ¬ o.Holds "r1" ∧
      ∃ later first earlier, past = later ++ first :: earlier ∧ ¬ first.1.Holds "r1" ∧
        (∀ x ∈ later, ¬ x.1.Holds "r1") ∧ first.1.now + 2000000 ≤ o.now := by
  have hrun : Run asciiRuntime ["a"] (NoneReturnsExcluded asciiRuntime ["a"]) absentTwice := by
    refine Run.settle (fun o ho rows record hrecord => ?_) (run_baseline (by decide +kernel))
    rcases List.mem_pair.mp ho with rfl | rfl <;> cases hrecord
  have hdeleted : deletions absentTwice = [(["r1"], false), ([], true), ([], false)] := by
    decide +kernel
  cases hhistory : absentTwice with
  | nil =>
    rw [hhistory] at hdeleted
    cases hdeleted
  | cons last past =>
    obtain ⟨o, p⟩ := last
    rw [hhistory] at hrun hdeleted
    have hproved : p.provenDeletedIds = ["r1"] := (Prod.mk.inj (List.cons.inj hdeleted).1).1
    exact ⟨o, p, past, rfl, hproved, (deletion_needs_two_absences hrun).1 "r1"
      (.inl (hproved ▸ List.mem_singleton_self _))⟩

/-- A row without a quantity is absent at 10 seconds, back with the broker futu at 11 and absent at
12. -/
def backExcluded : List (Observation × Plan) :=
  settle asciiRuntime ["a"]
    [⟨[monitoredRow "r1" "IB" .null], 5000000⟩, ⟨[], 10000000⟩,
      ⟨[monitoredRow "r1" "futu" .null], 11000000⟩, ⟨[], 12000000⟩]
    (baseline ⟨[], 0⟩)

/-- The row is a candidate while the read holds it, and the next read without it deletes it: of the
reads since the one that held it, only that one is without it. -/
theorem excluded_return_keeps_the_first_absence :
    Run asciiRuntime ["a"] (fun _ _ => True) backExcluded ∧
      backExcluded.map (fun x => (x.1.now, decide (x.1.Holds "r1"), x.2.provenDeletedIds,
        x.2.hasMissingCandidates)) =
        [(12000000, false, ["r1"], false), (11000000, true, [], true), (10000000, false, [], true),
          (5000000, true, [], false), (0, false, [], false)] :=
  ⟨Run.settle (fun _ _ _ => trivial) (run_baseline (by decide +kernel)), by decide +kernel⟩

end PortfolioManagement.Monitor
