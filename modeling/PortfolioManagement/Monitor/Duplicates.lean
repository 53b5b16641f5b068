import PortfolioManagement.Lib.Keyed
import PortfolioManagement.Monitor.Deletion

/-!
# Rows of one identity

`duplicate_holding_groups` groups the rows of a read by their complete identity. `observe` takes the
rows of a group for duplicates when one of them can be compared or is tracked. So two rows of one
identity of which one can be compared are duplicates (`isDuplicate_of_eligible`), and a row that is no
duplicate becomes one only when a row of its group gets tracked.
-/

namespace PortfolioManagement.Monitor

section
variable (rt : ValueRuntime) (accounts : List String)

/-- The rows of a complete identity. -/
def sharing (records : List RawHoldingRecord) (key : Identity) : List RawHoldingRecord :=
  records.filter fun record => groupIdentity rt record = some key

/-- A row that can be compared or is tracked. -/
def Watched (previous : RowStates) (record : RawHoldingRecord) : Prop :=
  (projectRecord rt accounts record).eligible = true ∨ (previous.lookup record.recordId).isSome = true

/-- A row that shares its complete identity with another row of the read. -/
def Shared (records : List RawHoldingRecord) (record : RawHoldingRecord) : Prop :=
  ∃ key, groupIdentity rt record = some key ∧ 1 < (sharing rt records key).length

/-- A row of a group with a watched member. -/
def IsDuplicate (records : List RawHoldingRecord) (previous : RowStates) (record : RawHoldingRecord) :
    Prop :=
  Shared rt records record ∧ ∃ member ∈ records,
    groupIdentity rt member = groupIdentity rt record ∧ Watched rt accounts previous member

end

section
variable {rt : ValueRuntime} {accounts : List String} {records : List RawHoldingRecord}
  {previous : RowStates}

theorem duplicateHoldingGroups_eq : duplicateHoldingGroups rt records =
    (collect (groupIdentity rt) records).filter fun group => 1 < group.2.length := by
  unfold duplicateHoldingGroups collect
  simp only
  congr 2
  funext grouped record
  cases groupIdentity rt record <;> rfl

/-- The groups are the rows of an identity that more than one row has. -/
theorem mem_duplicateHoldingGroups {key : Identity} {members : List RawHoldingRecord} :
    (key, members) ∈ duplicateHoldingGroups rt records ↔
      members = sharing rt records key ∧ 1 < (sharing rt records key).length := by
  rw [duplicateHoldingGroups_eq, List.mem_filter, mem_collect]
  constructor
  · rintro ⟨⟨rfl, -⟩, hlength⟩
    exact ⟨rfl, of_decide_eq_true hlength⟩
  · rintro ⟨rfl, hlength⟩
    exact ⟨⟨rfl, List.ne_nil_of_length_pos (Nat.zero_lt_of_lt hlength)⟩, decide_eq_true hlength⟩

/-- Of rows with distinct ids those of the watched groups are duplicates. -/
theorem mem_duplicateIds (hnodup : (records.map RawHoldingRecord.recordId).Nodup)
    {record : RawHoldingRecord} (hrecord : record ∈ records) :
    record.recordId ∈ duplicateIds rt accounts records previous (duplicateHoldingGroups rt records) ↔
      IsDuplicate rt accounts records previous record := by
  have hwatched : ∀ member ∈ records, ((records.any fun row =>
      row.recordId = member.recordId && (projectRecord rt accounts row).eligible) ||
      (previous.lookup member.recordId).isSome) = true ↔ Watched rt accounts previous member := by
    intro member hmember
    rw [Bool.or_eq_true]
    refine or_congr ?_ Iff.rfl
    constructor
    · intro h
      obtain ⟨row, hrow, htest⟩ := List.any_eq_true.mp h
      obtain ⟨hid, heligible⟩ := (Bool.and_eq_true _ _).mp htest
      exact eq_of_key_eq hnodup hrow hmember (of_decide_eq_true hid) ▸ heligible
    · intro h
      refine List.any_eq_true.mpr ⟨member, hmember, ?_⟩
      rw [h, decide_eq_true rfl]
      rfl
  unfold duplicateIds
  rw [List.mem_flatMap]
  constructor
  · rintro ⟨⟨key, members⟩, hgroup, hid⟩
    obtain ⟨hmem, hany⟩ := List.mem_filter.mp hgroup
    obtain ⟨rfl, hlength⟩ := mem_duplicateHoldingGroups.mp hmem
    obtain ⟨own, hown, hid⟩ := List.mem_map.mp hid
    obtain ⟨hownRecord, hownKey⟩ := List.mem_filter.mp hown
    cases eq_of_key_eq hnodup hownRecord hrecord hid
    obtain ⟨member, hmember, htest⟩ := List.any_eq_true.mp hany
    obtain ⟨hmemberRecord, hmemberKey⟩ := List.mem_filter.mp hmember
    have hownKey := of_decide_eq_true hownKey
    exact ⟨⟨key, hownKey, hlength⟩, member, hmemberRecord,
      (of_decide_eq_true hmemberKey).trans hownKey.symm, (hwatched member hmemberRecord).mp htest⟩
  · rintro ⟨⟨key, hkey, hlength⟩, member, hmember, hsame, htest⟩
    have hmemberKey := hsame.trans hkey
    refine ⟨(key, sharing rt records key), List.mem_filter.mpr ⟨?_, ?_⟩, ?_⟩
    · exact mem_duplicateHoldingGroups.mpr ⟨rfl, hlength⟩
    · exact List.any_eq_true.mpr ⟨member, List.mem_filter.mpr ⟨hmember, decide_eq_true hmemberKey⟩,
        (hwatched member hmember).mpr htest⟩
    · exact List.mem_map_of_mem (List.mem_filter.mpr ⟨hrecord, decide_eq_true hkey⟩)

/-- A row with all identity fields is grouped under its identity. -/
theorem groupIdentity_of_identified {record : RawHoldingRecord}
    (h : (projectSnapshot rt record).identified = true) :
    groupIdentity rt record = some (identity (some (projectSnapshot rt record))) := by
  unfold HoldingSnapshot.identified at h
  simp only [Bool.and_eq_true] at h
  obtain ⟨assetId, hassetId⟩ := Option.isSome_iff_exists.mp h.1.1
  obtain ⟨account, haccount⟩ := Option.isSome_iff_exists.mp h.1.2
  obtain ⟨broker, hbroker⟩ := Option.isSome_iff_exists.mp h.2
  have hidentity : identity (some (projectSnapshot rt record)) = (assetId, account, broker) := by
    unfold identity
    simp only [hassetId, haccount, hbroker, Option.getD_some]
  rw [hidentity]
  simp only [projectSnapshot] at hassetId haccount hbroker
  unfold groupIdentity
  rw [hassetId, haccount, hbroker]

theorem eligible_iff {item : Projection} :
    item.eligible = true ↔ item.excluded = false ∧ item.reason = none := by
  unfold Projection.eligible
  rw [Bool.and_eq_true, Bool.not_eq_true', Option.isNone_iff_eq_none]

/-- A row without a problem has no reason either. -/
theorem reason_eq_none {ctx : Context} {rid : String} {item : Projection}
    (h : ctx.rowProblem rid item = none) : item.reason = none := by
  unfold Context.rowProblem at h
  cases hreason : item.reason with
  | none => rfl
  | some reason =>
    rw [hreason] at h
    simp only at h
    split at h <;> split at h <;> cases h

/-- A row that can be compared is identified and has a quantity that is not negative. -/
theorem eligible_facts {record : RawHoldingRecord}
    (h : (projectRecord rt accounts record).eligible = true) :
    (projectSnapshot rt record).identified = true ∧
      ∃ q, (projectSnapshot rt record).quantity = some q ∧ 0 ≤ q := by
  obtain ⟨hexcluded, hreason⟩ := eligible_iff.mp h
  have hproblem : snapshotProblem rt (projectSnapshot rt record) = none := by
    simp only [projectRecord] at hexcluded hreason
    rw [hexcluded] at hreason
    exact hreason
  unfold snapshotProblem at hproblem
  split at hproblem
  · cases hproblem
  · next hcomplete =>
    simp only [not_or, not_not] at hcomplete
    refine ⟨hcomplete.1, ?_⟩
    split at hproblem
    · cases hproblem
    · split at hproblem
      · cases hproblem
      · split at hproblem
        · cases hproblem
        · next q hq =>
          split at hproblem
          · cases hproblem
          · next hnegative => exact ⟨q, hq, not_lt.mp hnegative⟩

/-- Two rows that can be compared and have one identity are duplicates. -/
theorem isDuplicate_of_eligible {record other : RawHoldingRecord} (hrecord : record ∈ records)
    (hother : other ∈ records) (hne : record ≠ other)
    (heligible : (projectRecord rt accounts record).eligible = true)
    (hotherEligible : (projectRecord rt accounts other).eligible = true)
    (hsame : identity (some (projectSnapshot rt record)) = identity (some (projectSnapshot rt other))) :
    IsDuplicate rt accounts records previous record := by
  have hkey := groupIdentity_of_identified (eligible_facts heligible).1
  have hotherKey := groupIdentity_of_identified (eligible_facts hotherEligible).1
  refine ⟨⟨_, hkey, ?_⟩, record, hrecord, rfl, .inl heligible⟩
  have hmem : record ∈ sharing rt records (identity (some (projectSnapshot rt record))) :=
    List.mem_filter.mpr ⟨hrecord, decide_eq_true hkey⟩
  have hotherMem : other ∈ sharing rt records (identity (some (projectSnapshot rt record))) :=
    List.mem_filter.mpr ⟨hother, decide_eq_true (hsame ▸ hotherKey)⟩
  cases hsharing : sharing rt records (identity (some (projectSnapshot rt record))) with
  | nil =>
    rw [hsharing] at hmem
    cases hmem
  | cons first rest =>
    cases rest with
    | cons second rest => simp
    | nil =>
      rw [hsharing, List.mem_singleton] at hmem hotherMem
      exact absurd (hmem.trans hotherMem.symm) hne

end

end PortfolioManagement.Monitor
