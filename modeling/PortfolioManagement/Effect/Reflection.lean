import PortfolioManagement.Effect.Preview
import PortfolioManagement.Effect.Runs

/-!
# What the detection of a reflected flow says

`_detect_reflection_action` folds the CASH identities of a cash flow into one action. An identity whose
fresh amount is neither its baseline nor its baseline with the net delta takes no part in the fold: it
stops the action only when no other identity takes part, or when the others disagree.
-/

namespace PortfolioManagement

/-- `_detect_reflection_action` of operations of which some have no delta, and of a fresh snapshot. -/
def detectReflectionAction (db : Db) (operations : List (Source × Option Cents))
    (holdings : List (String × Option Holding)) : Option Reflection :=
  detectedAction (detectionRows db
    (operations.filterMap fun op => op.2.map fun delta => (op.1, delta)) holdings)

/-! ## The sides of a row -/

namespace DetectionRow

/-- The fresh amount is the baseline. -/
def AtBaseline (row : DetectionRow) : Prop := row.baseline = some row.current

/-- The fresh amount is the baseline with the net delta. -/
def AtExpected (row : DetectionRow) : Prop :=
  ∃ baseline, row.baseline = some baseline ∧ row.current = baseline + row.delta

/-- The fresh amount is on neither side. -/
def Unmatched (row : DetectionRow) : Prop := ¬ row.AtBaseline ∧ ¬ row.AtExpected

variable {row : DetectionRow}

theorem decision_alreadyReflected : row.decision = some .alreadyReflected ↔ row.AtExpected := by
  unfold decision AtExpected
  cases row.baseline with
  | none => simp
  | some baseline =>
    by_cases hexpected : row.current = baseline + row.delta
    · simp [hexpected]
    · by_cases hbaseline : row.current = baseline <;> simp [hexpected, hbaseline]

theorem decision_applyDelta : row.decision = some .applyDelta ↔ row.AtBaseline ∧ ¬ row.AtExpected := by
  unfold decision AtBaseline AtExpected
  cases row.baseline with
  | none => simp
  | some baseline =>
    by_cases hexpected : row.current = baseline + row.delta
    · simp [hexpected]
    · simp [hexpected, eq_comm]

theorem decision_none : row.decision = none ↔ row.Unmatched := by
  unfold Unmatched
  rw [← decision_alreadyReflected]
  constructor
  · intro hnone
    rw [hnone]
    refine ⟨fun hbaseline => ?_, nofun⟩
    have happly := decision_applyDelta.mpr ⟨hbaseline, by rw [← decision_alreadyReflected, hnone]; nofun⟩
    rw [hnone] at happly
    cases happly
  · rintro ⟨hbaseline, hexpected⟩
    cases hdecision : row.decision with
    | none => rfl
    | some found =>
      cases found with
      | alreadyReflected => exact absurd hdecision hexpected
      | applyDelta => exact absurd (decision_applyDelta.mp hdecision).1 hbaseline

end DetectionRow

/-! ## The fold -/

section
variable {rows : List DetectionRow} {found : Reflection}

/-- An action was found: every row has a baseline, some row decides for it, and none against it. -/
theorem detectedAction_eq_some : detectedAction rows = some found ↔
    (∀ row ∈ rows, row.baseline.isSome) ∧ (∃ row ∈ rows, row.decision = some found) ∧
      ∀ row ∈ rows, row.decision = none ∨ row.decision = some found := by
  have hmem : ∀ d, d ∈ rows.filterMap DetectionRow.decision ↔ ∃ row ∈ rows, row.decision = some d :=
    fun d => List.mem_filterMap
  unfold detectedAction
  by_cases hall : (rows.all fun row => row.baseline.isSome) = true
  · rw [if_pos hall]
    rw [List.all_eq_true] at hall
    cases hdecisions : rows.filterMap DetectionRow.decision with
    | nil =>
      rw [hdecisions] at hmem
      refine ⟨nofun, fun ⟨_, hrow, _⟩ => ?_⟩
      cases (hmem found).mpr hrow
    | cons first rest =>
      rw [hdecisions] at hmem
      constructor
      · intro hfound
        obtain ⟨hagree, rfl⟩ : (∀ d ∈ rest, d = first) ∧ first = found := by simpa using hfound
        refine ⟨hall, (hmem first).mp List.mem_cons_self, fun row hrow => ?_⟩
        cases hd : row.decision with
        | none => exact .inl rfl
        | some d =>
          rcases List.mem_cons.mp ((hmem d).mpr ⟨row, hrow, hd⟩) with rfl | hrest
          · exact .inr rfl
          · exact .inr (congrArg some (hagree d hrest))
      · rintro ⟨-, -, hagree⟩
        have heq : ∀ d ∈ first :: rest, d = found := by
          intro d hd
          obtain ⟨row, hrow, hdecision⟩ := (hmem d).mp hd
          rcases hagree row hrow with hnone | hsome
          · rw [hdecision] at hnone
            cases hnone
          · rw [hdecision] at hsome
            exact Option.some.inj hsome
        obtain rfl := heq first List.mem_cons_self
        simpa using fun d hd => heq d (List.mem_cons_of_mem _ hd)
  · rw [if_neg hall]
    refine ⟨nofun, fun ⟨hsome, _⟩ => absurd (List.all_eq_true.mpr hsome) hall⟩

end

/-! ## Per identity -/

section
variable (db : Db) (operations : List (Source × Option Cents)) (holdings : List (String × Option Holding))

/-- The operations that count: those with a delta. -/
def countedOperations : List (Source × Cents) :=
  operations.filterMap fun op => op.2.map fun delta => (op.1, delta)

/-- The identities the detection decides about. -/
def involvedIdentities : List String := operationIdentities (countedOperations operations)

/-- The fresh amount of an identity. -/
def freshAmount (identity : String) : Cents :=
  holdingAmount ((holdings.find? fun h => h.1 = identity).bind Prod.snd)

/-- The fresh amount of an identity is its baseline. -/
def AtBaseline (identity : String) : Prop :=
  detectionBaseline db identity = some (freshAmount holdings identity)

/-- The fresh amount of an identity is its baseline with its net delta. -/
def AtExpected (identity : String) : Prop :=
  ∃ baseline, detectionBaseline db identity = some baseline ∧
    freshAmount holdings identity = baseline + operationNet (countedOperations operations) identity

/-- The fresh amount of an identity is on neither side. -/
def MatchesNeither (identity : String) : Prop :=
  ¬ AtBaseline db holdings identity ∧ ¬ AtExpected db operations holdings identity

/-- What the detection is to promise of every involved identity. -/
structure PerIdentity (action : Option Reflection) : Prop where
  /-- a delta is to be applied: every amount is its baseline -/
  applyDelta : action = some .applyDelta →
    ∀ identity ∈ involvedIdentities operations, AtBaseline db holdings identity
  /-- a delta is already reflected: every amount is its baseline with its net delta -/
  alreadyReflected : action = some .alreadyReflected →
    ∀ identity ∈ involvedIdentities operations, AtExpected db operations holdings identity
  /-- an identity on neither side stops the action -/
  veto : (∃ identity ∈ involvedIdentities operations, MatchesNeither db operations holdings identity) →
    action = none

/-- When no identity on neither side slips through: some identity has no baseline, or none is on neither
side, or all are, or two of the others are on different sides. -/
def VetoHeard : Prop :=
  (∃ identity ∈ involvedIdentities operations, detectionBaseline db identity = none) ∨
    (∀ identity ∈ involvedIdentities operations, ¬ MatchesNeither db operations holdings identity) ∨
    (∀ identity ∈ involvedIdentities operations, MatchesNeither db operations holdings identity) ∨
    ((∃ identity ∈ involvedIdentities operations, AtExpected db operations holdings identity) ∧
      ∃ identity ∈ involvedIdentities operations,
        AtBaseline db holdings identity ∧ ¬ AtExpected db operations holdings identity)

end

/-- The row of an identity. -/
def detectionRow (db : Db) (operations : List (Source × Option Cents))
    (holdings : List (String × Option Holding)) (identity : String) : DetectionRow where
  identity := identity
  current := freshAmount holdings identity
  baseline := detectionBaseline db identity
  delta := operationNet (countedOperations operations) identity

section
variable {db : Db} {operations : List (Source × Option Cents)}
  {holdings : List (String × Option Holding)}

/-- The action of the identities' rows. -/
theorem detectReflectionAction_eq : detectReflectionAction db operations holdings =
    detectedAction ((involvedIdentities operations).map (detectionRow db operations holdings)) := rfl

/-- An action was found: every identity has a baseline, some identity decides for it, and none against
it. -/
theorem detectReflectionAction_eq_some {found : Reflection} :
    detectReflectionAction db operations holdings = some found ↔
      (∀ identity ∈ involvedIdentities operations, (detectionBaseline db identity).isSome) ∧
      (∃ identity ∈ involvedIdentities operations,
        (detectionRow db operations holdings identity).decision = some found) ∧
      ∀ identity ∈ involvedIdentities operations,
        (detectionRow db operations holdings identity).decision = none ∨
          (detectionRow db operations holdings identity).decision = some found := by
  rw [detectReflectionAction_eq, detectedAction_eq_some]
  simp only [List.forall_mem_map]
  simp only [List.mem_map, exists_exists_and_eq_and]
  rfl

/-- Only a veto that is not heard can break the promise. -/
theorem perIdentity_iff_veto :
    PerIdentity db operations holdings (detectReflectionAction db operations holdings) ↔
      ((∃ identity ∈ involvedIdentities operations, MatchesNeither db operations holdings identity) →
        detectReflectionAction db operations holdings = none) := by
  refine ⟨PerIdentity.veto, fun hveto => ⟨fun happly identity hmem => ?_,
    fun hreflected identity hmem => ?_, hveto⟩⟩
  · have hmatched : ¬ MatchesNeither db operations holdings identity := fun hneither => by
      rw [hveto ⟨identity, hmem, hneither⟩] at happly
      cases happly
    rcases (detectReflectionAction_eq_some.mp happly).2.2 identity hmem with hnone | hdecision
    · exact absurd (DetectionRow.decision_none.mp hnone) hmatched
    · exact (DetectionRow.decision_applyDelta.mp hdecision).1
  · have hmatched : ¬ MatchesNeither db operations holdings identity := fun hneither => by
      rw [hveto ⟨identity, hmem, hneither⟩] at hreflected
      cases hreflected
    rcases (detectReflectionAction_eq_some.mp hreflected).2.2 identity hmem with hnone | hdecision
    · exact absurd (DetectionRow.decision_none.mp hnone) hmatched
    · exact DetectionRow.decision_alreadyReflected.mp hdecision

theorem VetoHeard.veto (hheard : VetoHeard db operations holdings)
    (hneither : ∃ identity ∈ involvedIdentities operations,
      MatchesNeither db operations holdings identity) :
    detectReflectionAction db operations holdings = none := by
  cases haction : detectReflectionAction db operations holdings with
  | none => rfl
  | some found =>
    obtain ⟨hbaselines, ⟨decider, hdecider, hdecided⟩, hagree⟩ :=
      detectReflectionAction_eq_some.mp haction
    rcases hheard with ⟨identity, hmem, hnone⟩ | hmatched | hall | ⟨⟨a, ha, hexpected⟩, b, hb, hbaseline⟩
    · have hsome := hbaselines identity hmem
      rw [hnone] at hsome
      cases hsome
    · obtain ⟨identity, hmem, hunmatched⟩ := hneither
      exact absurd hunmatched (hmatched identity hmem)
    · have hnone : (detectionRow db operations holdings decider).decision = none :=
        DetectionRow.decision_none.mpr (hall decider hdecider)
      rw [hnone] at hdecided
      cases hdecided
    · -- the two identities decide differently, and the action agrees with both
      have hreflected : (detectionRow db operations holdings a).decision = some .alreadyReflected :=
        DetectionRow.decision_alreadyReflected.mpr hexpected
      have happly : (detectionRow db operations holdings b).decision = some .applyDelta :=
        DetectionRow.decision_applyDelta.mpr hbaseline
      rcases hagree a ha with h | h <;> rw [hreflected] at h <;> cases h
      rcases hagree b hb with h | h <;> rw [happly] at h <;> cases h

/-- Past a veto that is not heard an action is found. -/
theorem found_of_not_heard (hunheard : ¬ VetoHeard db operations holdings) :
    (∃ identity ∈ involvedIdentities operations, MatchesNeither db operations holdings identity) ∧
      ∃ found, detectReflectionAction db operations holdings = some found := by
  unfold VetoHeard at hunheard
  push Not at hunheard
  obtain ⟨hbaselines, hneither, ⟨decider, hdecider, hmatched⟩, hsides⟩ := hunheard
  refine ⟨hneither, ?_⟩
  have hsome : ∀ identity ∈ involvedIdentities operations, (detectionBaseline db identity).isSome :=
    fun identity hmem => Option.isSome_iff_ne_none.mpr (hbaselines identity hmem)
  cases hdecision : (detectionRow db operations holdings decider).decision with
  | none => exact absurd (DetectionRow.decision_none.mp hdecision) hmatched
  | some found =>
    refine ⟨found, detectReflectionAction_eq_some.mpr
      ⟨hsome, ⟨decider, hdecider, hdecision⟩, fun identity hmem => ?_⟩⟩
    cases hd : (detectionRow db operations holdings identity).decision with
    | none => exact .inl rfl
    | some other =>
      cases found with
      | alreadyReflected =>
        cases other with
        | alreadyReflected => exact .inr rfl
        | applyDelta =>
          have hexpected := DetectionRow.decision_alreadyReflected.mp hdecision
          obtain ⟨hbaseline, hnot⟩ := DetectionRow.decision_applyDelta.mp hd
          exact absurd (hsides ⟨decider, hdecider, hexpected⟩ identity hmem hbaseline) hnot
      | applyDelta =>
        cases other with
        | applyDelta => exact .inr rfl
        | alreadyReflected =>
          have hexpected := DetectionRow.decision_alreadyReflected.mp hd
          obtain ⟨hbaseline, hnot⟩ := DetectionRow.decision_applyDelta.mp hdecision
          exact absurd (hsides ⟨identity, hmem, hexpected⟩ decider hdecider hbaseline) hnot

/-- The detection keeps its promise of every identity exactly when no identity on neither side slips
through. -/
theorem detection_perIdentity_iff (db : Db) (operations : List (Source × Option Cents))
    (holdings : List (String × Option Holding)) :
    PerIdentity db operations holdings (detectReflectionAction db operations holdings) ↔
      VetoHeard db operations holdings := by
  rw [perIdentity_iff_veto]
  constructor
  · intro hveto
    by_contra hunheard
    obtain ⟨hneither, found, hfound⟩ := found_of_not_heard hunheard
    rw [hveto hneither] at hfound
    cases hfound
  · exact VetoHeard.veto

end

/-! ## An identity that slips through -/

/-- The source of a flow of account `a` at a broker. -/
def flowAt (broker : String) : Source :=
  let flow := manualFlow "r" "a" broker 20 5000
  (sourceFromCashFlow flow).toOption.getD (.raw flow)

/-- A deposit of 50.00 was recorded at broker `b` and is moved to broker `c`. -/
def movedDeposit : List (Source × Option Cents) := [(flowAt "b", some (-5000)), (flowAt "c", some 5000)]

/-- Broker `b` was confirmed with 100.00, broker `c` with 30.00. -/
def confirmedBrokers : Db :=
  let row : Option Holding := none
  ((Db.init 10).confirm "CNY-CASH|a|b" none 10000 (holdingHash row) none).confirm
    "CNY-CASH|a|c" none 3000 (holdingHash row) none

/-- Broker `b` still has 100.00; a purchase at broker `c` left neither 30.00 nor 80.00. -/
def brokersNow : List (String × Option Holding) :=
  [("CNY-CASH|a|b", some (cnyCash 1 "a" "b" 100)), ("CNY-CASH|a|c", some (cnyCash 2 "a" "c" 45))]

/-- The delta is to be applied to both brokers, although the amount of `c` is on neither side. -/
theorem unmatched_broker_slips_through :
    detectReflectionAction confirmedBrokers movedDeposit brokersNow = some .applyDelta ∧
      ¬ PerIdentity confirmedBrokers movedDeposit brokersNow
        (detectReflectionAction confirmedBrokers movedDeposit brokersNow) := by
  have haction : detectReflectionAction confirmedBrokers movedDeposit brokersNow = some .applyDelta := by
    decide +kernel
  refine ⟨haction, fun hpromise => ?_⟩
  have hinvolved : "CNY-CASH|a|c" ∈ involvedIdentities movedDeposit := by decide +kernel
  have hbaseline := hpromise.applyDelta haction _ hinvolved
  have hbaselines : detectionBaseline confirmedBrokers "CNY-CASH|a|c" ≠
      some (freshAmount brokersNow "CNY-CASH|a|c") := by decide +kernel
  exact hbaselines hbaseline

end PortfolioManagement
