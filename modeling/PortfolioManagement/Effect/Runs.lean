import PortfolioManagement.Effect.Follows.Calls

/-!
# Invariants of runs

A run is a sequence of edits by third parties and of calls; each call takes the durable state along
`Move`. `run_invariant` is the induction every property of runs goes through: what holds at first,
what edits keep, and what the moves of each call keep, holds in every state the run reaches. The
conditions under which a property holds are conditions on the steps of the run, each in the state it
starts from (`Meets`). `Begun` is what the journal says about versions in every such state.
-/

namespace PortfolioManagement

open Relation (ReflTransGen)

/-! ## Steps of a run -/

/-- While the call of a step runs, third parties make only changes `E` allows it. -/
def Step.EditsWithin (E : Call → Remote → Remote → Prop) : Step → Prop
  | .edit _ => True
  | .call c ticks _ => ∀ t ∈ ticks, ∀ r, E c r (t.edit r)

/-- Third parties may do anything. -/
def anyEdit : Call → Remote → Remote → Prop := fun _ _ _ => True

theorem Step.editsWithin_any (step : Step) : step.EditsWithin anyEdit := by
  cases step <;> simp [Step.EditsWithin, anyEdit]

/-- Every step of a run meets a condition in the state it starts from. -/
def Meets (K : Durable → Step → Prop) : World → List Step → Prop
  | _, [] => True
  | w, step :: rest => K w.toDurable step ∧ Meets K (step.next w) rest

theorem Meets.any (w : World) (steps : List Step) : Meets (fun _ _ => True) w steps := by
  induction steps generalizing w with
  | nil => trivial
  | cons step rest ih => exact ⟨trivial, ih _⟩

/-- A call takes the durable state along the moves of its context. -/
theorem call_moves {E : Call → Remote → Remote → Prop} {c : Call} {ticks : List Tick}
    {outcomes : List Outcome} {w : World} (hedits : (Step.call c ticks outcomes).EditsWithin E)
    (hu : UnresolvedLatest w.db.effects) :
    ReflTransGen (Move (c.context (E c) w.toDurable.start)) w.toDurable.start
      (Step.next w (.call c ticks outcomes)).toDurable := by
  have hready : Ready (c.context (E c) w.toDurable.start) (w.start ticks outcomes) :=
    ⟨hedits, .refl⟩
  have hpath := (c.follows (E c) w.toDurable.start (w.start ticks outcomes) ⟨hready, rfl, hu⟩).1
  exact hpath.lift' World.toDurable fun _ _ h => h

/-- The induction over runs. -/
theorem run_invariant {E : Call → Remote → Remote → Prop} {K : Durable → Step → Prop}
    {I : Durable → Prop} {w : World} {steps : List Step}
    (hedits : ∀ d step, K d step → step.EditsWithin E)
    (hedit : ∀ d r, I d → K d (.edit r) → I { d with remote := r })
    (hcall : ∀ d c ticks outcomes d', I d → UnresolvedLatest d.db.effects →
      K d (.call c ticks outcomes) →
      ReflTransGen (Move (c.context (E c) d.start)) d.start d' → I d')
    (hmeets : Meets K w steps) (hu : UnresolvedLatest w.db.effects) (h0 : I w.toDurable) :
    I (runSteps w steps).toDurable ∧ UnresolvedLatest (runSteps w steps).db.effects := by
  induction steps generalizing w with
  | nil => exact ⟨h0, hu⟩
  | cons step rest ih =>
    obtain ⟨hK, hmeets⟩ := hmeets
    refine ih hmeets ?_ ?_
    · cases step with
      | edit r => exact hu
      | call c ticks outcomes =>
        exact TableStep.unresolvedLatest_path
          (Move.table_path (call_moves (hedits _ _ hK) hu)) hu
    · cases step with
      | edit r => exact hedit _ r h0 hK
      | call c ticks outcomes =>
        exact hcall _ c ticks outcomes _ h0 hu hK (call_moves (hedits _ _ hK) hu)

theorem World.Initial.unresolvedLatest {w : World} (h : w.Initial) :
    UnresolvedLatest w.db.effects := by
  intro e he
  rw [h.effects] at he
  cases he

/-- An invariant that does not speak of the remote side and that every move keeps holds in every
state of every run. -/
theorem run_move_invariant {I : Durable → Prop} {w : World} (steps : List Step)
    (hremote : ∀ d r earlier, I d → I { d with remote := r, earlier := earlier })
    (hmove : ∀ C d d', Move C d d' → I d → I d') (hinit : w.Initial) (h0 : I w.toDurable) :
    I (runSteps w steps).toDurable := by
  refine (run_invariant (E := anyEdit) (fun _ step _ => step.editsWithin_any)
    (fun d r h _ => hremote d r d.earlier h) (fun d c _ _ d' h _ _ hpath => ?_) (Meets.any w steps)
    hinit.unresolvedLatest h0).1
  exact Prog.path_invariant (hmove _) hpath (hremote d d.remote [] h)

/-! ## What the journal says -/

/-- A version the journal says began is in the table, unchanged in what identifies it, and not idle
any more. -/
def Begun (d : Durable) : Prop :=
  ∀ e payload planned, .began e payload planned ∈ d.journal →
    ∃ a, d.db.effects.get e.id = some a ∧ SameVersion e a ∧ a.state ∉ EffectState.idle

theorem SameVersion.trans {a b c : Effect} (h : SameVersion a b) (h' : SameVersion b c) :
    SameVersion a c :=
  ⟨h'.id.trans h.id, h'.kind.trans h.kind, h'.version.trans h.version, h'.source.trans h.source,
    h'.mode.trans h.mode⟩

theorem Move.begun {C : CallContext} {d d' : Durable} (h : Move C d d') (hb : Begun d) :
    Begun d' := by
  intro e payload planned hmem
  have hold : .began e payload planned ∈ d.journal → ∃ a, d'.db.effects.get e.id = some a ∧
      SameVersion e a ∧ a.state ∉ EffectState.idle := by
    intro hold
    obtain ⟨a, ha, hsame, hs⟩ := hb e payload planned hold
    obtain ⟨a', ha', hturns⟩ := TableStep.turn_path h.table ha
    exact ⟨a', ha', hsame.trans (same_of_turns hturns), not_idle_of_turns hturns hs⟩
  rcases h.journal_step with hsame | ⟨entry, hadd⟩
  · exact hold (hsame ▸ hmem)
  rw [hadd] at hmem
  rcases List.mem_cons.mp hmem with rfl | hmem
  · obtain ⟨hlatest, -, -, -, -, -, f, event, rfl, hstate⟩ := h.began hadd
    refine ⟨e.withColumns f, EffectTable.get_modify_self (EffectTable.get_of_latest hlatest),
      ⟨rfl, rfl, rfl, rfl, rfl⟩, ?_⟩
    rw [Effect.state_withColumns, hstate]
    decide
  · exact hold hmem

theorem Move.begun_path {C : CallContext} {d d' : Durable} (h : ReflTransGen (Move C) d d')
    (hb : Begun d) : Begun d' :=
  Prog.path_invariant (I := Begun) (fun _ _ => Move.begun) h hb

/-- A version begins once. -/
theorem Begun.not_latest {d : Durable} (h : Begun d) {e e' : Effect} {payload : PreviewPayload}
    {planned : List PlannedTarget} (hmem : .began e' payload planned ∈ d.journal)
    (hid : e'.id = e.id) (hget : d.db.effects.get e.id = some e) : e.state ∉ EffectState.idle := by
  obtain ⟨a, ha, -, hs⟩ := h e' payload planned hmem
  rw [hid, hget] at ha
  cases ha
  exact hs

/-! ## A small ledger -/

/-- A completed manual row in CNY. -/
def manualFlow (id account broker : String) (date : Date) (amount : Cents) : CashFlow where
  recordId := id
  flowDate := some date
  account := some account
  broker := some broker
  amount := some amount
  currency := some "CNY"
  cnyAmount := some amount
  exchangeRate := some 1
  flowType := some (CashFlowType.ofAmount amount).value
  dedupKey := some (.hash (.of ⟨account, broker, date, .ofAmount amount, amount, .cny⟩))
  source := some "manual"
  remark := none
  updatedAt := none

/-- A CNY holding. -/
def cnyCash (recordId : Nat) (account broker : String) (quantity : Rat) : Holding where
  recordId := recordId
  identity := ⟨"CNY-CASH", account, broker⟩
  values := ⟨"人民币现金", .cash, quantity, none, "CNY", some .cash, some .cash, []⟩
  createdAt := some 1
  updatedAt := some 1

/-- Account `a` holds 50.00 at broker `b`, and the ledger has no row yet. -/
def smallRemote : Remote where
  ledger := []
  holdings := ⟨[cnyCash 1 "a" "b" 50], by decide⟩
  navs := []
  previousBusinessDay := fun day => some (day - 1)
  futu := fun _ => none
  today := 100
  configuredCutover := some 10

/-- The service before its first call. -/
def smallWorld : World := .idle (.init 10) smallRemote

theorem smallWorld_initial : smallWorld.Initial := ⟨rfl, rfl, rfl, rfl⟩

/-- Someone replaces the rows of the ledger. -/
def World.editLedger (w : World) (flows : List CashFlow) : World :=
  Step.next w (.edit { w.remote with ledger := flows })

/-- A call in which nothing goes wrong. -/
def World.call (w : World) (c : Call) : World := Step.next w (.call c [] [])

end PortfolioManagement
