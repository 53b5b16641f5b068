import PortfolioManagement.Effect.Runs

/-!
# What binds a holding write

A confirmation writes what its hash names. It computes the preview again from fresh reads, compares
the hash with the operator's, and takes only a previewed version to `applying`; the targets it then
writes are compared with the bases the hash covers. The hash stored with the previewed version is
not looked at: the operator may confirm any hash the confirmation itself arrives at.
-/

namespace PortfolioManagement

open Relation (ReflTransGen)

/-! ## Previewed versions -/

/-- Every previewed version has its preview among the events. -/
def PreviewLogged (db : Db) : Prop :=
  ∀ e ∈ db.effects.rows, e.state = .previewed →
    ∃ hash action historical, ⟨e.id, .previewed hash action historical⟩ ∈ db.events

section
variable {db : Db}

theorem PreviewLogged.update (h : PreviewLogged db) {e : Effect}
    {f : EffectColumns → EffectColumns} {event : EventBody} (hget : db.effects.get e.id = some e)
    (hnew : (f e.columns).state = .previewed → e.state = .previewed ∨
      ∃ hash action historical, event = .previewed hash action historical) :
    PreviewLogged (db.update e.id f event) := by
  intro a ha hs
  have hold : ∀ b ∈ db.effects.rows, b.state = .previewed →
      ∃ hash action historical, ⟨b.id, .previewed hash action historical⟩ ∈
        (db.update e.id f event).events := by
    intro b hb hs
    obtain ⟨hash, action, historical, hmem⟩ := h b hb hs
    exact ⟨hash, action, historical, List.mem_cons_of_mem _ hmem⟩
  rw [effects_update, EffectTable.rows_modify] at ha
  obtain ⟨b, hb, rfl⟩ := List.mem_map.mp ha
  by_cases hid : b.id = e.id
  · obtain rfl := EffectTable.eq_of_id_eq hb (EffectTable.mem_of_get hget) hid
    rw [if_pos hid] at hs ⊢
    rcases hnew hs with hs | ⟨hash, action, historical, rfl⟩
    · exact hold b hb hs
    · exact ⟨hash, action, historical, List.mem_cons_self⟩
  · rw [if_neg hid] at hs ⊢
    exact hold b hb hs

/-- A change to another state than `previewed` needs no preview. -/
theorem PreviewLogged.update_other (h : PreviewLogged db) {e : Effect}
    {f : EffectColumns → EffectColumns} {event : EventBody} {s : EffectState}
    (hget : db.effects.get e.id = some e) (hs : (f e.columns).state = s) (hne : s ≠ .previewed) :
    PreviewLogged (db.update e.id f event) :=
  h.update hget fun heq => absurd (hs.symm.trans heq) hne

theorem events_addVersion {kind : EffectKind} {source : Source} {mode : EffectMode}
    {state : EffectState} {type : CreationEvent} :
    db.events <:+ (db.addVersion kind source mode state type).events := by
  unfold Db.addVersion
  cases db.effects.supersededBy ⟨kind, source.recordId⟩ with
  | none => exact List.suffix_cons _ _
  | some latest => exact (List.suffix_cons _ _).trans (List.suffix_cons _ _)

theorem PreviewLogged.addVersion (h : PreviewLogged db) {kind : EffectKind} {source : Source}
    {mode : EffectMode} {state : EffectState} {type : CreationEvent} (hne : state ≠ .previewed) :
    PreviewLogged (db.addVersion kind source mode state type) := by
  intro a ha hs
  have hget := EffectTable.get_of_mem ha
  rw [effects_addVersion, EffectTable.get_push] at hget
  split at hget
  · cases hget
    exact absurd hs hne
  split at hget
  · obtain ⟨b, -, rfl⟩ := Option.map_eq_some_iff.mp hget
    cases hs
  · obtain ⟨hash, action, historical, hmem⟩ := h a (EffectTable.mem_of_get hget) hs
    exact ⟨hash, action, historical, events_addVersion.subset hmem⟩

theorem StoreStep.previewLogged {s : Reading} {db db' : Db} (hstep : StoreStep s db db')
    (h : PreviewLogged db) : PreviewLogged db' := by
  cases hstep with
  | bookkeeping effects fingerprints cutover events =>
    intro e he hs
    rw [effects] at he
    obtain ⟨hash, action, historical, hmem⟩ := h e he hs
    exact ⟨hash, action, historical, events.subset hmem⟩
  | observe => exact h
  | baseline => exact h
  | create type changed unowned origin =>
    refine h.addVersion fun heq => ?_
    have hstate := origin.state
    rw [heq] at hstate
    rcases hstate with hstate | ⟨-, hstate⟩
    · exact absurd hstate (by decide)
    · cases hstate
  | advance event get idle idle' preview => exact h.update get fun hs => .inr (preview hs)
  | annotate event get state => exact h.update get fun hs => .inl (state ▸ hs)
  | recordOnly event get state state' => exact h.update_other get state' (by decide)
  | resolve event get kind state state' => exact h.update_other get state' (by decide)
  | acceptAgain event drifts decided latest state' =>
    exact h.update_other (EffectTable.get_of_latest latest) state' (by decide)

end

theorem Move.previewLogged {C : CallContext} {d d' : Durable} (hmove : Move C d d')
    (h : PreviewLogged d.db) : PreviewLogged d'.db := by
  cases hmove with
  | drift | verify | baseline | acceptBaseline | createTask | taskStatus => exact h
  | store s from_world steps =>
    exact Prog.path_invariant (I := PreviewLogged) (fun _ _ => StoreStep.previewLogged) steps h
  | begin event latest state state' =>
    exact h.update_other (EffectTable.get_of_latest latest) state' (by decide)
  | send =>
    rw [(send_kept _ _ _ _ _).1]
    exact h
  | fail event get state began task_get targets state' => exact h.update_other get state' (by decide)
  | finish event get state state' => exact h.update_other get state' (by decide)
  | finalize event get taskOf resolved state' => exact h.update_other get state' (by decide)

/-! ## Writes of confirmations -/

/-- Every write of a confirmation is one of a version the journal says began. -/
def WritesBegun (d : Durable) : Prop :=
  ∀ write, .wrote write ∈ d.journal → write.writer = .confirm →
    ∃ e payload planned, e.id = write.effect.id ∧ .began e payload planned ∈ d.journal

theorem Move.writesBegun {C : CallContext} {d d' : Durable} (h : Move C d d')
    (hw : WritesBegun d) : WritesBegun d' := by
  intro write hmem hwriter
  have hkeep : ∀ {e payload planned}, .began e payload planned ∈ d.journal →
      .began e payload planned ∈ d'.journal := fun hb => h.journal.subset hb
  have hold : .wrote write ∈ d.journal → ∃ e payload planned, e.id = write.effect.id ∧
      .began e payload planned ∈ d'.journal := by
    intro hold
    obtain ⟨e, payload, planned, hid, hb⟩ := hw write hold hwriter
    exact ⟨e, payload, planned, hid, hkeep hb⟩
  rcases h.journal_step with hsame | ⟨entry, hadd⟩
  · exact hold (hsame ▸ hmem)
  rw [hadd] at hmem
  rcases List.mem_cons.mp hmem with rfl | hmem
  · obtain ⟨hauth, -⟩ := h.wrote hadd
    rw [hwriter] at hauth
    generalize write.target = target at hauth
    cases hauth with
    | confirm get state began mem =>
      obtain ⟨e, payload, hid, hsince⟩ := began
      exact ⟨e, payload, _, hid, hkeep hsince.mem⟩
  · exact hold hmem

/-- What every state a run reaches keeps about previews, beginnings and writes. -/
structure Accounted (d : Durable) : Prop where
  /-- previewed versions were previewed -/
  previews : PreviewLogged d.db
  /-- versions that began are no longer idle -/
  begun : Begun d
  /-- writes of confirmations are of versions that began -/
  writes : WritesBegun d

theorem Accounted.run {w : World} (hinit : w.Initial) (steps : List Step) :
    Accounted (runSteps w steps).toDurable := by
  refine run_move_invariant steps (fun _ _ _ h => ⟨h.previews, h.begun, h.writes⟩)
    (fun _ _ _ hmove h => ⟨hmove.previewLogged h.previews, hmove.begun h.begun,
      hmove.writesBegun h.writes⟩) hinit ⟨?_, ?_, ?_⟩
  · intro e he
    rw [hinit.effects] at he
    cases he
  · intro e payload planned hmem
    rw [hinit.journal] at hmem
    cases hmem
  · intro write hmem
    rw [hinit.journal] at hmem
    cases hmem

/-! ## The binding -/

/-- At this moment of a call the version was about to be applied, and the plan was the one the
operator's hash names: the latest version of its record, previewed before, with the authoritative
source, and with the payload, action, evidence and bases the call read itself. -/
structure Binding (C : CallContext) (hash : PreviewHash) (action : Option ExternalAction)
    (d : Durable) (e : Effect) (payload : PreviewPayload) (planned : List PlannedTarget) :
    Prop where
  /-- the moment is one of the call -/
  reached : ReflTransGen (Move C) C.start d
  /-- the version is the latest of its record -/
  latest : d.db.effects.latest e.key = some e
  /-- in state `previewed` -/
  state : e.state = .previewed
  /-- by a preview -/
  previewed : ∃ hash action historical, ⟨e.id, .previewed hash action historical⟩ ∈ d.db.events
  /-- its source is the authoritative one -/
  current : SourceCurrent C.edits d e
  /-- the payload is its preview for the action asked for -/
  computed : Computed C.edits d e action payload
  /-- the payload has the operator's hash -/
  hash : Digest.of payload = hash
  /-- every target is bound to a fresh base with the record and amount of the payload -/
  bound : List.Forall₂ (BoundTo C.edits d) payload.rows planned

/-- A write that carries out a plan. -/
structure PlannedWrite (e : Effect) (planned : List PlannedTarget) (write : HoldingWrite) :
    Prop where
  /-- it is made for the version -/
  effect : write.effect.id = e.id
  /-- which is then the latest of its record, in state `applying` -/
  latest : ∃ a, write.latest = some a ∧ SameVersion e a ∧ a.state = .applying
  /-- its target is planned, and the row it found is the base of the plan -/
  target : ∃ p ∈ planned, write.target = p.mutation ∧ write.base = p.before

/-- A beginning in a call is that of a confirmation, and the plan is bound to its hash. -/
theorem Binding.of_began {c : Call} {E : Remote → Remote → Prop} {start d : Durable} {e : Effect}
    {payload : PreviewPayload} {planned : List PlannedTarget} (hlogged : PreviewLogged start.db)
    (hpath : ReflTransGen (Move (c.context E start)) start d)
    (hbegan : Since start d (.began e payload planned)) :
    ∃ id hash action historical m, c = .confirm id hash action historical ∧ e.id = id ∧
      Binding (c.context E start) hash action m e payload planned := by
  obtain ⟨m, m', hm, hmove, -, hadd⟩ := hbegan.step hpath
  obtain ⟨hlatest, hstate, ⟨requested, hconfirms, hcomputed⟩, hcurrent, hmode, hbound, -⟩ :=
    hmove.began hadd
  have hlogged : PreviewLogged m.db :=
    Prog.path_invariant (I := fun d => PreviewLogged d.db) (fun _ _ => Move.previewLogged) hm hlogged
  have hpreviewed := hlogged e (EffectTable.mem_of_latest hlatest) hstate
  cases c with
  | confirm id hash action historical =>
    obtain ⟨hid, hhash, rfl, -⟩ := hconfirms
    exact ⟨id, hash, requested, historical, m, rfl, hid,
      hm, hlatest, hstate, hpreviewed, hcurrent, hcomputed, hhash, hbound⟩
  | recordOnly =>
    obtain ⟨-, hrecord, -⟩ := hconfirms
    rw [hmode] at hrecord
    cases hrecord
  | scan | preview | retry | audit | review | navGate => exact hconfirms.elim

/-- What a confirmation writes is planned, and the row it found is the base of the plan. -/
theorem PlannedWrite.of_wrote {C : CallContext} {d d' : Durable} {write : HoldingWrite}
    (hmove : Move C d d') (hadd : d'.journal = .wrote write :: d.journal)
    (hwriter : write.writer = .confirm) (hu : UnresolvedLatest d.db.effects)
    (hbegun : ∀ e payload planned, Since C.start d (.began e payload planned) →
      ∃ a, d.db.effects.get e.id = some a ∧ SameVersion e a)
    (hbound : ∀ e payload planned, Since C.start d (.began e payload planned) →
      ∀ p ∈ planned, ∃ row m, BoundTo C.edits m row p) :
    ∃ e payload planned, Since C.start d (.began e payload planned) ∧
      PlannedWrite e planned write := by
  obtain ⟨hauth, -, ⟨r, -, hbase⟩, hof, -⟩ := hmove.wrote hadd
  rw [hwriter] at hauth
  generalize htarget : write.target = target at hauth
  cases hauth with
  | @confirm a planned p get state began mem =>
    obtain ⟨e, payload, hid, hsince⟩ := began
    obtain ⟨b, hb, hsame⟩ := hbegun e payload planned hsince
    rw [hid, get] at hb
    cases hb
    obtain ⟨row, m, -, -, hmutation⟩ := hbound e payload planned hsince p mem
    obtain ⟨hrecord, hdigest, -⟩ := HoldingTarget.base_of_fromHoldings hmutation
    rw [htarget] at hbase
    refine ⟨e, payload, planned, hsince, hid.symm, ⟨a, ?_, hsame, state⟩, p, mem, htarget,
      HoldingsTable.freshBase_eq hrecord hdigest hbase⟩
    rw [hof.latest, get, Option.bind_some]
    exact hu a (EffectTable.mem_of_get get) (by rw [state]; decide)

/-! ## Calls that write nothing -/

/-- A step changes the remote side only as third parties do, unless it writes a holding. -/
theorem Move.remote {C : CallContext} {d d' : Durable} (h : Move C d d') :
    ReflTransGen C.edits d.remote d'.remote ∨ ∃ write, d'.journal = .wrote write :: d.journal := by
  cases h with
  | drift allowed => exact .inl (.single allowed)
  | send =>
    rcases send_cases _ _ _ _ d with h | ⟨write, -, h⟩
    · exact .inl (by rw [h])
    · exact .inr ⟨write, h.journal⟩
  | store | begin | verify | baseline | acceptBaseline | createTask | fail | taskStatus | finish
  | finalize => exact .inl .refl

/-- A call that writes no holding leaves the remote side to third parties. -/
theorem Move.remote_path {C : CallContext} {d₀ d : Durable} (hpath : ReflTransGen (Move C) d₀ d)
    (hno : ∀ write, ¬ Since d₀ d (.wrote write)) : ReflTransGen C.edits d₀.remote d.remote := by
  induction hpath with
  | refl => exact .refl
  | @tail a b ha hmove ih =>
    have hpath := ih fun write h => hno write (h.mono hmove.journal)
    rcases hmove.remote with h | ⟨write, hadd⟩
    · exact hpath.trans h
    · obtain ⟨new, hnew⟩ := Move.journal_path ha
      refine absurd ⟨.wrote write :: new, ?_, List.mem_cons_self⟩ (hno write)
      rw [hadd, ← hnew]
      rfl

/-! ## Confirmations of a run -/

/-- The changes third parties make in the accesses of a call. -/
def editsOf (ticks : List Tick) (r r' : Remote) : Prop := ∃ t ∈ ticks, r' = t.edit r

/-- The context of a call of a run. -/
def World.context (w : World) (c : Call) (ticks : List Tick) : CallContext :=
  c.context (editsOf ticks) w.toDurable.start

theorem World.moves (w : World) (c : Call) (ticks : List Tick) (outcomes : List Outcome)
    (hu : UnresolvedLatest w.db.effects) :
    ReflTransGen (Move (w.context c ticks)) w.toDurable.start
      (Step.next w (.call c ticks outcomes)).toDurable :=
  call_moves (E := fun _ => editsOf ticks) (fun t ht _ => ⟨t, ht, rfl⟩) hu

theorem unresolvedLatest_run {w : World} (hinit : w.Initial) (steps : List Step) :
    UnresolvedLatest (runSteps w steps).db.effects :=
  (run_invariant (E := anyEdit) (I := fun _ => True) (fun _ step _ => step.editsWithin_any)
    (fun _ _ _ _ => trivial) (fun _ _ _ _ _ _ _ _ _ => trivial) (Meets.any w steps)
    hinit.unresolvedLatest trivial).2

/-- Every write of a confirmation is bound to what the operator's hash names, and it is the first
confirmation of its version that writes. -/
theorem bound_of_wrote {w : World} (hinit : w.Initial) (steps : List Step) {c : Call}
    {ticks : List Tick} {outcomes : List Outcome} {write : HoldingWrite}
    (hwrote : Since (runSteps w steps).toDurable
      (Step.next (runSteps w steps) (.call c ticks outcomes)).toDurable (.wrote write))
    (hwriter : write.writer = .confirm) :
    ∃ id hash action historical d e payload planned, c = .confirm id hash action historical ∧
      e.id = id ∧ Binding ((runSteps w steps).context c ticks) hash action d e payload planned ∧
      PlannedWrite e planned write ∧ ∀ earlier, .wrote earlier ∈ (runSteps w steps).journal →
        earlier.writer = .confirm → earlier.effect.id ≠ id := by
  have hu := unresolvedLatest_run hinit steps
  have hacc := Accounted.run hinit steps
  generalize runSteps w steps = before at *
  have hpath := before.moves c ticks outcomes hu
  obtain ⟨m, m', hm, hmove, hm', hadd⟩ := Since.step hpath hwrote
  -- every beginning the call made so far is bound
  have hbinding : ∀ e payload planned, Since before.toDurable.start m (.began e payload planned) →
      ∃ id hash action historical d, c = .confirm id hash action historical ∧ e.id = id ∧
        Binding (before.context c ticks) hash action d e payload planned :=
    fun e payload planned h => Binding.of_began hacc.previews hm h
  have hbegun : Begun m := Move.begun_path hm hacc.begun
  have hum : UnresolvedLatest m.db.effects :=
    TableStep.unresolvedLatest_path (Move.table_path hm) hu
  obtain ⟨e, payload, planned, hsince, hplanned⟩ := PlannedWrite.of_wrote hmove hadd hwriter hum
    (fun e payload planned h => by
      obtain ⟨a, ha, hsame, -⟩ := hbegun e payload planned h.mem
      exact ⟨a, ha, hsame⟩)
    (fun e payload planned h p hp => by
      obtain ⟨id, hash, action, historical, d, -, -, hbinding⟩ := hbinding e payload planned h
      obtain ⟨row, -, hbound⟩ := forall₂_mem_right hbinding.bound hp
      exact ⟨row, d, hbound⟩)
  obtain ⟨id, hash, action, historical, d, rfl, hid, hbound⟩ := hbinding e payload planned hsince
  refine ⟨id, hash, action, historical, d, e, payload, planned, rfl, hid, hbound, hplanned, ?_⟩
  intro earlier hearlier hconfirm heq
  obtain ⟨b, payload', planned', hbid, hb⟩ := hacc.writes earlier hearlier hconfirm
  have hbegun' : Begun d := Move.begun_path hbound.reached hacc.begun
  refine hbegun'.not_latest ((Move.journal_path hbound.reached).subset hb)
    (hbid.trans (heq.trans hid.symm)) (EffectTable.get_of_latest hbound.latest) ?_
  rw [hbound.state]
  decide

/-- A write that was not there before a call is one of the call. -/
theorem since_of_new_write {w : World} (hu : UnresolvedLatest w.db.effects) {c : Call}
    {write : HoldingWrite} (hmem : write ∈ (w.call c).writes) (hnew : write ∉ w.writes) :
    Since w.toDurable (Step.next w (.call c [] [])).toDurable (.wrote write) := by
  rw [Durable.mem_writes] at hmem hnew
  exact (Since.of_mem (Move.journal_path (w.moves c [] [] hu)) hmem).resolve_right hnew

/-- A confirmation makes no writes of compensations. -/
theorem writer_of_confirm {w : World} (hu : UnresolvedLatest w.db.effects) {id : Nat}
    {hash : PreviewHash} {action : Option ExternalAction} {historical : Bool} {ticks : List Tick}
    {outcomes : List Outcome} {write : HoldingWrite}
    (hwrote : Since w.toDurable
      (Step.next w (.call (.confirm id hash action historical) ticks outcomes)).toDurable
      (.wrote write)) : write.writer = .confirm := by
  obtain ⟨m, m', -, hmove, -, hadd⟩ := Since.step (w.moves _ ticks outcomes hu) hwrote
  obtain ⟨-, hallowed, -⟩ := hmove.wrote hadd
  cases hwriter : write.writer with
  | confirm => rfl
  | compensation => exact (hallowed hwriter).elim

/-- A confirmation that returns computed the operator's hash, and recorded its version only or began
to apply it. -/
theorem confirm_returns {w : World} {id : Nat} {hash : PreviewHash}
    {action : Option ExternalAction} {historical : Bool} {ticks : List Tick}
    {outcomes : List Outcome} {result : ConfirmResult}
    (h : (confirm id hash action historical none (w.start ticks outcomes)).1 = .ok result) :
    let C := w.context (.confirm id hash action historical) ticks
    Recomputed C id hash action ∧ ((∃ e, result = .recordOnly e) ∨ BeganIn C id) := by
  intro C
  have hfollows := confirm_follows (C := C) (P := fun d => d = w.toDurable.start) id hash action
    historical none fun d hd hknown e payload hid hhash => ⟨hid, hhash, rfl, hd ▸ hknown⟩
  have hends := (hfollows (w.start ticks outcomes)
    ⟨⟨fun t ht _ => ⟨t, ht, rfl⟩, .refl⟩, rfl⟩).2
  rcases hrun : confirm id hash action historical none (w.start ticks outcomes) with ⟨_ | r, w'⟩
  · rw [hrun] at h
    cases h
  · rw [hrun] at h hends
    cases h
    exact hends.2

/-- The hash of a preview event. -/
def EventBody.previewHash : EventBody → Option PreviewHash
  | .previewed hash _ _ => some hash
  | _ => none

/-- The hash a rejected confirmation reports as the one it computed. -/
def EventBody.reportedHash : EventBody → Option PreviewHash
  | .previewInvalidated _ current => some current
  | _ => none

/-- A hash that names nothing. -/
def noHash : PreviewHash := .of (.recordOnly 0 0 (.of (.raw (manualFlow "" "" "" 0 0))))

/-- A row of 20.00 is previewed as already reflected, a confirmation as a delta is rejected and
reports the hash it computed, and the row is previewed as before. -/
def rejectedSteps : List Step :=
  [.call (.scan none false none) [] [],
    .edit { smallRemote with ledger := [manualFlow "f1" "a" "b" 20 2000] },
    .call (.scan none false none) [] [],
    .call (.preview 2 (some .alreadyReflected) false) [] [],
    .call (.confirm 2 noHash (some .applyDelta) false) [] [],
    .call (.preview 2 (some .alreadyReflected) false) [] []]

/-- The hash the rejection reported. -/
def reportedHash : PreviewHash :=
  ((runSteps smallWorld rejectedSteps).db.events.findSome? fun event =>
    event.body.reportedHash).getD noHash

/-- The confirmation of the reported hash. -/
def reportedConfirm : Call := .confirm 2 reportedHash (some .applyDelta) false

theorem reportedConfirm_writes :
    ∃ write ∈ ((runSteps smallWorld rejectedSteps).call reportedConfirm).writes,
      write ∉ (runSteps smallWorld rejectedSteps).writes ∧ write.writer = .confirm ∧
        ∀ event ∈ (runSteps smallWorld rejectedSteps).db.events,
          event.body.previewHash ≠ some reportedHash := by
  decide +kernel

end PortfolioManagement
