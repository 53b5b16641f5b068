import PortfolioManagement.Effect.Moves

/-!
# Transactions of the scan

The transactions of a scan move the database along `StoreStep`. What a transaction raises is rolled
back, so only the postcondition of a return matters. The loops carry what the next iteration needs:
the deletion loop that the rows still to come are the latest of their chains, the fingerprint loop
that the identities of pending compensations are still those it started with.
-/

namespace PortfolioManagement

open Relation (ReflTransGen)
open Prog (Spec)

/-- A transaction from databases with `P`: it follows the store steps and returns with `Q`. -/
abbrev TxSpec {α : Type} (s : Reading) (P : Db → Prop) (tx : Tx α) (Q : α → Db → Prop) : Prop :=
  Spec (StoreStep s) P tx Q fun _ _ => True

section
variable {s : Reading} {P : Db → Prop}

/-! ## Store operations -/

@[simp] theorem effects_log {db : Db} {id : Nat} {body : EventBody} :
    (db.log id body).effects = db.effects := rfl

@[simp] theorem fingerprints_log {db : Db} {id : Nat} {body : EventBody} :
    (db.log id body).fingerprints = db.fingerprints := rfl

@[simp] theorem cutover_log {db : Db} {id : Nat} {body : EventBody} :
    (db.log id body).cutover = db.cutover := rfl

@[simp] theorem effects_update {db : Db} {id : Nat} {f : EffectColumns → EffectColumns}
    {event : EventBody} : (db.update id f event).effects = db.effects.modify id f := rfl

@[simp] theorem fingerprints_update {db : Db} {id : Nat} {f : EffectColumns → EffectColumns}
    {event : EventBody} : (db.update id f event).fingerprints = db.fingerprints := rfl

@[simp] theorem cutover_update {db : Db} {id : Nat} {f : EffectColumns → EffectColumns}
    {event : EventBody} : (db.update id f event).cutover = db.cutover := rfl

section
variable {db : Db} {kind : EffectKind} {source : Source} {mode : EffectMode} {state : EffectState}
  {type : CreationEvent}

@[simp] theorem effects_addVersion :
    (db.addVersion kind source mode state type).effects = db.effects.push kind source mode state :=
  rfl

@[simp] theorem fingerprints_addVersion :
    (db.addVersion kind source mode state type).fingerprints = db.fingerprints := by
  unfold Db.addVersion
  cases db.effects.supersededBy ⟨kind, source.recordId⟩ <;> rfl

@[simp] theorem cutover_addVersion :
    (db.addVersion kind source mode state type).cutover = db.cutover := by
  unfold Db.addVersion
  cases db.effects.supersededBy ⟨kind, source.recordId⟩ <;> rfl

end

section
variable {db : Db} {identity : String} {recordId : Option Nat} {amount : Cents}
  {hash : HoldingHash} {effectId : Option Nat}

@[simp] theorem effects_observe : (db.observe identity recordId amount hash).effects = db.effects :=
  rfl

@[simp] theorem cutover_observe : (db.observe identity recordId amount hash).cutover = db.cutover :=
  rfl

@[simp] theorem effects_confirm :
    (db.confirm identity recordId amount hash effectId).effects = db.effects := rfl

@[simp] theorem cutover_confirm :
    (db.confirm identity recordId amount hash effectId).cutover = db.cutover := rfl

end

/-- A transaction computed from the database it starts in. -/
theorem TxSpec.of_run {α : Type} {tx : Tx α} {Q : α → Db → Prop}
    (h : ∀ db, P db → ReflTransGen (StoreStep s) db (tx db).2 ∧
      ∀ a, (tx db).1 = .ok a → Q a (tx db).2) : TxSpec s P tx Q := by
  intro db hdb
  obtain ⟨hpath, hret⟩ := h db hdb
  refine ⟨hpath, ?_⟩
  rcases hrun : tx db with ⟨_ | a, db'⟩
  · trivial
  · rw [hrun] at hret
    exact hret a rfl

/-- `create_version` finds the latest version to have the source, or makes a new one. -/
theorem createVersion_spec {kind : EffectKind} {source : Source} {mode : EffectMode}
    {state : EffectState} {type : CreationEvent} {Q : Effect → Db → Prop}
    (hsame : ∀ db l, P db → db.effects.latest ⟨kind, source.recordId⟩ = some l →
      l.source = source → Q l db)
    (hunowned : ∀ db l, P db → db.effects.latest ⟨kind, source.recordId⟩ = some l →
      l.state ≠ .compensationPending)
    (horigin : ∀ db, P db → Origin s db kind source mode state)
    (hnew : ∀ db, P db → Q (db.effects.newRow kind source mode state)
      (db.addVersion kind source mode state type)) :
    TxSpec s P (Store.createVersion kind source mode state type) Q := by
  refine TxSpec.of_run fun db hdb => ?_
  have hcreate (hchanged : ∀ l, db.effects.latest ⟨kind, source.recordId⟩ = some l →
      l.source ≠ source) :
      ReflTransGen (StoreStep s) db (db.addVersion kind source mode state type) :=
    .single (.create type hchanged (fun l => hunowned db l hdb) (horigin db hdb))
  have hget : (db.addVersion kind source mode state type).effects.get db.effects.nextId =
      some (db.effects.newRow kind source mode state) := by
    rw [effects_addVersion, EffectTable.get_push, if_pos rfl]
  unfold Store.createVersion Store.getEffect
  cases hl : db.effects.latest ⟨kind, source.recordId⟩ with
  | none =>
    simp only [hget]
    refine ⟨hcreate (by simp [hl]), ?_⟩
    rintro a ⟨⟩
    exact hnew db hdb
  | some l =>
    by_cases hsrc : l.sourceHash = sourceHash source
    · simp only [if_pos hsrc]
      refine ⟨.refl, ?_⟩
      rintro a ⟨⟩
      exact hsame db l hdb hl (sourceHash_inj.mp hsrc)
    · simp only [if_neg hsrc, hget]
      refine ⟨hcreate ?_, ?_⟩
      · rintro l' hl' heq
        cases hl.symm.trans hl'
        exact hsrc (sourceHash_inj.mpr heq)
      · rintro a ⟨⟩
        exact hnew db hdb

/-- `update_effect` finds the row in an expected state and rewrites it. -/
theorem updateEffect_spec {id : Nat} {f : EffectColumns → EffectColumns} {event : EventBody}
    {expected : List EffectState} {Q : Effect → Db → Prop}
    (hstep : ∀ db e, P db → db.effects.get e.id = some e → e.id = id → e.state ∈ expected →
      StoreStep s db (db.update e.id f event))
    (hQ : ∀ db e, P db → db.effects.get e.id = some e → e.id = id → e.state ∈ expected →
      Q (e.withColumns f) (db.update e.id f event)) :
    TxSpec s P (Store.updateEffect id f event expected) Q := by
  refine TxSpec.of_run fun db hdb => ?_
  unfold Store.updateEffect
  cases hget : db.effects.get id with
  | none =>
    refine ⟨.refl, ?_⟩
    rintro a ⟨⟩
  | some e =>
    obtain rfl := EffectTable.id_of_get hget
    by_cases hs : e.state ∈ expected
    · simp only [if_pos hs]
      refine ⟨.single (hstep db e hdb hget rfl hs), ?_⟩
      rintro a ⟨⟩
      exact hQ db e hdb hget rfl hs
    · simp only [if_neg hs]
      refine ⟨.refl, ?_⟩
      rintro a ⟨⟩

/-- A write that leaves effects, fingerprints and the cutover alone. -/
theorem bookkeeping_spec {f : Db → Db} {Q : Unit → Db → Prop}
    (heffects : ∀ db, (f db).effects = db.effects)
    (hfingerprints : ∀ db, (f db).fingerprints = db.fingerprints)
    (hcutover : ∀ db, (f db).cutover = db.cutover) (hevents : ∀ db, db.events <:+ (f db).events)
    (hQ : ∀ db, P db → Q () (f db)) : TxSpec s P (Prog.alter f) Q :=
  Spec.alter (fun db _ => .bookkeeping (heffects db) (hfingerprints db) (hcutover db)
    (hevents db)) hQ

/-! ## What the ledger loops keep -/

/-- The fields no ledger write touches. -/
structure Fixed (start : Db) (db : Db) : Prop where
  /-- the baselines -/
  fingerprints : db.fingerprints = start.fingerprints
  /-- the cutover -/
  cutover : db.cutover = start.cutover

theorem Fixed.of_eq {start db db' : Db} (h : Fixed start db)
    (hf : db'.fingerprints = db.fingerprints) (hc : db'.cutover = db.cutover) : Fixed start db' :=
  ⟨hf.trans h.fingerprints, hc.trans h.cutover⟩

theorem Fixed.update {start db : Db} (h : Fixed start db) (id : Nat)
    (f : EffectColumns → EffectColumns) (event : EventBody) :
    Fixed start (db.update id f event) := h.of_eq rfl rfl

theorem Fixed.addVersion {start db : Db} (h : Fixed start db) (kind : EffectKind) (source : Source)
    (mode : EffectMode) (state : EffectState) (type : CreationEvent) :
    Fixed start (db.addVersion kind source mode state type) :=
  h.of_eq fingerprints_addVersion cutover_addVersion

/-- `_defer_source_change` writes at most an event. -/
theorem deferSourceChange_spec {e : Effect} {newSource : Source} {Q : Db → Prop}
    (hkeep : ∀ db, P db → Q db)
    (hlog : ∀ db body, P db → Q (db.log e.id body)) :
    TxSpec s P (deferSourceChange e newSource) fun _ => Q := by
  unfold deferSourceChange
  refine Spec.bind (Q := fun _ => P) (Spec.reads fun _ h => h) fun known => ?_
  refine Spec.ite (fun _ => Spec.ret hkeep) fun _ => ?_
  refine Spec.bind (Q := fun _ => Q) ?_ fun _ => Spec.ret fun _ h => h
  exact bookkeeping_spec (fun _ => rfl) (fun _ => rfl) (fun _ => rfl)
    (fun _ => List.suffix_cons _ _) fun db h => hlog db _ h

/-! ## Rows of the ledger -/

/-- The source of a row names its record. -/
theorem recordId_discover (r : Remote) (cutover : Date) (flow : CashFlow) :
    (discover r cutover flow).source.recordId = flow.recordId := by
  have hsource : ∀ source, sourceFromCashFlow flow = .ok source →
      source.recordId = flow.recordId := by
    intro source h
    unfold sourceFromCashFlow at h
    split at h
    · cases h
    · split at h
      · cases h
      · cases h; rfl
  unfold discover
  cases hc : completedDiscovery r cutover flow with
  | error e => rfl
  | ok found =>
    unfold completedDiscovery at hc
    cases hs : sourceFromCashFlow flow with
    | error e => rw [hs] at hc; cases hc
    | ok source =>
      rw [hs] at hc
      cases hi : r.initialState source (flowMode cutover flow) with
      | error e => simp [bind, Except.bind, hi] at hc
      | ok state =>
        simp only [bind, Except.bind, hi, pure, Except.pure, Except.ok.injEq] at hc
        rw [← hc]
        exact hsource source hs

/-- The new version of a discovered row. -/
theorem createDiscovered_spec {found : Discovery} {k : EffectKey}
    (hkey : k = ⟨.cashFlow, found.source.recordId⟩)
    (horigin : ∀ db, Fixed s.start db → Origin s db .cashFlow found.source found.mode found.state) :
    TxSpec s (fun db => Fixed s.start db ∧ ∀ l, db.effects.latest k = some l →
        l.state ≠ .compensationPending)
      (createDiscovered found) fun _ => Fixed s.start := by
  subst hkey
  unfold createDiscovered
  refine Spec.bind (Q := fun _ => Fixed s.start) ?_ fun e => ?_
  · refine createVersion_spec (fun db l h _ _ => h.1) (fun db l h => h.2 l)
      (fun db h => horigin db h.1) fun db h => h.1.addVersion _ _ _ _ _
  · cases found.error with
    | none => exact Spec.ret fun _ h => h
    | some error =>
      refine Spec.bind (Q := fun _ => Fixed s.start) ?_ fun _ => Spec.ret fun _ h => h
      exact updateEffect_spec (fun db e _ hget _ _ => .annotate _ hget rfl rfl rfl)
        fun db e h _ _ _ => h.update _ _ _

/-- One row of the scan. -/
theorem scanFlow_spec {flow : CashFlow} (hflow : flow ∈ s.flows) (account : Option String)
    (counts : ScanCounts) :
    TxSpec s (Fixed s.start) (scanFlow s.remote s.start.cutover account counts flow)
      fun _ => Fixed s.start := by
  have horigin : ∀ db, Fixed s.start db → Origin s db .cashFlow
      (discover s.remote s.start.cutover flow).source
      (discover s.remote s.start.cutover flow).mode
      (discover s.remote s.start.cutover flow).state := by
    intro db hdb
    rw [← hdb.cutover]
    exact .row hflow
  have hkey : (⟨.cashFlow, flow.recordId⟩ : EffectKey) =
      ⟨.cashFlow, (discover s.remote s.start.cutover flow).source.recordId⟩ := by
    rw [recordId_discover]
  unfold scanFlow
  refine Spec.bind (Q := fun latest db => Fixed s.start db ∧
    db.effects.latest ⟨.cashFlow, flow.recordId⟩ = latest) (Spec.reads fun _ h => ⟨h, rfl⟩)
    fun latest => ?_
  refine Spec.ite (fun _ => Spec.ret fun _ h => h.1) fun _ => ?_
  cases latest with
  | none =>
    refine Spec.bind (Q := fun _ => Fixed s.start) ?_ fun _ => Spec.ret fun _ h => h
    refine (createDiscovered_spec hkey horigin).pre fun db h => ⟨h.1, ?_⟩
    simp [h.2]
  | some latest =>
    refine Spec.ite (fun hsame => Spec.ite (fun hactivate => ?_) fun _ => Spec.ret fun _ h => h.1)
      fun hchanged => Spec.ite (fun hpending => ?_) fun hpending => ?_
    · refine Spec.bind (Q := fun _ => Fixed s.start) ?_ fun _ => Spec.ret fun _ h => h
      refine updateEffect_spec (fun db e h hget hid hs => ?_) fun db e h _ _ _ => h.1.update _ _ _
      refine .advance _ hget ?_ (by decide : EffectState.pending ∈ EffectState.idle)
        fun h => nomatch h
      rw [List.mem_singleton.mp hs]
      decide
    · refine Spec.bind (Q := fun _ => Fixed s.start) ?_ fun _ => Spec.ret fun _ h => h
      exact deferSourceChange_spec (fun _ h => h.1) fun db _ h => h.1.of_eq rfl rfl
    · refine Spec.bind (Q := fun _ => Fixed s.start) ?_ fun _ => Spec.ret fun _ h => h
      refine (createDiscovered_spec hkey horigin).pre fun db h => ⟨h.1, fun l hl => ?_⟩
      cases h.2.symm.trans hl
      exact hpending

/-! ## Rows that disappeared -/

/-- The rows still to come are the latest of their chains. -/
def StillLatest (rest : List Effect) (t : EffectTable) : Prop :=
  ∀ e ∈ rest, t.latest e.key = some e

/-- A new version of one chain leaves the latest rows of the others. -/
theorem StillLatest.push {t : EffectTable} {a : Effect} {rest : List Effect} {mode : EffectMode}
    {state : EffectState} {source : Source} (h : StillLatest (a :: rest) t) (ha : a ∉ rest)
    (hkey : (⟨a.kind, source.recordId⟩ : EffectKey) = a.key) :
    StillLatest rest (t.push a.kind source mode state) := by
  intro e he
  have hlatest := h e (List.mem_cons_of_mem a he)
  rw [EffectTable.latest_push, if_neg ?_]
  · exact hlatest
  · rw [hkey]
    intro heq
    rw [heq, h a List.mem_cons_self] at hlatest
    exact ha (Option.some.inj hlatest ▸ he)

theorem listLatest_nodup (t : EffectTable) : t.listLatest.Nodup := by
  unfold EffectTable.listLatest
  refine ((List.perm_insertionSort _ _).nodup_iff).mpr (List.Nodup.filter _ ?_)
  refine t.ids.imp fun hlt heq => ?_
  rw [heq] at hlt
  exact Nat.lt_irrefl _ hlt

/-- One latest version of the deletion loop. -/
theorem scanDeletion_spec {latest : Effect} {rest : List Effect} (hnotin : latest ∉ rest)
    (counts : ScanCounts) :
    TxSpec s (fun db => Fixed s.start db ∧ StillLatest (latest :: rest) db.effects)
      (scanDeletion (seenRecords s.flows) counts latest)
      fun _ db => Fixed s.start db ∧ StillLatest rest db.effects := by
  have htail : ∀ db : Db, Fixed s.start db ∧ StillLatest (latest :: rest) db.effects →
      Fixed s.start db ∧ StillLatest rest db.effects :=
    fun _ h => ⟨h.1, fun e he => h.2 e (List.mem_cons_of_mem _ he)⟩
  unfold scanDeletion
  refine Spec.ite (fun _ => Spec.ret htail) fun hscope => Spec.ite (fun _ => ?_) fun hpending => ?_
  · refine Spec.bind (Q := fun _ db => Fixed s.start db ∧ StillLatest rest db.effects) ?_
      fun _ => Spec.ret fun _ h => h
    exact deferSourceChange_spec htail fun db _ h => ⟨h.1.of_eq rfl rfl, (htail db h).2⟩
  · simp only [not_or, Classical.not_not, Bool.not_eq_true] at hscope
    obtain ⟨hkind, hgone, halive⟩ := hscope
    have hkey : (⟨.cashFlow, latest.source.deletion.recordId⟩ : EffectKey) = latest.key :=
      congrArg (EffectKey.mk · latest.recordId) hkind.symm
    refine Spec.bind (Q := fun _ db => Fixed s.start db ∧ StillLatest rest db.effects) ?_
      fun _ => Spec.ret fun _ h => h
    refine createVersion_spec (fun db _ h _ _ => htail db h) (fun db l h hl => ?_)
      (fun db h => ?_) (fun db h => ⟨h.1.addVersion _ _ _ _ _, ?_⟩)
    · rw [hkey, h.2 latest List.mem_cons_self] at hl
      cases hl
      exact hpending
    · exact .gone (h.2 latest List.mem_cons_self) hkind hgone halive (.inl rfl)
    · have hpush : StillLatest rest (db.effects.push latest.kind latest.source.deletion
          (scanDeletionMode latest) .pending) := h.2.push hnotin rfl
      rwa [hkind] at hpush

/-- The ledger part of a scan. -/
theorem scanLedger_spec (account : Option String) :
    TxSpec s (Fixed s.start) (scanLedger s.remote s.start.cutover s.flows account)
      fun _ => Fixed s.start := by
  unfold scanLedger
  refine Spec.bind (Q := fun _ => Fixed s.start) ?_ fun counts => ?_
  · exact Spec.fold_inv fun counts flow hflow => scanFlow_spec hflow account counts
  refine Spec.of_eq fun start hstart => ?_
  refine Spec.bind (Q := fun latest db => db = start ∧
    latest = start.effects.listLatest.filter (inAccount account))
    (Spec.reads fun db h => ⟨h, by rw [h]⟩) fun latest => ?_
  refine Spec.of_eq fun db hdb => ?_
  obtain ⟨rfl, rfl⟩ := hdb
  have hnodup := (listLatest_nodup db.effects).filter (inAccount account)
  refine (Spec.fold (fun rest _ db' => Fixed s.start db' ∧ StillLatest rest db'.effects)
    fun a rest counts hsuffix => ?_).conseq ?_ (fun _ _ h => h.1) fun _ _ h => h
  · exact scanDeletion_spec (List.nodup_cons.mp (hnodup.sublist hsuffix.sublist)).1 counts
  · rintro _ rfl
    refine ⟨hstart, fun e he => ?_⟩
    exact EffectTable.mem_listLatest.mp (List.mem_of_mem_filter he)

/-! ## Decisions about drifts -/

section
variable {ctx : DriftContext} {existing : Option Effect} {identity : String}

/-- An accepted drift: a non-Futu identity no compensation owns, with a source of its own. -/
theorem drift_accept {change : ExternalChange} (h : drift ctx existing identity = .accept change) :
    identity ∉ ctx.compensationIdentities ∧ change.identity = identity ∧
      ∀ e, existing = some e → e.state ≠ .compensationPending ∧
        e.source ≠ .externalChange change := by
  unfold drift at h
  split_ifs at h with hown hflow hbase
  split at h
  · cases h
  · cases existing with
    | none =>
      simp only at h
      split_ifs at h
      cases h
      exact ⟨hown, rfl, by simp⟩
    | some e =>
      simp only at h
      split_ifs at h with hbroker hpending hsame
      cases h
      refine ⟨hown, rfl, ?_⟩
      rintro _ ⟨⟩
      exact ⟨hpending, fun heq => hsame (sourceHash_inj.mpr heq)⟩

/-- A drift that is surfaced: a Futu identity no compensation owns, with a source of its own. -/
theorem drift_discovered {change : ExternalChange}
    (h : drift ctx existing identity = .discovered change) :
    identity ∉ ctx.compensationIdentities ∧ change.identity = identity ∧
      ∀ e, existing = some e → e.state ≠ .compensationPending ∧
        e.source ≠ .externalChange change := by
  unfold drift at h
  split_ifs at h with hown hflow hbase
  split at h
  · cases h
  · cases existing with
    | none =>
      simp only at h
      split_ifs at h
      cases h
      exact ⟨hown, rfl, by simp⟩
    | some e =>
      simp only at h
      split_ifs at h with hbroker hpending hsame hsame hpending
      cases h
      refine ⟨hown, rfl, ?_⟩
      rintro _ ⟨⟩
      exact ⟨hpending, fun heq => hsame (sourceHash_inj.mpr heq)⟩

/-- A drift accepted again: the latest version already has its source. -/
theorem drift_acceptAgain {e : Effect} (h : drift ctx existing identity = .acceptAgain e) :
    identity ∉ ctx.compensationIdentities ∧ existing = some e ∧
      e.state ≠ .compensationPending := by
  unfold drift at h
  split_ifs at h with hown hflow hbase
  split at h
  · cases h
  · cases existing with
    | none =>
      simp only at h
      split_ifs at h
    | some a =>
      simp only at h
      split_ifs at h with hbroker hpending hsame
      cases h
      exact ⟨hown, rfl, hpending⟩

end

/-! ## Who owns an identity -/

/-- The state of a discovered row. -/
theorem state_discover (r : Remote) (cutover : Date) (flow : CashFlow) :
    (discover r cutover flow).state ∈ EffectState.discovered := by
  have hinitial : ∀ source mode state, r.initialState source mode = .ok state →
      state ∈ EffectState.discovered := by
    intro source mode state h
    unfold Remote.initialState at h
    split at h
    · cases h
    · split_ifs at h
      · cases h; decide
      · cases hfinal : r.previousNavIsFinal (textOr source.account) ‹_› with
        | error e => simp [bind, Except.bind, hfinal] at h
        | ok final =>
          simp only [bind, Except.bind, hfinal, pure, Except.pure, Except.ok.injEq] at h
          cases final <;> cases h <;> decide
      · cases h; decide
  unfold discover
  cases hc : completedDiscovery r cutover flow with
  | error e => simp [EffectState.discovered]
  | ok found =>
    unfold completedDiscovery at hc
    cases hs : sourceFromCashFlow flow with
    | error e => rw [hs] at hc; cases hc
    | ok source =>
      rw [hs] at hc
      cases hi : r.initialState source (flowMode cutover flow) with
      | error e => simp [bind, Except.bind, hi] at hc
      | ok state =>
        simp only [bind, Except.bind, hi, pure, Except.pure, Except.ok.injEq] at hc
        rw [← hc]
        exact hinitial _ _ _ hi

theorem idle_of_discovered : ∀ s ∈ EffectState.discovered, s ∈ EffectState.idle := by decide

/-- A new version is idle and was not previewed, or it is an accepted drift recorded at once. -/
theorem Origin.state {db : Db} {kind : EffectKind} {source : Source} {mode : EffectMode}
    {state : EffectState} (h : Origin s db kind source mode state) :
    state ∈ EffectState.discovered ∨ kind = .externalChange ∧ state = .recordOnly := by
  cases h with
  | row => exact .inl (state_discover _ _ _)
  | gone => exact .inl (by decide)
  | accepted => exact .inr ⟨rfl, rfl⟩
  | drifted => exact .inl (by decide)

theorem Origin.state_ne {db : Db} {kind : EffectKind} {source : Source} {mode : EffectMode}
    {state : EffectState} (h : Origin s db kind source mode state) :
    state ≠ .compensationPending := by
  rintro rfl
  rcases h.state with h | ⟨-, h⟩
  · revert h; decide
  · cases h

theorem mem_compensationIdentities {t : EffectTable} {identity : String} :
    identity ∈ compensationIdentities t ↔ Owned t identity := by
  unfold compensationIdentities Owned
  simp only [List.mem_flatMap, List.mem_filter, List.mem_map, EffectTable.mem_listLatest,
    decide_eq_true_eq, and_assoc]

/-- A change of columns moves no ownership when the row is no pending compensation before and
after, or keeps its state and its targets. -/
theorem owned_modify {t : EffectTable} {e : Effect} {f : EffectColumns → EffectColumns}
    (hget : t.get e.id = some e)
    (h : e.state ≠ .compensationPending ∧ (f e.columns).state ≠ .compensationPending ∨
      (f e.columns).state = e.state ∧ (f e.columns).targets = e.columns.targets)
    (identity : String) : Owned (t.modify e.id f) identity ↔ Owned t identity := by
  have hrow : ∀ {k a}, t.latest k = some a → a.id = e.id → a = e := fun hl hid =>
    EffectTable.eq_of_id_eq (EffectTable.mem_of_latest hl) (EffectTable.mem_of_get hget) hid
  constructor
  · rintro ⟨a, hlatest, hstate, target, htarget, hid⟩
    rw [EffectTable.latest_modify] at hlatest
    obtain ⟨b, hb, rfl⟩ := Option.map_eq_some_iff.mp hlatest
    by_cases hbe : b.id = e.id
    · obtain rfl := hrow hb hbe
      rw [if_pos hbe] at hstate htarget hb
      rcases h with ⟨-, hne⟩ | ⟨hs, ht⟩
      · exact absurd hstate hne
      · refine ⟨b, hb, hs ▸ hstate, target, ?_, hid⟩
        unfold Effect.targetsOrEmpty at htarget ⊢
        rwa [show (b.withColumns f).columns.targets = b.columns.targets from ht] at htarget
    · rw [if_neg hbe] at hstate htarget hb
      exact ⟨b, hb, hstate, target, htarget, hid⟩
  · rintro ⟨a, hlatest, hstate, target, htarget, hid⟩
    by_cases hae : a.id = e.id
    · obtain rfl := hrow hlatest hae
      rcases h with ⟨hne, -⟩ | ⟨hs, ht⟩
      · exact absurd hstate hne
      · refine ⟨a.withColumns f, EffectTable.latest_modify_self hlatest, hs.trans hstate, target,
          ?_, hid⟩
        unfold Effect.targetsOrEmpty at htarget ⊢
        rwa [show (a.withColumns f).columns.targets = a.columns.targets from ht]
    · refine ⟨a, ?_, hstate, target, htarget, hid⟩
      rw [EffectTable.latest_modify, hlatest, Option.map_some, if_neg hae]

/-- A new version of a chain whose latest version is no pending compensation moves no ownership. -/
theorem owned_push {t : EffectTable} {kind : EffectKind} {source : Source} {mode : EffectMode}
    {state : EffectState} (hstate : state ≠ .compensationPending)
    (hlatest : ∀ l, t.latest ⟨kind, source.recordId⟩ = some l → l.state ≠ .compensationPending)
    (identity : String) : Owned (t.push kind source mode state) identity ↔ Owned t identity := by
  constructor
  · rintro ⟨a, ha, hs, htarget⟩
    rw [EffectTable.latest_push] at ha
    split_ifs at ha with hk
    · cases ha
      exact absurd hs hstate
    · exact ⟨a, ha, hs, htarget⟩
  · rintro ⟨a, ha, hs, htarget⟩
    refine ⟨a, ?_, hs, htarget⟩
    rw [EffectTable.latest_push, if_neg ?_]
    · exact ha
    · intro hk
      exact hlatest a (hk ▸ ha) hs

/-- No write of a transaction changes which identities pending compensations own. -/
theorem StoreStep.owned_iff {db db' : Db} (h : StoreStep s db db') (identity : String) :
    Owned db'.effects identity ↔ Owned db.effects identity := by
  cases h with
  | bookkeeping effects => rw [effects]
  | observe => rfl
  | create type changed unowned origin => exact owned_push origin.state_ne unowned identity
  | advance event get idle idle' =>
    refine owned_modify get (.inl ⟨?_, ?_⟩) identity
    · intro h; rw [h] at idle; revert idle; decide
    · intro h; rw [h] at idle'; revert idle'; decide
  | annotate event get state targets => exact owned_modify get (.inr ⟨state, targets⟩) identity
  | recordOnly event get state state' =>
    exact owned_modify get (.inl ⟨by rw [state]; decide, by rw [state']; decide⟩) identity
  | resolve event get kind state state' =>
    refine owned_modify get (.inl ⟨?_, by rw [state']; decide⟩) identity
    intro h; rw [h] at state; revert state; decide
  | acceptAgain event drifts decided latest state' =>
    exact owned_modify (EffectTable.get_of_latest latest)
      (.inl ⟨(drift_acceptAgain decided).2.2, by rw [state']; decide⟩) identity
  | baseline => rfl

/-! ## Holding fingerprints -/

/-- The identities of pending compensations are those the loop started with. -/
def SameOwners (ctx : DriftContext) (db : Db) : Prop :=
  ∀ identity, Owned db.effects identity ↔ identity ∈ ctx.compensationIdentities

theorem SameOwners.step {ctx : DriftContext} (db db' : Db) (h : StoreStep s db db')
    (howners : SameOwners ctx db) : SameOwners ctx db' :=
  fun identity => (h.owned_iff identity).trans (howners identity)

/-- A transaction that follows the store steps keeps the owners. -/
theorem TxSpec.sameOwners {α : Type} {ctx : DriftContext} {tx : Tx α}
    (h : TxSpec s P tx fun _ _ => True) :
    TxSpec s (fun db => P db ∧ SameOwners ctx db) tx fun _ => SameOwners ctx :=
  (Spec.keep h SameOwners.step).conseq (fun _ => id) (fun _ _ h => h.2) fun _ _ _ => trivial

/-- Confirming an observed holding of an identity no compensation owns. -/
theorem confirmObserved_spec {ctx : DriftContext} {identity : String}
    (hunowned : identity ∉ ctx.compensationIdentities) (observed : Option Holding)
    (effectId : Option Nat) :
    TxSpec s (SameOwners ctx) (confirmObserved identity observed effectId)
      fun _ => SameOwners ctx :=
  Spec.alter (fun _ h => .baseline _ _ _ _ fun howned => hunowned ((h identity).mp howned))
    fun _ h => h

/-- What the loop does about a decision. -/
theorem settleDrift_spec {ctx : DriftContext} (hdrifts : s.Drifts ctx) (existing : Option Effect)
    (identity : String) :
    TxSpec s (fun db => db.effects.latest (externalKey identity) = existing ∧ SameOwners ctx db)
      (settleDrift ctx existing identity (drift ctx existing identity))
      fun _ => SameOwners ctx := by
  have hrow : ∀ {db : Db} {a e : Effect}, db.effects.latest (externalKey identity) = some e →
      db.effects.get a.id = some a → a.id = e.id → a = e := fun hl hget hid =>
    EffectTable.eq_of_id_eq (EffectTable.mem_of_get hget) (EffectTable.mem_of_latest hl) hid
  have hcreate : ∀ {change : ExternalChange} {mode : EffectMode} {state : EffectState}
      {type : CreationEvent}, change.identity = identity →
      (∀ e, existing = some e → e.state ≠ .compensationPending ∧
        e.source ≠ .externalChange change) →
      (∀ db : Db, db.effects.latest (externalKey identity) = existing →
        Origin s db .externalChange (.externalChange change) mode state) →
      TxSpec s (fun db => db.effects.latest (externalKey identity) = existing ∧ SameOwners ctx db)
        (Store.createVersion .externalChange (.externalChange change) mode state type)
        fun _ => SameOwners ctx := by
    intro change mode state type hidentity hlatest horigin
    refine TxSpec.sameOwners (createVersion_spec (fun _ _ _ _ _ => trivial)
      (fun _ l h hl => ?_) horigin fun _ _ => trivial)
    rw [show (⟨.externalChange, (Source.externalChange change).recordId⟩ : EffectKey) =
      externalKey identity by rw [← hidentity]; rfl, h] at hl
    exact (hlatest l hl).1
  cases hd : drift ctx existing identity with
  | compensationOwned => exact Spec.ret fun _ h => h.2
  | explainedByFlow => exact Spec.ret fun _ h => h.2
  | malformedIdentity => exact Spec.raise fun _ _ => trivial
  | acceptedDuringCompensation => exact Spec.ret fun _ h => h.2
  | unchanged => exact Spec.ret fun _ h => h.2
  | matchesBaseline =>
    cases existing with
    | none => exact Spec.ret fun _ h => h.2
    | some e =>
      refine Spec.ite (fun _ => ?_) fun _ => Spec.ret fun _ h => h.2
      refine Spec.bind (Q := fun _ => SameOwners ctx) ?_ fun _ => Spec.ret fun _ h => h
      refine TxSpec.sameOwners (updateEffect_spec (fun _ a hl hget hid ha => ?_)
        fun _ _ _ _ _ _ => trivial)
      obtain rfl := hrow hl hget hid
      exact .resolve _ hget (congrArg EffectKey.kind (EffectTable.key_of_latest hl)) ha rfl rfl
  | acceptAgain e =>
    obtain ⟨hunowned, rfl, -⟩ := drift_acceptAgain hd
    refine Spec.bind (Q := fun _ => SameOwners ctx) ?_ fun accepted =>
      Spec.bind (confirmObserved_spec hunowned _ _) fun _ => Spec.ret fun _ h => h
    refine TxSpec.sameOwners (updateEffect_spec (fun db a hl hget hid _ => ?_)
      fun _ _ _ _ _ _ => trivial)
    obtain rfl := hrow hl hget hid
    exact .acceptAgain _ hdrifts (by rw [hl]; exact hd) hl rfl
  | accept change =>
    obtain ⟨hunowned, hidentity, hlatest⟩ := drift_accept hd
    refine Spec.bind (hcreate hidentity hlatest fun db h => .accepted hdrifts (h ▸ hd))
      fun created => ?_
    refine Spec.bind (Q := fun _ => SameOwners ctx) ?_ fun accepted =>
      Spec.bind (confirmObserved_spec hunowned _ _) fun _ => Spec.ret fun _ h => h
    refine (TxSpec.sameOwners (P := fun _ => True) (updateEffect_spec
      (fun db e _ hget _ _ => .annotate _ hget rfl rfl rfl) fun _ _ _ _ _ _ => trivial)).pre ?_
    exact fun _ h => ⟨trivial, h⟩
  | deferred e change =>
    refine Spec.bind (Q := fun _ => SameOwners ctx) ?_ fun _ => Spec.ret fun _ h => h
    exact deferSourceChange_spec (fun _ h => h.2) fun _ _ h => h.2
  | discovered change =>
    obtain ⟨hunowned, hidentity, hlatest⟩ := drift_discovered hd
    exact Spec.bind (hcreate hidentity hlatest fun db h => .drifted hdrifts (h ▸ hd))
      fun _ => Spec.ret fun _ h => h

/-- The fingerprint loop. -/
theorem scanHoldingFingerprints_spec {holdings : List Holding} {account : Option String}
    (hholdings : s.holdings = some holdings) (haccount : s.account = account) :
    TxSpec s (Fixed s.start) (scanHoldingFingerprints holdings account s.remote.today)
      fun _ _ => True := by
  unfold scanHoldingFingerprints
  refine Spec.bind (Q := fun ctx db => s.Drifts ctx ∧ SameOwners ctx db)
    (Spec.reads fun db h => ⟨⟨hholdings, ?_, rfl⟩, fun _ => mem_compensationIdentities.symm⟩)
    fun ctx => ?_
  · subst haccount
    show db.listFingerprints s.account = s.start.listFingerprints s.account
    unfold Db.listFingerprints
    rw [h.fingerprints]
  refine Spec.of_eq fun start hstart => ?_
  refine (Spec.fold_inv (P := SameOwners ctx) (E := fun _ _ => True)
    fun changed identity _ => ?_).conseq (fun db h => h ▸ hstart.2) (fun _ _ _ => trivial)
    fun _ _ _ => trivial
  unfold scanHolding
  refine Spec.bind (Q := fun _ => SameOwners ctx)
    (Spec.alter (fun db _ => .observe _ _ _ _) fun _ h => h) fun _ => ?_
  refine Spec.bind (Q := fun existing db => db.effects.latest (externalKey identity) = existing ∧
    SameOwners ctx db) (Spec.reads fun _ h => ⟨rfl, h⟩)
    fun existing => ?_
  exact Spec.bind (settleDrift_spec hstart.1 existing identity) fun _ => Spec.ret fun _ h => h

/-! ## The whole transaction -/

theorem beginScan_spec (scope : String) :
    TxSpec s (Fixed s.start) (Store.beginScan scope) fun _ => Fixed s.start :=
  TxSpec.of_run fun _ h => ⟨.single (.bookkeeping rfl rfl rfl List.suffix_rfl), fun _ _ => h.of_eq rfl rfl⟩

theorem finishScan_spec (id : Nat) (finish : ScanRun → ScanRun) :
    TxSpec s (fun _ => True) (Store.finishScan id finish) fun _ _ => True := by
  refine TxSpec.of_run fun db _ => ⟨?_, fun _ _ => trivial⟩
  unfold Store.finishScan
  split
  · exact .refl
  · exact .single (.bookkeeping rfl rfl rfl List.suffix_rfl)

theorem enqueueReceipt_spec (key : ReceiptKey) (scope : Option String) :
    TxSpec s P (Store.enqueueReceipt key scope) fun _ _ => True := by
  refine bookkeeping_spec (fun db => ?_) (fun db => ?_) (fun db => ?_) (fun db => ?_)
    fun _ _ => trivial
  · split <;> rfl
  · split <;> rfl
  · split <;> rfl
  · split <;> exact List.suffix_rfl

/-- `_commit_scan`. -/
theorem commitScan_spec {holdings : List Holding} {account : Option String}
    (hholdings : s.holdings = some holdings) (haccount : s.account = account) (runId : Nat)
    (enqueueReceipts : Bool) :
    TxSpec s (Fixed s.start)
      (commitScan s.remote s.flows holdings account runId enqueueReceipts) fun _ _ => True := by
  unfold commitScan
  refine Spec.bind (Q := fun stored db => Fixed s.start db ∧ stored = s.start.cutover)
    (Spec.reads fun db h => ⟨h, h.cutover⟩) fun stored => ?_
  refine Spec.of_eq fun start hstart => ?_
  obtain ⟨hfixed, rfl⟩ := hstart
  refine Spec.bind (Q := fun cutover db => Fixed s.start db ∧ cutover = s.start.cutover)
    (Spec.lift fun db h => ?_) fun cutover => ?_
  · subst h
    unfold assertCutover
    split
    · trivial
    · split_ifs
      · trivial
      · exact ⟨hfixed, rfl⟩
  refine Spec.of_eq fun start' hstart' => ?_
  obtain ⟨hfixed', rfl⟩ := hstart'
  refine Spec.bind (Q := fun _ => Fixed s.start)
    ((scanLedger_spec account).pre fun _ h => h ▸ hfixed') fun counts => ?_
  refine Spec.bind (scanHoldingFingerprints_spec hholdings haccount) fun changes => ?_
  refine Spec.bind (Q := fun _ _ => True) (Spec.lift fun db _ => ?_) fun digest => ?_
  · cases scanDigest s.flows holdings <;> trivial
  refine Spec.bind (finishScan_spec _ _) fun scan => ?_
  refine Spec.bind (Q := fun _ _ => True)
    (Spec.onlyIf (fun _ => enqueueReceipt_spec _ _) fun _ _ _ => trivial) fun _ => ?_
  exact Spec.ret fun _ _ => trivial

end

end PortfolioManagement
