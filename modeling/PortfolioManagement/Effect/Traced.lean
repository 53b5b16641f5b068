import Mathlib.Data.List.Chain
import PortfolioManagement.Effect.Binding

/-!
# What a run leaves behind

The versions of a record are numbered without gaps, and only the last of them waits. A version begins
once. Every holding write is one of a target of that beginning, also when a compensation makes it, because
the task a pending version points to carries the planned targets. A ledger version becomes applied only
when each of these targets was read back, and no older version is ever applied after it.
-/

namespace PortfolioManagement

open Relation (ReflTransGen)

/-! ## Lineages -/

namespace EffectTable

variable {t : EffectTable} {k : EffectKey} {id : Nat} {f : EffectColumns → EffectColumns}
  {kind : EffectKind} {source : Source} {mode : EffectMode} {state : EffectState}

/-- The versions of a chain with their sources, newest first. -/
def lineage (t : EffectTable) (k : EffectKey) : List (Nat × Source) :=
  (t.chain k).map fun e => (e.version, e.source)

theorem latest_eq_head : t.latest k = (t.chain k).head? := List.head?_filter.symm

theorem lineage_modify : (t.modify id f).lineage k = t.lineage k := by
  unfold lineage chain
  rw [rows_modify, List.filter_map, List.map_map]
  have hkey : ((fun e : Effect => decide (e.key = k)) ∘
      fun e => if e.id = id then e.withColumns f else e) = fun e => decide (e.key = k) := by
    funext e
    rw [Function.comp_apply]
    split <;> rfl
  rw [hkey]
  refine List.map_congr_left fun e _ => ?_
  rw [Function.comp_apply]
  split <;> rfl

theorem lineage_insert : (t.insert kind source mode state).lineage k =
    if k = ⟨kind, source.recordId⟩ then (t.nextVersion k, source) :: t.lineage k
    else t.lineage k := by
  unfold lineage chain insert
  rw [List.filter_cons]
  by_cases hk : k = ⟨kind, source.recordId⟩
  · subst hk
    rw [if_pos rfl, if_pos (by rw [key_newRow, decide_eq_true_eq])]
    rfl
  · have hne : ¬ (decide ((t.newRow kind source mode state).key = k) = true) := by
      rw [key_newRow, decide_eq_true_eq]
      exact fun h => hk h.symm
    rw [if_neg hk, if_neg hne]

theorem lineage_push : (t.push kind source mode state).lineage k =
    if k = ⟨kind, source.recordId⟩ then (t.nextVersion k, source) :: t.lineage k
    else t.lineage k := by
  unfold push
  cases t.supersededBy ⟨kind, source.recordId⟩ with
  | none => exact lineage_insert
  | some l => rw [lineage_modify, lineage_insert]

/-- The versions of a chain are numbered from one, and each has another source than the one before. -/
structure Linear (t : EffectTable) : Prop where
  numbered : ∀ k, (t.lineage k).map Prod.fst = (List.range' 1 (t.lineage k).length).reverse
  changing : ∀ k, (t.lineage k).IsChain fun newer older => newer.2 ≠ older.2

/-- A new version is numbered after those of its chain. -/
theorem Linear.nextVersion (h : t.Linear) : t.nextVersion k = (t.lineage k).length + 1 := by
  have hnumbers := h.numbered k
  unfold EffectTable.nextVersion
  rw [latest_eq_head]
  unfold lineage at hnumbers ⊢
  cases hchain : t.chain k with
  | nil => rfl
  | cons e older =>
    rw [hchain, List.map_cons, List.map_cons, List.length_cons, List.range'_1_concat,
      List.reverse_append, List.reverse_singleton, List.singleton_append] at hnumbers
    rw [List.head?_cons, List.map_cons, List.length_cons]
    exact congrArg Nat.succ ((List.cons.inj hnumbers).1.trans (Nat.add_comm _ _))

theorem Linear.push (h : t.Linear)
    (hchanged : ∀ l, t.latest ⟨kind, source.recordId⟩ = some l → l.source ≠ source) :
    (t.push kind source mode state).Linear := by
  refine ⟨fun k => ?_, fun k => ?_⟩ <;> rw [lineage_push]
  · split
    · rw [List.map_cons, h.numbered, h.nextVersion, List.length_cons, List.range'_1_concat,
        List.reverse_append, List.reverse_singleton, List.singleton_append, Nat.add_comm]
    · exact h.numbered k
  · split
    · next hk =>
      refine (h.changing k).cons fun older holder => ?_
      unfold lineage at holder
      rw [List.head?_map, ← latest_eq_head, hk] at holder
      obtain ⟨l, hl, rfl⟩ := Option.map_eq_some_iff.mp holder
      exact (hchanged l hl).symm
    · exact h.changing k

end EffectTable

theorem TableStep.linear {t t' : EffectTable} (h : TableStep t t') (hlinear : t.Linear) :
    t'.Linear := by
  cases h with
  | same => exact hlinear
  | push changed unowned state_new => exact hlinear.push changed
  | modify get turn =>
    refine ⟨fun k => ?_, fun k => ?_⟩ <;> rw [EffectTable.lineage_modify]
    · exact hlinear.numbered k
    · exact hlinear.changing k

/-- An older version of a chain is resolved. -/
theorem UnresolvedLatest.tail {t : EffectTable} (h : UnresolvedLatest t) {k : EffectKey} {e : Effect}
    (he : e ∈ (t.chain k).tail) : e.state ∉ EffectState.unresolved := by
  intro hs
  cases hchain : t.chain k with
  | nil =>
    rw [hchain] at he
    cases he
  | cons newest older =>
    have hpairs : (t.chain k).Pairwise fun a b => b.id < a.id := t.ids.sublist List.filter_sublist
    rw [hchain] at he hpairs
    have hmem : e ∈ t.chain k := hchain ▸ List.mem_cons_of_mem _ he
    obtain ⟨hrow, hkey⟩ := List.mem_filter.mp hmem
    have hlatest := h e hrow hs
    rw [of_decide_eq_true hkey, EffectTable.latest_eq_head, hchain, List.head?_cons] at hlatest
    cases hlatest
    exact Nat.lt_irrefl _ ((List.pairwise_cons.mp hpairs).1 e he)

/-- The latest version of a chain is followed only by newer ones. -/
theorem TableStep.latest {t t' : EffectTable} (h : TableStep t t') {k : EffectKey} {l : Effect}
    (hl : t.latest k = some l) : ∃ l', t'.latest k = some l' ∧ l.version ≤ l'.version := by
  cases h with
  | same => exact ⟨l, hl, le_rfl⟩
  | push changed unowned state_new =>
    rw [EffectTable.latest_push]
    split
    · next hk =>
      subst hk
      refine ⟨_, rfl, ?_⟩
      show l.version ≤ t.nextVersion _
      unfold EffectTable.nextVersion
      rw [hl]
      exact Nat.le_succ _
    · exact ⟨l, hl, le_rfl⟩
  | @modify e f get turn =>
    rw [EffectTable.latest_modify, hl]
    refine ⟨_, rfl, ?_⟩
    show l.version ≤ (if l.id = e.id then l.withColumns f else l).version
    split <;> exact le_rfl

/-- What is applied of a record is what was applied before, or the source of a version that is at least
as new as the latest was. -/
def AppliedForward (k : EffectKey) (t t' : EffectTable) : Prop :=
  t'.appliedSource k = t.appliedSource k ∨
    ∃ e ∈ t'.rows, e.key = k ∧ e.state = .applied ∧ t'.appliedSource k = some e.source ∧
      ∀ l, t.latest k = some l → l.version ≤ e.version

section
variable {t s s' : EffectTable} {k : EffectKey}

/-- One more step keeps it so. -/
theorem AppliedForward.step (h : AppliedForward k t s) (hstep : TableStep s s') (hu : UnresolvedLatest s)
    (hk : k.kind = .cashFlow)
    (hlatest : ∀ l, t.latest k = some l → ∃ l', s.latest k = some l' ∧ l.version ≤ l'.version) :
    AppliedForward k t s' := by
  rcases hstep.appliedSource hu hk with hsame | ⟨e, he, -, ⟨f, rfl, hstate⟩, hsource⟩
  · rcases h with hold | ⟨e, he, hkey, hstate, hsource, hversion⟩
    · exact .inl (hsame.trans hold)
    · -- an applied version stays applied
      obtain ⟨e', he', hturns⟩ := hstep.turn (EffectTable.get_of_mem he)
      have hid := same_of_turns hturns
      have hkey' : e'.key = k := by
        rw [← hkey]
        show EffectKey.mk e'.kind e'.source.recordId = ⟨e.kind, e.source.recordId⟩
        rw [hid.kind, hid.source]
      have hkind : e.kind = .cashFlow := by
        rw [← hk, ← hkey]
        rfl
      refine .inr ⟨e', EffectTable.mem_of_get he', hkey', applied_of_turns hturns hkind hstate, ?_,
        fun l hl => hid.version ▸ hversion l hl⟩
      rw [hsame, hsource, hid.source]
  · -- the latest version becomes applied
    refine .inr ⟨e.withColumns f, EffectTable.mem_of_latest (EffectTable.latest_modify_self he), ?_, ?_,
      hsource, fun l hl => ?_⟩
    · rw [Effect.key_withColumns, EffectTable.key_of_latest he]
    · rw [Effect.state_withColumns, hstate]
    · obtain ⟨l', hl', hle⟩ := hlatest l hl
      rw [he] at hl'
      cases hl'
      exact hle

theorem TableStep.latest_path (h : ReflTransGen TableStep t s) {l : Effect} (hl : t.latest k = some l) :
    ∃ l', s.latest k = some l' ∧ l.version ≤ l'.version := by
  induction h with
  | refl => exact ⟨l, hl, le_rfl⟩
  | tail _ hstep ih =>
    obtain ⟨l', hl', hle⟩ := ih
    obtain ⟨l'', hl'', hle'⟩ := hstep.latest hl'
    exact ⟨l'', hl'', hle.trans hle'⟩

theorem TableStep.applied_path (h : ReflTransGen TableStep t s) (hu : UnresolvedLatest t)
    (hk : k.kind = .cashFlow) : AppliedForward k t s := by
  induction h with
  | refl => exact .inl rfl
  | tail hpath hstep ih =>
    exact ih.step hstep (TableStep.unresolvedLatest_path hpath hu) hk fun l hl =>
      TableStep.latest_path hpath hl

end

/-! ## Beginnings -/

/-- The journal has a beginning of a version with a plan. -/
def BeganWith (d : Durable) (id : Nat) (planned : List PlannedTarget) : Prop :=
  ∃ e payload, e.id = id ∧ .began e payload planned ∈ d.journal

/-- A version has one beginning. -/
def BeginsOnce (d : Durable) : Prop :=
  ∀ e payload planned e' payload' planned', .began e payload planned ∈ d.journal →
    .began e' payload' planned' ∈ d.journal → e.id = e'.id →
    e = e' ∧ payload = payload' ∧ planned = planned'

theorem BeganWith.mono {d d' : Durable} {id : Nat} {planned : List PlannedTarget}
    (h : BeganWith d id planned) (hjournal : d.journal <:+ d'.journal) : BeganWith d' id planned := by
  obtain ⟨e, payload, hid, hmem⟩ := h
  exact ⟨e, payload, hid, hjournal.subset hmem⟩

theorem Began.with {C : CallContext} {d : Durable} {id : Nat} {planned : List PlannedTarget}
    (h : Began C d id planned) : BeganWith d id planned := by
  obtain ⟨e, payload, hid, hsince⟩ := h
  exact ⟨e, payload, hid, hsince.mem⟩

theorem Move.beginsOnce {C : CallContext} {d d' : Durable} (h : Move C d d') (hbegun : Begun d)
    (honce : BeginsOnce d) : BeginsOnce d' := by
  rcases h.journal_step with hsame | ⟨entry, hadd⟩
  · intro e payload planned e' payload' planned' hmem hmem' hid
    rw [hsame] at hmem hmem'
    exact honce e payload planned e' payload' planned' hmem hmem' hid
  · -- a version that began before is not previewed any more
    have hfirst : ∀ e payload planned e' payload' planned', entry = .began e payload planned →
        .began e' payload' planned' ∈ d.journal → e.id ≠ e'.id := by
      rintro e payload planned e' payload' planned' rfl hmem hid
      obtain ⟨hlatest, hstate, -⟩ := h.began hadd
      refine hbegun.not_latest hmem hid.symm (EffectTable.get_of_latest hlatest) ?_
      rw [hstate]
      decide
    intro e payload planned e' payload' planned' hmem hmem' hid
    rw [hadd] at hmem hmem'
    rcases List.mem_cons.mp hmem with hnew | hold
    · rcases List.mem_cons.mp hmem' with hnew' | hold'
      · cases hnew.trans hnew'.symm
        exact ⟨rfl, rfl, rfl⟩
      · exact absurd hid (hfirst _ _ _ _ _ _ hnew.symm hold')
    · rcases List.mem_cons.mp hmem' with hnew' | hold'
      · exact absurd hid.symm (hfirst _ _ _ _ _ _ hnew'.symm hold)
      · exact honce e payload planned e' payload' planned' hold hold' hid

/-! ## Pending and applied versions -/

/-- The task of a version carries the targets it began with. -/
def TaskPlanned (d : Durable) (e : Effect) : Prop :=
  ∃ taskId task planned, e.columns.compensationTaskId = some taskId ∧
    d.tasks.getTask taskId = some task ∧ task.targets = planned.map PlannedTarget.cashTarget ∧
    BeganWith d e.id planned

/-- Every target a version began with was read back. -/
def ReadBackAll (d : Durable) (id : Nat) : Prop :=
  ∃ planned, BeganWith d id planned ∧ ∀ p ∈ planned, .verified id p.mutation.identity ∈ d.journal

/-- A write is one of a target its version began with. -/
def WritePlanned (d : Durable) (write : HoldingWrite) : Prop :=
  ∃ planned, BeganWith d write.effect.id planned ∧ ∃ p ∈ planned, write.target = p.mutation

/-- What every state a run reaches keeps about pending and applied versions and about writes. -/
structure Traced (d : Durable) : Prop where
  /-- a pending compensation has the targets of its version -/
  pending : ∀ e ∈ d.db.effects.rows, e.state = .compensationPending → TaskPlanned d e
  /-- an applied version was read back -/
  applied : ∀ e ∈ d.db.effects.rows, e.kind = .cashFlow → e.state = .applied → ReadBackAll d e.id
  /-- writes are planned -/
  writes : ∀ write, .wrote write ∈ d.journal → WritePlanned d write

section
variable {C : CallContext} {d d' : Durable}

theorem ReadBackAll.mono {id : Nat} (h : ReadBackAll d id) (hjournal : d.journal <:+ d'.journal) :
    ReadBackAll d' id := by
  obtain ⟨planned, hbegan, hverified⟩ := h
  exact ⟨planned, hbegan.mono hjournal, fun p hp => hjournal.subset (hverified p hp)⟩

/-- Tasks keep their targets. -/
theorem Move.getTask (h : Move C d d') {taskId : Nat} {task : CompensationTask CashTarget}
    (hget : d.tasks.getTask taskId = some task) :
    ∃ task', d'.tasks.getTask taskId = some task' ∧ task'.targets = task.targets := by
  cases h with
  | drift | store | begin | verify | baseline | acceptBaseline | fail | finish | finalize =>
    exact ⟨task, hget, rfl⟩
  | send =>
    rw [(send_kept _ _ _ _ _).2.1]
    exact ⟨task, hget, rfl⟩
  | createTask made began targets status taskId' =>
    have hlt : taskId < d.tasks.nextId := by
      rw [← TaskLog.taskId_of_getTask hget]
      exact d.tasks.fresh task (TaskLog.mem_of_getTask hget)
    refine ⟨task, ?_, rfl⟩
    have hne : (made d.tasks.nextId).taskId ≠ taskId := by
      rw [taskId']
      exact Nat.ne_of_gt hlt
    exact (List.find?_cons_of_neg (by simpa using hne)).trans hget
  | taskStatus fold hid targets transition =>
    rw [TaskLog.getTask_setStatus hid, hget, Option.map_some]
    split
    · exact ⟨_, rfl, targets task⟩
    · exact ⟨task, rfl, rfl⟩

theorem TaskPlanned.mono {e e' : Effect} (h : TaskPlanned d e) (hmove : Move C d d')
    (hid : e'.id = e.id) (htask : e'.columns.compensationTaskId = e.columns.compensationTaskId) :
    TaskPlanned d' e' := by
  obtain ⟨taskId, task, planned, hcolumn, hget, htargets, hbegan⟩ := h
  obtain ⟨task', hget', htargets'⟩ := hmove.getTask hget
  exact ⟨taskId, task', planned, htask.trans hcolumn, hget', htargets'.trans htargets,
    hid ▸ hbegan.mono hmove.journal⟩

/-! ## Rows after a step -/

/-- A row of a table that is pending or, if it is one of the ledger, applied was so before. -/
def Settles (t t' : EffectTable) : Prop :=
  ∀ e' ∈ t'.rows, e'.state = .compensationPending ∨ e'.kind = .cashFlow ∧ e'.state = .applied →
    ∃ e ∈ t.rows, e'.id = e.id ∧ e'.kind = e.kind ∧ e'.state = e.state ∧
      e'.columns.compensationTaskId = e.columns.compensationTaskId

theorem Settles.refl (t : EffectTable) : Settles t t := fun e he _ => ⟨e, he, rfl, rfl, rfl, rfl⟩

theorem Settles.trans {t t' t'' : EffectTable} (h : Settles t t') (h' : Settles t' t'') :
    Settles t t'' := by
  intro e'' he'' hstate
  obtain ⟨e', he', hid', hkind', hstate', htask'⟩ := h' e'' he'' hstate
  rw [hkind', hstate'] at hstate
  obtain ⟨e, he, hid, hkind, hsame, htask⟩ := h e' he' hstate
  exact ⟨e, he, hid'.trans hid, hkind'.trans hkind, hstate'.trans hsame, htask'.trans htask⟩

/-- A change of a row that makes it neither pending nor applied, or keeps its state and task. -/
theorem Settles.modify {t : EffectTable} {e : Effect} {f : EffectColumns → EffectColumns}
    (hget : t.get e.id = some e)
    (h : ((f e.columns).state ≠ .compensationPending ∧
        (e.kind = .cashFlow → (f e.columns).state ≠ .applied)) ∨
      ((f e.columns).state = e.state ∧
        (f e.columns).compensationTaskId = e.columns.compensationTaskId)) :
    Settles t (t.modify e.id f) := by
  intro e' he' hstate
  rw [EffectTable.rows_modify] at he'
  obtain ⟨a, ha, rfl⟩ := List.mem_map.mp he'
  by_cases hid : a.id = e.id
  · obtain rfl := EffectTable.eq_of_id_eq ha (EffectTable.mem_of_get hget) hid
    rw [if_pos rfl, Effect.state_withColumns, Effect.kind_withColumns] at hstate
    rw [if_pos rfl]
    rcases h with ⟨hpending, happlied⟩ | ⟨hsame, htask⟩
    · rcases hstate with hs | ⟨hkind, hs⟩
      · exact absurd hs hpending
      · exact absurd hs (happlied hkind)
    · exact ⟨a, ha, rfl, rfl, hsame, htask⟩
  · rw [if_neg hid]
    exact ⟨a, ha, rfl, rfl, rfl, rfl⟩

theorem Settles.push {t : EffectTable} {kind : EffectKind} {source : Source} {mode : EffectMode}
    {state : EffectState}
    (hnew : state ∈ EffectState.idle ∨ kind = .externalChange ∧ state = .recordOnly) :
    Settles t (t.push kind source mode state) := by
  intro e' he' hstate
  have hget := EffectTable.get_of_mem he'
  rw [EffectTable.get_push] at hget
  split at hget
  · -- the new row
    cases hget
    rw [EffectTable.state_newRow, EffectTable.kind_newRow] at hstate
    rcases hnew with hidle | ⟨-, hrecord⟩
    · rcases hstate with hs | ⟨-, hs⟩ <;> rw [hs] at hidle <;> exact absurd hidle (by decide)
    · rcases hstate with hs | ⟨-, hs⟩ <;> rw [hrecord] at hs <;> cases hs
  split at hget
  · -- a superseded row
    obtain ⟨a, -, rfl⟩ := Option.map_eq_some_iff.mp hget
    rw [Effect.state_withColumns] at hstate
    rcases hstate with hs | ⟨-, hs⟩ <;> cases hs
  · exact ⟨e', EffectTable.mem_of_get hget, rfl, rfl, rfl, rfl⟩

/-- A transaction finishes and fails nothing. -/
theorem StoreStep.settles {s : Reading} {db db' : Db} (h : StoreStep s db db') :
    Settles db.effects db'.effects := by
  cases h with
  | bookkeeping effects =>
    rw [effects]
    exact .refl _
  | observe | baseline => exact .refl _
  | create type changed unowned origin => exact .push (origin.state.imp_left (idle_of_discovered _))
  | @advance e f event get idle idle' =>
    refine .modify get (.inl ⟨?_, fun _ => ?_⟩) <;> intro hs <;> rw [hs] at idle' <;>
      exact absurd idle' (by decide)
  | annotate event get state targets task => exact .modify get (.inr ⟨state, task⟩)
  | recordOnly event get state state' =>
    exact .modify get (.inl ⟨by rw [state']; decide, fun _ => by rw [state']; decide⟩)
  | resolve event get kind state state' =>
    refine .modify get (.inl ⟨by rw [state']; decide, fun hkind => ?_⟩)
    rw [kind] at hkind
    cases hkind
  | acceptAgain event drifts decided latest state' =>
    exact .modify (EffectTable.get_of_latest latest)
      (.inl ⟨by rw [state']; decide, fun _ => by rw [state']; decide⟩)

/-- The versions after a step: settled before, failed by it with a task, or finished by it. -/
theorem Move.settles (h : Move C d d') : Settles d.db.effects d'.db.effects ∨
    (∃ e planned taskId task f, d.db.effects.get e.id = some e ∧
      d'.db.effects = d.db.effects.modify e.id f ∧ BeganWith d e.id planned ∧
      d.tasks.getTask taskId = some task ∧ task.targets = planned.map PlannedTarget.cashTarget ∧
      (f e.columns).state = .compensationPending ∧ (f e.columns).compensationTaskId = some taskId) ∨
    (∃ e planned f, d.db.effects.get e.id = some e ∧ d'.db.effects = d.db.effects.modify e.id f ∧
      (f e.columns).state = .applied ∧ (e.state = .applying ∧ BeganWith d e.id planned ∧
        (∀ p ∈ planned, .verified e.id p.mutation.identity ∈ d.journal) ∨
      ∃ taskId task, TaskOf d e.id taskId task ∧
        ∀ t ∈ task.targets, .verified e.id t.mutation.identity ∈ d.journal)) := by
  cases h with
  | drift | verify | baseline | acceptBaseline | createTask | taskStatus => exact .inl (.refl _)
  | store s from_world steps =>
    refine .inl ?_
    induction steps with
    | refl => exact .refl _
    | tail _ hstep ih => exact ih.trans hstep.settles
  | send =>
    rw [(send_kept _ _ _ _ _).1]
    exact .inl (.refl _)
  | begin event latest state state' =>
    exact .inl (.modify (EffectTable.get_of_latest latest)
      (.inl ⟨by rw [state']; decide, fun _ => by rw [state']; decide⟩))
  | @fail e planned taskId task f event get state began task_get targets state' taskId' =>
    exact .inr (.inl ⟨e, planned, taskId, task, f, get, rfl, began.with, task_get, targets, state', taskId'⟩)
  | @finish e planned f event get state state' applies began verified =>
    exact .inr (.inr ⟨e, planned, f, get, rfl, state', .inl ⟨state, began.with, verified⟩⟩)
  | @finalize e taskId task f event get taskOf resolved state' applies verified =>
    exact .inr (.inr ⟨e, [], f, get, rfl, state', .inr ⟨taskId, task, taskOf, verified⟩⟩)

/-! ## The invariant -/

/-- A target a call may write was planned. -/
theorem Authorized.planned {id : Nat} {writer : Writer} {target : HoldingTarget}
    (h : Authorized C d id writer target) (htraced : Traced d) :
    ∃ planned, BeganWith d id planned ∧ ∃ p ∈ planned, target = p.mutation := by
  cases h with
  | @confirm e planned p get state began mem => exact ⟨planned, began.with, p, mem, rfl⟩
  | @compensation taskId task t taskOf mem =>
    obtain ⟨hget, e, hrow, hstate, hcolumn⟩ := taskOf
    obtain ⟨taskId', task', planned, hcolumn', hget', htargets, hbegan⟩ :=
      htraced.pending e (EffectTable.mem_of_get hrow) hstate
    rw [hcolumn] at hcolumn'
    cases hcolumn'
    rw [hget] at hget'
    cases hget'
    rw [htargets] at mem
    obtain ⟨p, hp, rfl⟩ := List.mem_map.mp mem
    exact ⟨planned, EffectTable.id_of_get hrow ▸ hbegan, p, hp, rfl⟩

/-- A version whose task was read back is read back. -/
theorem TaskPlanned.readBack {e : Effect} {taskId : Nat} {task : CompensationTask CashTarget}
    (h : TaskPlanned d e) (hcolumn : e.columns.compensationTaskId = some taskId)
    (hget : d.tasks.getTask taskId = some task)
    (hverified : ∀ t ∈ task.targets, .verified e.id t.mutation.identity ∈ d.journal) :
    ReadBackAll d e.id := by
  obtain ⟨taskId', task', planned, hcolumn', hget', htargets, hbegan⟩ := h
  rw [hcolumn] at hcolumn'
  cases hcolumn'
  rw [hget] at hget'
  cases hget'
  refine ⟨planned, hbegan, fun p hp => ?_⟩
  exact hverified p.cashTarget (htargets ▸ List.mem_map_of_mem hp)

theorem Move.traced (h : Move C d d') (htraced : Traced d) : Traced d' := by
  have hjournal := h.journal
  -- rows that were settled before
  have hrows : Settles d.db.effects d'.db.effects → ∀ e ∈ d'.db.effects.rows,
      (e.state = .compensationPending → TaskPlanned d' e) ∧
      (e.kind = .cashFlow → e.state = .applied → ReadBackAll d' e.id) := by
    intro hsettles e' he'
    refine ⟨fun hs => ?_, fun hkind hs => ?_⟩
    · obtain ⟨e, he, hid, -, hstate, htask⟩ := hsettles e' he' (.inl hs)
      exact (htraced.pending e he (hstate ▸ hs)).mono h hid htask
    · obtain ⟨e, he, hid, hkind', hstate, -⟩ := hsettles e' he' (.inr ⟨hkind, hs⟩)
      rw [hid]
      exact (htraced.applied e he (hkind' ▸ hkind) (hstate ▸ hs)).mono hjournal
  -- a row of a table in which one row was changed
  have hmodify : ∀ {e f}, d.db.effects.get e.id = some e →
      d'.db.effects = d.db.effects.modify e.id f →
      ((f e.columns).state = .compensationPending → TaskPlanned d' (e.withColumns f)) →
      (e.kind = .cashFlow → (f e.columns).state = .applied → ReadBackAll d' e.id) →
      ∀ e ∈ d'.db.effects.rows, (e.state = .compensationPending → TaskPlanned d' e) ∧
        (e.kind = .cashFlow → e.state = .applied → ReadBackAll d' e.id) := by
    intro e f hget hnext hpending happlied e' he'
    rw [hnext, EffectTable.rows_modify] at he'
    obtain ⟨a, ha, rfl⟩ := List.mem_map.mp he'
    by_cases hid : a.id = e.id
    · obtain rfl := EffectTable.eq_of_id_eq ha (EffectTable.mem_of_get hget) hid
      rw [if_pos rfl]
      exact ⟨hpending, happlied⟩
    · rw [if_neg hid]
      exact ⟨fun hs => (htraced.pending a ha hs).mono h rfl rfl,
        fun hkind hs => (htraced.applied a ha hkind hs).mono hjournal⟩
  have hall : ∀ e ∈ d'.db.effects.rows, (e.state = .compensationPending → TaskPlanned d' e) ∧
      (e.kind = .cashFlow → e.state = .applied → ReadBackAll d' e.id) := by
    rcases h.settles with hsettles | ⟨e, planned, taskId, task, f, hget, hnext, hbegan, htask,
      htargets, hstate, hcolumn⟩ | ⟨e, planned, f, hget, hnext, hstate, hdone⟩
    · exact hrows hsettles
    · obtain ⟨task', htask', htargets'⟩ := h.getTask htask
      refine hmodify hget hnext (fun _ => ?_) fun _ hs => ?_
      · exact ⟨taskId, task', planned, hcolumn, htask', htargets'.trans htargets, hbegan.mono hjournal⟩
      · rw [hstate] at hs
        cases hs
    · refine hmodify hget hnext (fun hs => ?_) fun _ _ => ?_
      · rw [hstate] at hs
        cases hs
      · rcases hdone with ⟨-, hbegan, hverified⟩ | ⟨taskId, task, ⟨htask, b, hb, hs, hcolumn⟩, hverified⟩
        · exact ReadBackAll.mono ⟨planned, hbegan, hverified⟩ hjournal
        · rw [hget] at hb
          cases hb
          exact ((htraced.pending e (EffectTable.mem_of_get hget) hs).readBack hcolumn htask
            hverified).mono hjournal
  refine ⟨fun e he => (hall e he).1, fun e he => (hall e he).2, fun write hmem => ?_⟩
  have hold : .wrote write ∈ d.journal → WritePlanned d' write := by
    intro hmem
    obtain ⟨planned, hbegan, hp⟩ := htraced.writes write hmem
    exact ⟨planned, hbegan.mono hjournal, hp⟩
  rcases h.journal_step with hsame | ⟨entry, hadd⟩
  · exact hold (hsame ▸ hmem)
  · rw [hadd] at hmem
    rcases List.mem_cons.mp hmem with rfl | hmem
    · obtain ⟨planned, hbegan, hp⟩ := (h.wrote hadd).1.planned htraced
      exact ⟨planned, hbegan.mono hjournal, hp⟩
    · exact hold hmem

end

/-! ## Runs -/

/-- The states a run reaches. -/
structure RunTraced (d : Durable) : Prop extends Traced d where
  /-- versions that began are not idle -/
  begun : Begun d
  /-- a version begins once -/
  once : BeginsOnce d

theorem RunTraced.run {w : World} (hinit : w.Initial) (steps : List Step) :
    RunTraced (runSteps w steps).toDurable := by
  have hnone : ∀ entry, entry ∉ w.journal := by
    rw [hinit.journal]
    exact fun _ => List.not_mem_nil
  have hrows : ∀ e, e ∉ w.db.effects.rows := by
    rw [hinit.effects]
    exact fun _ => List.not_mem_nil
  refine run_move_invariant steps (fun _ _ _ h => ⟨⟨h.pending, h.applied, h.writes⟩, h.begun, h.once⟩)
    (fun _ _ _ hmove h => ⟨hmove.traced h.toTraced, hmove.begun h.begun,
      hmove.beginsOnce h.begun h.once⟩) hinit ⟨⟨?_, ?_, ?_⟩, ?_, ?_⟩
  · exact fun e he => absurd he (hrows e)
  · exact fun e he => absurd he (hrows e)
  · exact fun write hmem => absurd hmem (hnone _)
  · exact fun e payload planned hmem => absurd hmem (hnone _)
  · exact fun e payload planned e' payload' planned' hmem => absurd hmem (hnone _)

theorem runSteps_append (w : World) (steps more : List Step) :
    runSteps w (steps ++ more) = runSteps (runSteps w steps) more := List.foldl_append

/-- The tables of a run follow from one another. -/
theorem table_run {w : World} (hu : UnresolvedLatest w.db.effects) (steps : List Step) :
    ReflTransGen TableStep w.db.effects (runSteps w steps).db.effects :=
  (run_invariant (E := anyEdit) (I := fun d => ReflTransGen TableStep w.db.effects d.db.effects)
    (fun _ step _ => step.editsWithin_any) (fun _ _ h _ => h)
    (fun d _ _ _ _ h _ _ hpath =>
      ReflTransGen.trans (show ReflTransGen TableStep _ d.start.db.effects from h)
        (Move.table_path hpath)) (Meets.any w steps) hu .refl).1

/-- In every state a run reaches, the versions of a record are numbered from one, each has another
source than the one before, and all but the newest are resolved; and whatever the run does then, a
version keeps what identifies it, an applied version of a ledger record stays applied and a version
that began stays begun. -/
theorem version_chains_are_linear {w : World} (hinit : w.Initial) (steps more : List Step) :
    (∀ k, (((runSteps w steps).db.effects.lineage k).map Prod.fst =
        (List.range' 1 ((runSteps w steps).db.effects.lineage k).length).reverse ∧
      ((runSteps w steps).db.effects.lineage k).IsChain fun newer older => newer.2 ≠ older.2) ∧
      ∀ e ∈ ((runSteps w steps).db.effects.chain k).tail, e.state ∉ EffectState.unresolved) ∧
    ∀ e ∈ (runSteps w steps).db.effects.rows,
      ∃ e' ∈ (runSteps w (steps ++ more)).db.effects.rows, SameVersion e e' ∧
        (e.kind = .cashFlow → e.state = .applied → e'.state = .applied) ∧
        (e.state ∉ EffectState.idle → e'.state ∉ EffectState.idle) := by
  have hu := unresolvedLatest_run hinit steps
  have hlinear : (runSteps w steps).db.effects.Linear := by
    refine Prog.path_invariant (I := EffectTable.Linear) (fun _ _ => TableStep.linear)
      (table_run hinit.unresolvedLatest steps) ?_
    have hrows : ∀ k, w.db.effects.lineage k = [] := by
      intro k
      unfold EffectTable.lineage EffectTable.chain
      rw [hinit.effects]
      rfl
    refine ⟨fun k => ?_, fun k => ?_⟩ <;> rw [hrows]
    · rfl
    · exact .nil
  refine ⟨fun k => ⟨⟨hlinear.numbered k, hlinear.changing k⟩, fun e he => hu.tail he⟩, fun e he => ?_⟩
  rw [runSteps_append]
  obtain ⟨e', he', hturns⟩ := TableStep.turn_path (table_run hu more) (EffectTable.get_of_mem he)
  exact ⟨e', EffectTable.mem_of_get he', same_of_turns hturns, applied_of_turns hturns,
    not_idle_of_turns hturns⟩

/-- In every state a run reaches, an applied version of a ledger record began once, and each of the
targets it began with was read back. -/
theorem applied_effects_were_read_back {w : World} (hinit : w.Initial) (steps : List Step)
    {e : Effect} (he : e ∈ (runSteps w steps).db.effects.rows) (hkind : e.kind = .cashFlow)
    (hstate : e.state = .applied) :
    ∃ b payload planned, SameVersion b e ∧ .began b payload planned ∈ (runSteps w steps).journal ∧
      (∀ b' payload' planned', b'.id = e.id →
        .began b' payload' planned' ∈ (runSteps w steps).journal →
        b' = b ∧ payload' = payload ∧ planned' = planned) ∧
      ∀ p ∈ planned, .verified e.id p.mutation.identity ∈ (runSteps w steps).journal := by
  have htraced := RunTraced.run hinit steps
  obtain ⟨planned, ⟨b, payload, hid, hbegan⟩, hverified⟩ := htraced.applied e he hkind hstate
  obtain ⟨a, ha, hsame, -⟩ := htraced.begun b payload planned hbegan
  rw [hid, EffectTable.get_of_mem he] at ha
  cases ha
  refine ⟨b, payload, planned, hsame, hbegan, fun b' payload' planned' hid' hbegan' => ?_, hverified⟩
  exact htraced.once _ _ _ _ _ _ hbegan' hbegan (hid'.trans hid.symm)

/-- The hash that the rejected confirmation reported is confirmed. -/
def appliedSteps : List Step :=
  rejectedSteps ++ [.call reportedConfirm [] []]

theorem appliedSteps_applied : ∃ e ∈ (runSteps smallWorld appliedSteps).db.effects.rows,
    e.kind = .cashFlow ∧ e.state = .applied := by
  decide +kernel

/-- The row of 20.00 was read back. -/
theorem applied_effects_were_read_back_small : ∃ e b payload planned,
    SameVersion b e ∧ .began b payload planned ∈ (runSteps smallWorld appliedSteps).journal ∧
    ∀ p ∈ planned, .verified e.id p.mutation.identity ∈ (runSteps smallWorld appliedSteps).journal := by
  obtain ⟨e, he, hkind, hstate⟩ := appliedSteps_applied
  obtain ⟨b, payload, planned, hsame, hbegan, -, hverified⟩ :=
    applied_effects_were_read_back smallWorld_initial appliedSteps he hkind hstate
  exact ⟨e, b, payload, planned, hsame, hbegan, hverified⟩

/-- The row of 20.00 has one version, which is applied. -/
theorem version_chains_are_linear_small : ∃ e ∈ (runSteps smallWorld appliedSteps).db.effects.rows,
    e.kind = .cashFlow ∧ e.state = .applied ∧
      ∃ e' ∈ (runSteps smallWorld (appliedSteps ++ [.call (.scan none false none) [] []])).db.effects.rows,
        SameVersion e e' ∧ e'.state = .applied := by
  obtain ⟨e, he, hkind, hstate⟩ := appliedSteps_applied
  obtain ⟨e', he', hsame, happlied, -⟩ :=
    (version_chains_are_linear smallWorld_initial appliedSteps
      [.call (.scan none false none) [] []]).2 e he
  exact ⟨e, he, hkind, hstate, e', he', hsame, happlied hkind hstate⟩

/-- Whatever a run does after a state it reached, what is applied of a ledger record stays what it was, or
it becomes the source of a version that is at least as new as the latest one of that state: no older
version is applied again. -/
theorem applied_source_never_goes_back {w : World} (hinit : w.Initial) (steps more : List Step)
    {k : EffectKey} (hk : k.kind = .cashFlow) :
    AppliedForward k (runSteps w steps).db.effects (runSteps w (steps ++ more)).db.effects := by
  have hu := unresolvedLatest_run hinit steps
  rw [runSteps_append]
  exact TableStep.applied_path (table_run hu more) hu hk

/-- A scan after the confirmation leaves what it applied. -/
theorem applied_source_never_goes_back_small : ∃ e ∈ (runSteps smallWorld appliedSteps).db.effects.rows,
    e.state = .applied ∧ AppliedForward e.key (runSteps smallWorld appliedSteps).db.effects
      (runSteps smallWorld (appliedSteps ++ [.call (.scan none false none) [] []])).db.effects := by
  obtain ⟨e, he, hkind, hstate⟩ := appliedSteps_applied
  have hkey : e.key.kind = .cashFlow := hkind
  exact ⟨e, he, hstate, applied_source_never_goes_back smallWorld_initial appliedSteps
    [.call (.scan none false none) [] []] hkey⟩

/-- In every run, each write of a holding, by a confirmation or by a compensation, is one of a target
its version began with, and the task of every pending version carries these targets. -/
theorem writes_are_planned {w : World} (hinit : w.Initial) (steps : List Step) :
    (∀ write ∈ (runSteps w steps).writes, ∃ b payload planned, b.id = write.effect.id ∧
      .began b payload planned ∈ (runSteps w steps).journal ∧
      ∃ p ∈ planned, write.target = p.mutation) ∧
    ∀ e ∈ (runSteps w steps).db.effects.rows, e.state = .compensationPending →
      ∃ taskId task b payload planned, e.columns.compensationTaskId = some taskId ∧
        (runSteps w steps).tasks.getTask taskId = some task ∧ b.id = e.id ∧
        .began b payload planned ∈ (runSteps w steps).journal ∧
        task.targets = planned.map PlannedTarget.cashTarget := by
  have htraced := RunTraced.run hinit steps
  refine ⟨fun write hwrite => ?_, fun e he hstate => ?_⟩
  · obtain ⟨planned, ⟨b, payload, hid, hbegan⟩, hp⟩ :=
      htraced.writes write (Durable.mem_writes.mp hwrite)
    exact ⟨b, payload, planned, hid, hbegan, hp⟩
  · obtain ⟨taskId, task, planned, hcolumn, hget, htargets, b, payload, hid, hbegan⟩ :=
      htraced.pending e he hstate
    exact ⟨taskId, task, b, payload, planned, hcolumn, hget, hid, hbegan, htargets⟩

/-- The write of 20.00 was planned. -/
theorem writes_are_planned_small : ∃ write ∈ (runSteps smallWorld appliedSteps).writes,
    ∃ b payload planned, b.id = write.effect.id ∧
      .began b payload planned ∈ (runSteps smallWorld appliedSteps).journal ∧
      ∃ p ∈ planned, write.target = p.mutation := by
  have hwrites : (runSteps smallWorld appliedSteps).writes ≠ [] := by decide +kernel
  obtain ⟨write, hwrite⟩ := List.exists_mem_of_ne_nil _ hwrites
  exact ⟨write, hwrite, (writes_are_planned smallWorld_initial appliedSteps).1 write hwrite⟩

end PortfolioManagement
