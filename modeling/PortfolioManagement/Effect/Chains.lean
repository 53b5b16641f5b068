import PortfolioManagement.Effect.Transaction

/-!
# The life of a version

What a step can do to the version table, said once: nothing, a new version, or a change of the
columns of one version, whose state turns in one of a few ways (`StateTurn`). From it follow the
facts about version chains that hold in every state a run reaches: unresolved versions are the
latest of their chains, an applied version of a ledger record stays applied, and what is applied of
a record changes only when a confirmation or a compensation of its latest version finishes.
-/

namespace PortfolioManagement

open Relation (ReflTransGen)

/-! ## Table steps -/

/-- How the state of a version may turn in one write. -/
inductive StateTurn (e : Effect) : EffectState → Prop
  | keep : StateTurn e e.state
  | idle {s : EffectState} (from_idle : e.state ∈ EffectState.idle) (to_idle : s ∈ EffectState.idle) :
    StateTurn e s
  | begin (from_previewed : e.state = .previewed) : StateTurn e .applying
  | recordOnly (from_previewed : e.state = .previewed)
    (mode : e.kind = .cashFlow → e.mode = .recordOnly) : StateTurn e .recordOnly
  | fail (from_applying : e.state = .applying) : StateTurn e .compensationPending
  | finish (from_started : e.state = .applying ∨ e.state = .compensationPending) :
    StateTurn e .applied
  | observe (kind : e.kind = .externalChange) (from_resolvable : e.state ∈ EffectState.resolvable) :
    StateTurn e .applied
  | accept (kind : e.kind = .externalChange) (from_other : e.state ≠ .compensationPending) :
    StateTurn e .recordOnly

/-- What one write does to the version table. -/
inductive TableStep : EffectTable → EffectTable → Prop
  | same {t : EffectTable} : TableStep t t
  | push {t : EffectTable} {kind : EffectKind} {source : Source} {mode : EffectMode}
    {state : EffectState}
    (changed : ∀ l, t.latest ⟨kind, source.recordId⟩ = some l → l.source ≠ source)
    (unowned : ∀ l, t.latest ⟨kind, source.recordId⟩ = some l → l.state ≠ .compensationPending)
    (state_new : state ∈ EffectState.idle ∨ kind = .externalChange ∧ state = .recordOnly) :
    TableStep t (t.push kind source mode state)
  | modify {t : EffectTable} {e : Effect} {f : EffectColumns → EffectColumns}
    (get : t.get e.id = some e) (turn : StateTurn e (f e.columns).state) :
    TableStep t (t.modify e.id f)

/-- What one write of a transaction does to the version table. -/
theorem StoreStep.table {s : Reading} {db db' : Db} (h : StoreStep s db db') :
    TableStep db.effects db'.effects := by
  cases h with
  | bookkeeping effects => rw [effects]; exact .same
  | observe => exact .same
  | baseline => exact .same
  | create type changed unowned origin => exact .push changed unowned (origin.state.imp_left (idle_of_discovered _))
  | advance event get idle idle' => exact .modify get (.idle idle idle')
  | annotate event get state => exact .modify get (state ▸ .keep)
  | recordOnly event get state state' mode => exact .modify get (state' ▸ .recordOnly state mode)
  | resolve event get kind state state' => exact .modify get (state' ▸ .observe kind state)
  | acceptAgain event drifts decided latest state' =>
    refine .modify (EffectTable.get_of_latest latest) ?_
    rw [state']
    exact .accept (congrArg EffectKey.kind (EffectTable.key_of_latest latest))
      (drift_acceptAgain decided).2.2

/-- What one step of a call does to the version table. -/
theorem Move.table {C : CallContext} {d d' : Durable} (h : Move C d d') :
    ReflTransGen TableStep d.db.effects d'.db.effects := by
  cases h with
  | drift | verify | baseline | acceptBaseline | createTask | taskStatus => exact .refl
  | store s from_world steps => exact steps.lift Db.effects fun _ _ => StoreStep.table
  | send => rw [(send_kept _ _ _ _ _).1]
  | begin event latest state state' =>
    exact .single (.modify (EffectTable.get_of_latest latest) (state' ▸ .begin state))
  | fail event get state began task_get targets state' =>
    exact .single (.modify get (state' ▸ .fail state))
  | finish event get state state' => exact .single (.modify get (state' ▸ .finish (.inl state)))
  | finalize event get taskOf resolved state' =>
    obtain ⟨-, b, hb, hs, -⟩ := taskOf
    rw [get] at hb
    cases hb
    exact .single (.modify get (state' ▸ .finish (.inr hs)))

theorem Move.table_path {C : CallContext} {d d' : Durable} (h : ReflTransGen (Move C) d d') :
    ReflTransGen TableStep d.db.effects d'.db.effects := by
  induction h with
  | refl => exact .refl
  | tail _ hmove ih => exact ih.trans hmove.table

/-! ## Turns of a version -/

theorem resolvable_of_unresolved {s : EffectState} (h : s ∈ EffectState.unresolved)
    (hne : s ≠ .compensationPending) : s ∈ EffectState.resolvable := by
  cases s <;> simp_all [EffectState.unresolved, EffectState.resolvable]

/-- A version after one write: a turn, or superseded by a new version of its chain. -/
def Turn (e e' : Effect) : Prop :=
  ∃ f, e' = e.withColumns f ∧
    (StateTurn e (f e.columns).state ∨
      e.state ∈ EffectState.resolvable ∧ (f e.columns).state = .superseded)

/-- What one write does to a version. -/
theorem TableStep.turn {t t' : EffectTable} (h : TableStep t t') {id : Nat} {a : Effect}
    (ha : t.get id = some a) : ∃ a', t'.get id = some a' ∧ ReflTransGen Turn a a' := by
  cases h with
  | same => exact ⟨a, ha, .refl⟩
  | push changed unowned =>
    rw [EffectTable.get_push, if_neg (Nat.ne_of_lt (EffectTable.get_lt_nextId ha))]
    split
    · rename_i hsup
      obtain ⟨l, hl, hid⟩ := Option.map_eq_some_iff.mp hsup
      obtain ⟨hlatest, hunresolved⟩ := EffectTable.supersededBy_eq_some hl
      obtain rfl : l = a := EffectTable.eq_of_id_eq (EffectTable.mem_of_latest hlatest)
        (EffectTable.mem_of_get ha) (hid.trans (EffectTable.id_of_get ha).symm)
      refine ⟨_, by rw [ha]; rfl, .single ⟨_, rfl, .inr ⟨?_, rfl⟩⟩⟩
      exact resolvable_of_unresolved hunresolved (unowned l hlatest)
    · exact ⟨a, ha, .refl⟩
  | @modify e f get turn =>
    by_cases hid : id = e.id
    · subst hid
      obtain rfl : e = a := Option.some.inj (get.symm.trans ha)
      exact ⟨_, EffectTable.get_modify_self ha, .single ⟨f, rfl, .inl turn⟩⟩
    · exact ⟨a, by rw [EffectTable.get_modify_ne hid, ha], .refl⟩

theorem TableStep.turn_path {t t' : EffectTable} (h : ReflTransGen TableStep t t') {id : Nat}
    {a : Effect} (ha : t.get id = some a) : ∃ a', t'.get id = some a' ∧ ReflTransGen Turn a a' := by
  induction h with
  | refl => exact ⟨a, ha, .refl⟩
  | tail _ hstep ih =>
    obtain ⟨b, hb, hab⟩ := ih
    obtain ⟨b', hb', hbb'⟩ := hstep.turn hb
    exact ⟨b', hb', hab.trans hbb'⟩

section
variable {a a' : Effect}

/-- What identifies a version does not change. -/
structure SameVersion (a a' : Effect) : Prop where
  /-- the id -/
  id : a'.id = a.id
  /-- the kind -/
  kind : a'.kind = a.kind
  /-- the version number -/
  version : a'.version = a.version
  /-- the source -/
  source : a'.source = a.source
  /-- the mode -/
  mode : a'.mode = a.mode

theorem same_of_turns (h : ReflTransGen Turn a a') : SameVersion a a' := by
  induction h with
  | refl => exact ⟨rfl, rfl, rfl, rfl, rfl⟩
  | tail _ hturn ih =>
    obtain ⟨f, rfl, -⟩ := hturn
    exact ⟨ih.id, ih.kind, ih.version, ih.source, ih.mode⟩

/-- A version that left the idle states never comes back. -/
theorem not_idle_of_turns (h : ReflTransGen Turn a a') (ha : a.state ∉ EffectState.idle) :
    a'.state ∉ EffectState.idle := by
  induction h with
  | refl => exact ha
  | @tail b c hpath hturn ih =>
    obtain ⟨f, rfl, hs | ⟨-, hs⟩⟩ := hturn
    · rw [Effect.state_withColumns]
      generalize (f b.columns).state = s at hs
      cases hs with
      | keep => exact ih
      | idle from_idle => exact absurd from_idle ih
      | begin | recordOnly | fail | finish | observe | accept => decide
    · rw [Effect.state_withColumns, hs]
      decide

/-- An applied version of a ledger record stays applied. -/
theorem applied_of_turns (h : ReflTransGen Turn a a') (hkind : a.kind = .cashFlow)
    (ha : a.state = .applied) : a'.state = .applied := by
  induction h with
  | refl => exact ha
  | @tail b c hpath hturn ih =>
    obtain ⟨f, rfl, hs | ⟨hs, -⟩⟩ := hturn
    · have hk : b.kind = .cashFlow := (same_of_turns hpath).kind.trans hkind
      rw [Effect.state_withColumns]
      generalize (f b.columns).state = s at hs
      cases hs with
      | keep => exact ih
      | idle from_idle => rw [ih] at from_idle; exact absurd from_idle (by decide)
      | begin from_previewed => rw [ih] at from_previewed; cases from_previewed
      | recordOnly from_previewed => rw [ih] at from_previewed; cases from_previewed
      | fail from_applying => rw [ih] at from_applying; cases from_applying
      | finish => rfl
      | observe => rfl
      | accept kind => rw [hk] at kind; cases kind
    · rw [ih] at hs
      exact absurd hs (by decide)

end

/-! ## Chains -/

/-- Unresolved versions are the latest of their chains. -/
def UnresolvedLatest (t : EffectTable) : Prop :=
  ∀ e ∈ t.rows, e.state ∈ EffectState.unresolved → t.latest e.key = some e

/-- Only an unresolved version turns to an unresolved state. -/
theorem StateTurn.unresolved {e : Effect} {s : EffectState} (h : StateTurn e s)
    (hs : s ∈ EffectState.unresolved) : e.state ∈ EffectState.unresolved := by
  cases h with
  | keep => exact hs
  | idle from_idle =>
    revert from_idle
    cases e.state <;> simp [EffectState.idle, EffectState.unresolved]
  | begin from_previewed => rw [from_previewed]; decide
  | fail from_applying => rw [from_applying]; decide
  | recordOnly | finish | observe | accept => exact absurd hs (by decide)

theorem TableStep.unresolvedLatest {t t' : EffectTable} (h : TableStep t t')
    (hu : UnresolvedLatest t) : UnresolvedLatest t' := by
  cases h with
  | same => exact hu
  | @modify e f get turn =>
    intro a ha hs
    rw [EffectTable.rows_modify] at ha
    obtain ⟨b, hb, rfl⟩ := List.mem_map.mp ha
    rw [EffectTable.latest_modify]
    by_cases hid : b.id = e.id
    · obtain rfl := EffectTable.eq_of_id_eq hb (EffectTable.mem_of_get get) hid
      rw [if_pos hid] at hs ⊢
      rw [Effect.key_withColumns, hu b hb (turn.unresolved hs), Option.map_some, if_pos rfl]
    · rw [if_neg hid] at hs ⊢
      rw [hu b hb hs, Option.map_some, if_neg hid]
  | @push kind source mode state changed unowned state_new =>
    intro a ha hs
    have hget := EffectTable.get_of_mem ha
    rw [EffectTable.get_push] at hget
    rw [EffectTable.latest_push]
    by_cases hid : a.id = t.nextId
    · rw [if_pos hid] at hget
      cases hget
      rw [EffectTable.key_newRow, if_pos rfl]
    · rw [if_neg hid] at hget
      split at hget
      · obtain ⟨b, -, rfl⟩ := Option.map_eq_some_iff.mp hget
        exact absurd hs (by decide : EffectState.superseded ∉ EffectState.unresolved)
      · rename_i hsup
        have hlatest := hu a (EffectTable.mem_of_get hget) hs
        rw [if_neg ?_]
        · exact hlatest
        · intro hk
          rw [hk] at hlatest
          refine hsup ?_
          unfold EffectTable.supersededBy
          rw [hlatest, Option.filter_some, if_pos (by simpa using hs)]
          rfl

theorem TableStep.unresolvedLatest_path {t t' : EffectTable} (h : ReflTransGen TableStep t t')
    (hu : UnresolvedLatest t) : UnresolvedLatest t' :=
  Prog.path_invariant (fun _ _ hstep => hstep.unresolvedLatest) h hu

/-! ## What is applied of a record -/

namespace EffectTable

variable {t : EffectTable} {e : Effect} {f : EffectColumns → EffectColumns} {k : EffectKey}

/-- The source of the newest applied version. -/
def appliedSource (t : EffectTable) (k : EffectKey) : Option Source :=
  (t.lastApplied k).map Effect.source

/-- A change that keeps a row applied, or not applied, keeps what is applied. -/
theorem appliedSource_modify (hget : t.get e.id = some e)
    (hiff : (f e.columns).state = .applied ↔ e.state = .applied) :
    (t.modify e.id f).appliedSource k = t.appliedSource k := by
  unfold appliedSource lastApplied
  rw [rows_modify, List.find?_map, Option.map_map]
  rw [find?_congr_mem (q := fun a => decide (a.key = k) && decide (a.state = .applied))]
  · cases t.rows.find? fun a => decide (a.key = k) && decide (a.state = .applied) with
    | none => rfl
    | some a =>
      rw [Option.map_some, Option.map_some]
      simp only [Function.comp_apply]
      split <;> rfl
  · intro a ha
    simp only [Function.comp_apply]
    by_cases hid : a.id = e.id
    · obtain rfl := eq_of_id_eq ha (mem_of_get hget) hid
      rw [if_pos rfl, Effect.key_withColumns, Effect.state_withColumns,
        decide_eq_decide.mpr hiff]
    · rw [if_neg hid]

end EffectTable

/-- What is applied of a ledger record changes only when its latest version, applying or waiting
for a compensation, becomes applied. -/
theorem TableStep.appliedSource {t t' : EffectTable} (h : TableStep t t') (hu : UnresolvedLatest t)
    {k : EffectKey} (hk : k.kind = .cashFlow) :
    t'.appliedSource k = t.appliedSource k ∨
      ∃ e, t.latest k = some e ∧ (e.state = .applying ∨ e.state = .compensationPending) ∧
        (∃ f, t' = t.modify e.id f ∧ (f e.columns).state = .applied) ∧
          t'.appliedSource k = some e.source := by
  cases h with
  | same => exact .inl rfl
  | push changed unowned state_new =>
    refine .inl (congrArg (Option.map Effect.source) (EffectTable.lastApplied_push ?_ k))
    rcases state_new with h | ⟨-, h⟩
    · intro heq
      rw [heq] at h
      exact absurd h (by decide)
    · rw [h]; decide
  | @modify e f get turn =>
    by_cases hkey : e.key = k
    · have hkind : e.kind = .cashFlow := by rw [← hk, ← hkey]; rfl
      by_cases hs : (f e.columns).state = .applied
      · by_cases hs₀ : e.state = .applied
        · exact .inl (EffectTable.appliedSource_modify get (by simp [hs, hs₀]))
        · have hstarted : e.state = .applying ∨ e.state = .compensationPending := by
            generalize (f e.columns).state = s at turn hs
            cases turn with
            | keep => exact absurd hs hs₀
            | idle from_idle to_idle => rw [hs] at to_idle; exact absurd to_idle (by decide)
            | finish from_started => exact from_started
            | observe kind => rw [hkind] at kind; cases kind
            | begin | recordOnly | fail | accept => cases hs
          have hunresolved : e.state ∈ EffectState.unresolved := by
            rcases hstarted with h | h <;> rw [h] <;> decide
          have hlatest : t.latest k = some e := hkey ▸ hu e (EffectTable.mem_of_get get) hunresolved
          refine .inr ⟨e, hlatest, hstarted, ⟨f, rfl, hs⟩, ?_⟩
          unfold EffectTable.appliedSource
          rw [EffectTable.lastApplied_modify_latest hlatest hs]
          rfl
      · have hs₀ : e.state ≠ .applied := by
          intro hs₀
          exact hs (applied_of_turns (.single ⟨f, rfl, .inl turn⟩) hkind hs₀)
        exact .inl (EffectTable.appliedSource_modify get (by simp [hs, hs₀]))
    · refine .inl (congrArg (Option.map Effect.source) ?_)
      exact EffectTable.lastApplied_modify_ne (EffectTable.mem_of_get get) hkey

end PortfolioManagement
