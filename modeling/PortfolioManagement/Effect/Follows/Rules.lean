import PortfolioManagement.Effect.Chains

/-!
# Programs that follow the moves

`Follows` is the program logic of service calls: from a durable state with `P` the call moves along
`Move`, whatever goes wrong in it, and ends with `Q`, or with `X` when it stops early. A fact about
what was read must survive the changes third parties make before the next access; `Stable` names
such facts.
-/

namespace PortfolioManagement

open Relation (ReflTransGen)
open Prog (Spec)

/-- Third parties make only allowed changes in the accesses to come, and the moves of the call led
here from its start. -/
structure Ready (C : CallContext) (w : World) : Prop where
  /-- the changes to come -/
  edits : ∀ t ∈ w.remoteTicks, ∀ r, C.edits r (t.edit r)
  /-- the moves so far -/
  path : ReflTransGen (Move C) C.start w.toDurable

theorem Ready.after {C : CallContext} {w : World} {d : Durable} (h : Ready C w)
    (hpath : ReflTransGen (Move C) w.toDurable d) : Ready C { w with toDurable := d } :=
  ⟨h.edits, h.path.trans hpath⟩

/-- From states with `P` the call follows the moves and ends with `Q`, or early with `X`. -/
def Follows {α : Type} (C : CallContext) (P : Durable → Prop) (m : M α) (Q : α → Durable → Prop)
    (X : Stop → Durable → Prop) : Prop :=
  Spec (fun w w' => ReflTransGen (Move C) w.toDurable w'.toDurable)
    (fun w => Ready C w ∧ P w.toDurable) m (fun a w => Ready C w ∧ Q a w.toDurable)
    fun x w => Ready C w ∧ X x w.toDurable

/-- A fact that no allowed change by third parties takes away. -/
def Stable (E : Remote → Remote → Prop) (P : Durable → Prop) : Prop :=
  ∀ d r, E d.remote r → P d → P (d.drift r)

/-! ## Stable facts -/

section
variable {E : Remote → Remote → Prop} {α : Type}

theorem Stable.and {P P' : Durable → Prop} (h : Stable E P) (h' : Stable E P') :
    Stable E fun d => P d ∧ P' d :=
  fun d r hr hd => ⟨h d r hr hd.1, h' d r hr hd.2⟩

theorem Stable.const {c : Prop} : Stable E fun _ => c := fun _ _ _ h => h

theorem Was.now {d : Durable} : Was E d d.remote := ⟨List.mem_cons_self, .refl⟩

theorem Was.drift {d : Durable} {r r' : Remote} (hr : E d.remote r') (h : Was E d r) :
    Was E (d.drift r') r :=
  ⟨List.mem_cons_of_mem _ h.1, h.2.tail hr⟩

theorem Saw.now {d : Durable} {f : Remote → Except Error α} {a : α} (h : f d.remote = .ok a) :
    Saw E d f a := ⟨d.remote, .now, h⟩

theorem Saw.drift {d : Durable} {r : Remote} {f : Remote → Except Error α} {a : α}
    (hr : E d.remote r) (h : Saw E d f a) : Saw E (d.drift r) f a := by
  obtain ⟨r₀, hwas, hread⟩ := h
  exact ⟨r₀, hwas.drift hr, hread⟩

theorem FreshRead.drift {d : Durable} {r : Remote} {currency account broker : String}
    {h : Option Holding} (hr : E d.remote r) (hread : FreshRead E d currency account broker h) :
    FreshRead E (d.drift r) currency account broker h := by
  obtain ⟨c, hc, hsaw⟩ := hread
  exact ⟨c, hc, hsaw.drift hr⟩

theorem SourceCurrent.drift {d : Durable} {r : Remote} {e : Effect} (hr : E d.remote r)
    (h : SourceCurrent E d e) : SourceCurrent E (d.drift r) e := by
  intro hkind
  obtain ⟨r₀, hwas, hsource⟩ := h hkind
  exact ⟨r₀, hwas.drift hr, hsource⟩

theorem EvidenceOf.drift {d : Durable} {r : Remote} {e : Effect} {source : Source} {amount : Cents}
    {evidence : Option FutuEvidence} (hr : E d.remote r)
    (h : EvidenceOf E d e source amount evidence) :
    EvidenceOf E (d.drift r) e source amount evidence := by
  cases evidence with
  | none => exact h
  | some evidence =>
    obtain ⟨snapshot, hsaw, hbalance⟩ := h
    exact ⟨snapshot, hsaw.drift hr, hbalance⟩

theorem RowPlan.drift {d : Durable} {r : Remote} {e : Effect} {action : Option ExternalAction}
    {operations : List (Source × Cents)} {op : Source × Cents} {row : TargetRow}
    (hr : E d.remote r) (h : RowPlan E d e action operations op row) :
    RowPlan E (d.drift r) e action operations op row := by
  obtain ⟨source, before, amount, hop, hid, hread, h1, h2, h3, h4, h5, hevidence⟩ := h
  exact ⟨source, before, amount, hop, hid, hread.drift hr, h1, h2, h3, h4, h5,
    hevidence.drift hr⟩

theorem BoundTo.drift {d : Durable} {r : Remote} {row : TargetRow} {p : PlannedTarget}
    (hr : E d.remote r) (h : BoundTo E d row p) : BoundTo E (d.drift r) row p :=
  ⟨h.1.drift hr, h.2⟩

theorem FetchedFor.drift {d : Durable} {r : Remote} {operations : List (Source × Cents)}
    {fetched : List (String × Option Holding)} (hr : E d.remote r)
    (h : FetchedFor E d operations fetched) :
    FetchedFor E (d.drift r) operations fetched := by
  intro entry hentry
  obtain ⟨op, hop, hid, hread⟩ := h entry hentry
  exact ⟨op, hop, hid, hread.drift hr⟩

theorem Fetched.drift {d : Durable} {r : Remote} {operations : List (Source × Cents)}
    {fetched : List (String × Option Holding)} (hr : E d.remote r)
    (h : Fetched E d operations fetched) : Fetched E (d.drift r) operations fetched :=
  ⟨h.read.drift hr, h.complete⟩

theorem ActionOf.drift {d : Durable} {r : Remote} {e : Effect} {operations : List (Source × Cents)}
    {requested action : Option ExternalAction} (hr : E d.remote r)
    (h : ActionOf E d e operations requested action) :
    ActionOf E (d.drift r) e operations requested action := by
  cases h with
  | given settled => exact .given settled
  | detected default reads decided => exact .detected default (reads.drift hr) decided

theorem Computed.drift {d : Durable} {r : Remote} {e : Effect} {requested : Option ExternalAction}
    {payload : PreviewPayload} (hr : E d.remote r) (h : Computed E d e requested payload) :
    Computed E (d.drift r) e requested payload := by
  cases h with
  | recordOnly mode => exact .recordOnly mode
  | acceptCurrent kind => exact .acceptCurrent kind
  | apply resolved computed =>
    exact .apply (resolved.drift hr) (computed.imp fun _ _ h => h.drift hr)

end

section
variable {C : CallContext} {α β γ : Type} {P P' : Durable → Prop} {Q Q' : α → Durable → Prop}
  {X X' : Stop → Durable → Prop}

/-! ## Rules -/

namespace Follows

theorem conseq {m : M α} (h : Follows C P m Q X) (hP : ∀ d, P' d → P d)
    (hQ : ∀ a d, Q a d → Q' a d) (hX : ∀ x d, X x d → X' x d) : Follows C P' m Q' X' :=
  Spec.conseq h (fun _ h => ⟨h.1, hP _ h.2⟩) (fun _ _ h => ⟨h.1, hQ _ _ h.2⟩)
    fun _ _ h => ⟨h.1, hX _ _ h.2⟩

theorem pre {m : M α} (h : Follows C P m Q X) (hP : ∀ d, P' d → P d) : Follows C P' m Q X :=
  h.conseq hP (fun _ _ => id) fun _ _ => id

/-- A program whose early ends need no description. -/
theorem anyhow {m : M α} (h : Follows C P m Q X) : Follows C P m Q fun _ _ => True :=
  h.conseq (fun _ => id) (fun _ _ => id) fun _ _ _ => trivial

theorem ret {a : α} (h : ∀ d, P d → Q a d) : Follows C P (pure a) Q X :=
  Spec.ret fun _ hw => ⟨hw.1, h _ hw.2⟩

theorem throw {e : Error} (h : ∀ d, P d → X (.raised e) d) : Follows C P (M.throw e) Q X :=
  Spec.raise fun _ hw => ⟨hw.1, h _ hw.2⟩

theorem bind {m : M β} {k : β → M α} {S : β → Durable → Prop} (hm : Follows C P m S X)
    (hk : ∀ b, Follows C (S b) (k b) Q X) : Follows C P (m >>= k) Q X :=
  Spec.bind hm hk

theorem reads {f : World → β} {S : β → Durable → Prop} (h : ∀ w : World, P w.toDurable → S (f w) w.toDurable) :
    Follows C P (Prog.reads f) S X :=
  Spec.reads fun w hw => ⟨hw.1, h w hw.2⟩

theorem read {S : World → Durable → Prop} (h : ∀ w : World, P w.toDurable → S w w.toDurable) :
    Follows C P Prog.read S X :=
  Spec.read fun w hw => ⟨hw.1, h w hw.2⟩

theorem ofExcept {x : Except Error α} (hok : ∀ a d, P d → x = .ok a → Q a d)
    (herror : ∀ e d, P d → x = .error e → X (.raised e) d) :
    Follows C P (M.ofExcept x) Q X := by
  refine Spec.lift fun w hw => ?_
  cases x with
  | error e => exact ⟨hw.1, herror e _ hw.2 rfl⟩
  | ok a => exact ⟨hw.1, hok a _ hw.2 rfl⟩

theorem require {c : Prop} [Decidable c] {x : Stop} (hX : ∀ d, P d → X x d) :
    Follows C P (Prog.require c x) (fun _ d => P d ∧ c) X :=
  Spec.require (fun _ hw h => ⟨hw.1, hw.2, h⟩) fun _ hw _ => ⟨hw.1, hX _ hw.2⟩

theorem onlyIf {c : Prop} [Decidable c] {m : M Unit} {S : Unit → Durable → Prop}
    (hm : c → Follows C P m S X) (hn : ∀ d, P d → ¬ c → S () d) :
    Follows C P (Prog.onlyIf c m) S X :=
  Spec.onlyIf hm fun _ hw h => ⟨hw.1, hn _ hw.2 h⟩

theorem ite {c : Prop} [Decidable c] {m n : M α} (hm : c → Follows C P m Q X)
    (hn : ¬ c → Follows C P n Q X) : Follows C P (if c then m else n) Q X :=
  Spec.ite hm hn

theorem discard {m : M α} (h : Follows C P m Q X) :
    Follows C P (Prog.discard m) (fun _ _ => True) X :=
  (Spec.discard h).post fun _ _ ⟨_, hw⟩ => ⟨hw.1, trivial⟩

/-- One durable state at a time. -/
theorem of_eq {m : M α} (h : ∀ d, P d → Follows C (fun d' => d' = d) m Q X) :
    Follows C P m Q X :=
  fun w hw => h w.toDurable hw.2 w ⟨hw.1, rfl⟩

/-- The moves of the call led here from its start. -/
theorem from_start {m : M α}
    (h : Follows C (fun d => P d ∧ ReflTransGen (Move C) C.start d) m Q X) : Follows C P m Q X :=
  fun w hw => h w ⟨hw.1, hw.2, hw.1.path⟩

/-- A precondition that holds of no state. -/
theorem false {m : M α} (h : ∀ d, ¬ P d) : Follows C P m Q X :=
  fun _ hw => absurd hw.2 (h _)

theorem fold {l : List γ} {b : β} {f : β → γ → M β} (I : List γ → β → Durable → Prop)
    (hf : ∀ a rest b, (a :: rest) <:+ l → Follows C (I (a :: rest) b) (f b a) (I rest) X) :
    Follows C (I l b) (Prog.fold l b f) (I []) X :=
  Spec.fold (fun rest b w => Ready C w ∧ I rest b w.toDurable) hf

theorem fold_inv {l : List γ} {b : β} {f : β → γ → M β}
    (hf : ∀ b, ∀ a ∈ l, Follows C P (f b a) (fun _ => P) X) :
    Follows C P (Prog.fold l b f) (fun _ => P) X :=
  Spec.fold_inv hf

/-- A process that stopped runs no handler. -/
theorem tryCatch {m : M α} {handler : Error → M α} {F : Stop → Durable → Prop}
    (hm : Follows C P m Q F) (hh : ∀ e, Follows C (F (.raised e)) (handler e) Q X)
    (hc : ∀ d, F .crashed d → X .crashed d) : Follows C P (M.tryCatch m handler) Q X := by
  refine Spec.rescue hm fun x => ?_
  cases x with
  | crashed => exact Spec.raise fun _ hw => ⟨hw.1, hc _ hw.2⟩
  | raised e => exact hh e

/-! ## Accesses -/

/-- An access that happens or not, as scheduled. -/
theorem perform (o : Outcome) (act : Durable → Except Error α × Durable) {w : World}
    (hready : Ready C w) (hpath : ReflTransGen (Move C) w.toDurable (act w.toDurable).2)
    (hok : ∀ a, (act w.toDurable).1 = .ok a → Q a (act w.toDurable).2)
    (hbefore : ∀ x, X x w.toDurable) (hafter : ∀ x, X x (act w.toDurable).2) :
    ReflTransGen (Move C) w.toDurable (M.perform o act w).2.toDurable ∧
      Prog.EndsIn (fun a w => Ready C w ∧ Q a w.toDurable) (fun x w => Ready C w ∧ X x w.toDurable)
        (M.perform o act w) := by
  cases o with
  | completes =>
    refine ⟨hpath, ?_⟩
    unfold M.perform
    cases hact : (act w.toDurable).1 with
    | error e => exact ⟨hready.after hpath, hafter _⟩
    | ok a => exact ⟨hready.after hpath, hok a hact⟩
  | raises e => exact ⟨.refl, hready, hbefore _⟩
  | raisesAfter e => exact ⟨hpath, hready.after hpath, hafter _⟩
  | stops => exact ⟨.refl, hready, hbefore _⟩
  | stopsAfter => exact ⟨hpath, hready.after hpath, hafter _⟩

/-- A write of the local disk. -/
theorem disk {act : Durable → Except Error α × Durable}
    (hpath : ∀ d, P d → ReflTransGen (Move C) d (act d).2)
    (hok : ∀ d a, P d → (act d).1 = .ok a → Q a (act d).2) (hbefore : ∀ x d, P d → X x d)
    (hafter : ∀ x d, P d → X x (act d).2) : Follows C P (M.disk act) Q X := by
  rintro w ⟨hready, hP⟩
  have hnext : w.nextOutcome.2.toDurable = w.toDurable ∧ Ready C w.nextOutcome.2 := by
    unfold World.nextOutcome
    cases w.localOutcomes <;> exact ⟨rfl, hready.edits, hready.path⟩
  unfold M.disk
  have hrun := perform (C := C) (Q := Q) (X := X) w.nextOutcome.1 act hnext.2
  rw [hnext.1] at hrun
  obtain ⟨hmoves, hend⟩ := hrun (hpath _ hP) (fun a => hok _ a hP) (fun x => hbefore x _ hP)
    fun x => hafter x _ hP
  exact ⟨.single hmoves, hend⟩

/-- A remote access: third parties may have changed the remote side before it. -/
theorem remote {act : Durable → Except Error α × Durable} (hstable : Stable C.edits P)
    (hpath : ∀ d, P d → ReflTransGen (Move C) d (act d).2)
    (hok : ∀ d a, P d → (act d).1 = .ok a → Q a (act d).2) (hbefore : ∀ x d, P d → X x d)
    (hafter : ∀ x d, P d → X x (act d).2) : Follows C P (M.remote act) Q X := by
  rintro w ⟨hready, hP⟩
  have hnext : ReflTransGen (Move C) w.toDurable w.nextTick.2.toDurable ∧
      Ready C w.nextTick.2 ∧ P w.nextTick.2.toDurable := by
    unfold World.nextTick
    cases hticks : w.remoteTicks with
    | nil => exact ⟨.refl, hready, hP⟩
    | cons t rest =>
      have hedit : C.edits w.remote (t.edit w.remote) :=
        hready.edits t (hticks ▸ List.mem_cons_self) _
      refine ⟨.single (.drift hedit), ⟨fun t' ht' => ?_, hready.path.tail (.drift hedit)⟩,
        hstable _ _ hedit hP⟩
      exact hready.edits t' (hticks ▸ List.mem_cons_of_mem _ ht')
  obtain ⟨hdrift, hready', hP'⟩ := hnext
  obtain ⟨hmoves, hend⟩ := perform w.nextTick.1.outcome act hready' (hpath _ hP')
    (fun a => hok _ a hP') (fun x => hbefore x _ hP') fun x => hafter x _ hP'
  exact ⟨.single (hdrift.trans hmoves), hend⟩

/-- A remote read. -/
theorem readRemote {f : Remote → Except Error α} (hstable : Stable C.edits P) :
    Follows C P (M.readRemote f) (fun a d => P d ∧ f d.remote = .ok a) fun _ => P :=
  remote hstable (fun _ _ => .refl) (fun _ _ hP ha => ⟨hP, ha⟩) (fun _ _ hP => hP)
    fun _ _ hP => hP

/-- An entry of the journal. -/
theorem journal {entry : JournalEntry} (hmove : ∀ d, P d → Move C d (d.note entry))
    {S : Unit → Durable → Prop} (hS : ∀ d, P d → S () (d.note entry)) :
    Follows C P (M.journal entry) S X :=
  Spec.alter (fun _ hw => .single (hmove _ hw.2)) fun _ hw =>
    ⟨hw.1.after (.single (hmove _ hw.2)), hS _ hw.2⟩

/-- A database transaction is one move, made of the store steps of some reading. -/
theorem commit {tx : Tx α} (h : ∀ d, P d → ∃ s : Reading, s.From C d ∧
      TxSpec s (fun db => db = d.db) tx fun a db => Q a { d with db := db })
    (hP : ∀ x d, P d → X x d) (hQ : ∀ x a d, Q a d → X x d) : Follows C P (M.commit tx) Q X := by
  have hrun : ∀ d, P d → ReflTransGen (Move C) d (M.transact tx d).2 ∧
      (∀ a, (M.transact tx d).1 = .ok a → Q a (M.transact tx d).2) ∧
      ∀ x, X x (M.transact tx d).2 := by
    intro d hd
    obtain ⟨s, hfrom, hspec⟩ := h d hd
    obtain ⟨hpath, hend⟩ := hspec d.db rfl
    unfold M.transact Prog.transaction
    rcases htx : tx d.db with ⟨e | a, db⟩
    · refine ⟨.refl, ?_, fun x => hP x d hd⟩
      rintro a ⟨⟩
    · rw [htx] at hpath hend
      refine ⟨.single (.store s hfrom hpath), ?_, fun x => hQ x a _ hend⟩
      rintro a' ⟨⟩
      exact hend
  exact disk (fun d hd => (hrun d hd).1) (fun d a hd => (hrun d hd).2.1 a) hP
    fun x d hd => (hrun d hd).2.2 x

end Follows

/-- The reading of a transaction that reads nothing remote. -/
def Reading.now (d : Durable) : Reading :=
  ⟨d.remote, none, d.remote.ledger, none, none, d.db⟩

theorem Reading.now_from (d : Durable) : (Reading.now d).From C d :=
  ⟨rfl, rfl, fun _ => .now rfl, fun _ h => (nomatch h), fun _ h => (nomatch h)⟩

namespace Follows

/-- A receipt. -/
theorem enqueueReceipt {key : ReceiptKey} {scope : Option String} {S : Unit → Durable → Prop}
    (hS : ∀ d db, P d → db.effects = d.db.effects → S () { d with db := db })
    (hP : ∀ x d, P d → X x d) (hX : ∀ x d, S () d → X x d) :
    Follows C P (M.commit (Store.enqueueReceipt key scope)) S X := by
  refine commit (fun d hd => ⟨.now d, Reading.now_from d, ?_⟩) hP fun x _ d h => hX x d h
  refine Spec.alter (fun db _ => .bookkeeping ?_ ?_ ?_ ?_) fun db hdb => ?_
  · split <;> rfl
  · split <;> rfl
  · split <;> rfl
  · split <;> exact List.suffix_rfl
  · subst hdb
    refine hS d _ hd ?_
    split <;> rfl

/-- A guarded write of one version that is a move of its own, with the journal entry noted by the
same commit. -/
theorem commitNoting {id : Nat} {f : EffectColumns → EffectColumns} {event : EventBody}
    {expected : List EffectState} {entry : JournalEntry} {S : Effect → Durable → Prop}
    (hmove : ∀ d e, P d → d.db.effects.get e.id = some e → e.id = id → e.state ∈ expected →
      Move C d ((d.update e.id f event).note entry))
    (hS : ∀ d e, P d → d.db.effects.get e.id = some e → e.id = id → e.state ∈ expected →
      S (e.withColumns f) ((d.update e.id f event).note entry)) :
    Follows C P (M.commitNoting entry (Store.updateEffect id f event expected)) S
      fun _ _ => True := by
  have hrun : ∀ d, P d →
      let act := M.noting entry (M.transact (Store.updateEffect id f event expected)) d
      ReflTransGen (Move C) d act.2 ∧ ∀ a, act.1 = .ok a → S a act.2 := by
    intro d hd
    unfold M.noting M.transact Prog.transaction Store.updateEffect
    cases hget : d.db.effects.get id with
    | none =>
      refine ⟨.refl, ?_⟩
      rintro a ⟨⟩
    | some e =>
      obtain rfl := EffectTable.id_of_get hget
      by_cases hs : e.state ∈ expected
      · simp only [if_pos hs]
        refine ⟨.single (hmove d e hd hget rfl hs), ?_⟩
        rintro a ⟨⟩
        exact hS d e hd hget rfl hs
      · simp only [if_neg hs]
        refine ⟨.refl, ?_⟩
        rintro a ⟨⟩
  exact disk (fun d hd => (hrun d hd).1) (fun d a hd => (hrun d hd).2 a) (fun _ _ _ => trivial)
    fun _ _ _ => trivial

/-- A guarded write of one version that is a move of its own. -/
theorem commitUpdate {id : Nat} {f : EffectColumns → EffectColumns} {event : EventBody}
    {expected : List EffectState} {S : Effect → Durable → Prop}
    (hmove : ∀ d e, P d → d.db.effects.get e.id = some e → e.id = id → e.state ∈ expected →
      Move C d (d.update e.id f event))
    (hS : ∀ d e, P d → d.db.effects.get e.id = some e → e.id = id → e.state ∈ expected →
      S (e.withColumns f) (d.update e.id f event))
    (hP : ∀ x d, P d → X x d) (hX : ∀ x a d, S a d → X x d) :
    Follows C P (M.commit (Store.updateEffect id f event expected)) S X := by
  have hrun : ∀ d, P d →
      let act := M.transact (Store.updateEffect id f event expected) d
      ReflTransGen (Move C) d act.2 ∧ (∀ a, act.1 = .ok a → S a act.2) ∧ ∀ x, X x act.2 := by
    intro d hd
    unfold M.transact Prog.transaction Store.updateEffect
    cases hget : d.db.effects.get id with
    | none =>
      refine ⟨.refl, ?_, fun x => hP x d hd⟩
      rintro a ⟨⟩
    | some e =>
      obtain rfl := EffectTable.id_of_get hget
      by_cases hs : e.state ∈ expected
      · simp only [if_pos hs]
        have hS' := hS d e hd hget rfl hs
        refine ⟨.single (hmove d e hd hget rfl hs), ?_, fun x => hX x _ _ hS'⟩
        rintro a ⟨⟩
        exact hS'
      · simp only [if_neg hs]
        refine ⟨.refl, ?_, fun x => hP x d hd⟩
        rintro a ⟨⟩
  exact disk (fun d hd => (hrun d hd).1) (fun d a hd => (hrun d hd).2.1 a) hP
    fun x d hd => (hrun d hd).2.2 x

end Follows

end

end PortfolioManagement
