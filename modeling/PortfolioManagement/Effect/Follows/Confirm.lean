import PortfolioManagement.Effect.Follows.Preview

/-!
# Confirmations and compensations follow the moves

What a confirmation knows while it writes (its version is `applying` with its plan in the journal)
and what a retry knows (its version waits for a task with these targets) depends on the database,
the tasks and the journal only. `Kept` names such facts: no remote write and no later entry of the
journal takes them away, so they reach the handlers and the final writes.
-/

namespace PortfolioManagement

open Relation (ReflTransGen)
open Prog (Spec)

/-- A fact about the versions, the tasks and what the journal contains. -/
def Kept (P : Durable → Prop) : Prop :=
  ∀ d d' : Durable, d'.db.effects = d.db.effects → d'.tasks = d.tasks →
    d.journal <:+ d'.journal → P d → P d'

section
variable {C : CallContext} {P : Durable → Prop}

theorem Kept.stable (h : Kept P) : Stable C.edits P := fun d _ _ hd => h d _ rfl rfl List.suffix_rfl hd

theorem Kept.note (h : Kept P) {d : Durable} {entry : JournalEntry} (hd : P d) : P (d.note entry) :=
  h d _ rfl rfl (List.suffix_cons _ _) hd

theorem Kept.confirmBaseline (h : Kept P) {d : Durable} {id : Nat} {identity : String}
    {observed : Option Holding} (hd : P d) : P (d.confirmBaseline id identity observed) :=
  h d _ rfl rfl (List.suffix_cons _ _) hd

theorem Kept.send (h : Kept P) {d : Durable} {e : Effect} {writer : Writer} {target : HoldingTarget}
    {base : Option Holding} (hd : P d) : P (Storage.send e writer target base d).2 := by
  obtain ⟨hdb, htasks, hjournal⟩ := send_kept e writer target base d
  exact h d _ (congrArg Db.effects hdb) htasks hjournal hd

theorem Kept.and {P P' : Durable → Prop} (h : Kept P) (h' : Kept P') :
    Kept fun d => P d ∧ P' d :=
  fun d d' he ht hj hd => ⟨h d d' he ht hj hd.1, h' d d' he ht hj hd.2⟩

/-! ## Writing a holding -/

theorem replaceHolding_follows (hP : Kept P) {effect : Effect} {writer : Writer}
    {target : HoldingTarget} (hauth : ∀ d, P d → Authorized C d effect.id writer target)
    (hallowed : writer = .compensation → C.compensates effect.id) :
    Follows C P (Storage.replaceHolding effect writer target) (fun _ => P) fun _ => P := by
  unfold Storage.replaceHolding
  refine .bind (.readRemote hP.stable) fun base => ?_
  refine .bind (S := fun _ => P) ?_ fun _ =>
    (Follows.readRemote hP.stable).conseq (fun _ h => h) (fun _ _ h => h.1) fun _ _ h => h
  refine (Follows.remote (P := fun d => P d ∧
    Saw C.edits d (fun r => r.holdings.freshBaseForTarget target) base) ?_ ?_ ?_ ?_ ?_).pre
    fun d h => ⟨h.1, .now h.2⟩
  · exact hP.stable.and fun _ _ hr h => h.drift hr
  · exact fun d h => .single (.send (hauth d h.1) hallowed h.2)
  · exact fun d _ h _ => hP.send h.1
  · exact fun _ d h => h.1
  · exact fun _ d h => hP.send h.1

/-- The baseline of a written target, confirmed from its readback. -/
theorem confirmBaseline_follows (hP : Kept P) {id : Nat} {writer : Writer} {target : HoldingTarget}
    {readback : Option Holding} (hauth : ∀ d, P d → Authorized C d id writer target)
    (hverified : ∀ d, P d → .verified id target.identity ∈ d.journal)
    (hmatched : readback.any (fun row => holdingOwnedFieldsMatch row target) = true) :
    Follows C P (confirmBaseline id target.identity readback) (fun _ => P) fun _ => P :=
  .disk (fun d hd => .single (.baseline (hauth d hd) (hverified d hd) hmatched))
    (fun _ _ hd _ => hP.confirmBaseline hd) (fun _ _ hd => hd) fun _ _ hd => hP.confirmBaseline hd

/-! ## The writes of a confirmation -/

/-- The version is being applied with this plan. -/
structure Applying (C : CallContext) (e : Effect) (planned : List PlannedTarget) (d : Durable) : Prop where
  /-- the version is the latest of its record, in state `applying` -/
  latest : ∃ a, d.db.effects.latest e.key = some a ∧ a.id = e.id ∧ a.state = .applying
  /-- the plan is in the journal -/
  began : Began C d e.id planned

theorem Applying.kept (C : CallContext) (e : Effect) (planned : List PlannedTarget) : Kept (Applying C e planned) := by
  rintro d d' he - hj ⟨hlatest, e', payload, hid, hsince⟩
  exact ⟨he ▸ hlatest, e', payload, hid, hsince.mono hj⟩

theorem Applying.authorized {e : Effect} {planned : List PlannedTarget} {d : Durable}
    (h : Applying C e planned d) {p : PlannedTarget} (hp : p ∈ planned) :
    Authorized C d e.id .confirm p.mutation := by
  obtain ⟨a, ha, hid, hs⟩ := h.latest
  exact .confirm (hid ▸ EffectTable.get_of_latest ha) hs h.began hp

/-- The targets read back so far. -/
structure Written (e : Effect) (done : List PlannedTarget) (readbacks : List (Option Holding))
    (d : Durable) : Prop where
  /-- every readback matched its target -/
  matched : List.Forall₂ (fun p readback =>
    Option.any (fun row => holdingOwnedFieldsMatch row p.mutation) readback = true) done readbacks
  /-- and is in the journal -/
  verified : ∀ p ∈ done, .verified e.id p.mutation.identity ∈ d.journal

theorem Written.kept (e : Effect) (done : List PlannedTarget) (readbacks : List (Option Holding)) :
    Kept (Written e done readbacks) :=
  fun _ _ _ _ hj h => ⟨h.matched, fun p hp => hj.subset (h.verified p hp)⟩

theorem writeTarget_follows {e : Effect} {planned done : List PlannedTarget} {p : PlannedTarget}
    (hp : p ∈ planned) (acc : WriteProgress) :
    Follows C (fun d => Applying C e planned d ∧ Written e done acc.readbacks d)
      (writeTarget e acc p)
      (fun acc' d => Applying C e planned d ∧ Written e (done ++ [p]) acc'.readbacks d)
      fun _ d => Applying C e planned d := by
  have hkept : Kept fun d => Applying C e planned d ∧ Written e done acc.readbacks d :=
    (Applying.kept C e planned).and (Written.kept e done acc.readbacks)
  unfold writeTarget
  refine .bind (S := fun _ d => Applying C e planned d ∧ Written e done acc.readbacks d)
    (.onlyIf (fun _ => ?_) fun _ h _ => h) fun _ => ?_
  · exact (replaceHolding_follows hkept (fun d h => h.1.authorized hp) fun h => nomatch h).conseq
      (fun _ h => h) (fun _ _ h => h) fun _ _ h => h.1
  refine .bind ((freshHoldingOf_follows hkept.stable _ _ _).conseq (fun _ h => h)
    (fun _ _ h => h) fun _ _ h => h.1) fun readback => ?_
  refine .ite (fun hmatch => ?_) fun _ => .throw fun _ h => h.1.1
  refine .bind (S := fun _ d => Applying C e planned d ∧ Written e (done ++ [p])
    (acc.readbacks ++ [readback]) d) ?_ fun _ => .ret fun _ h => h
  refine .journal (fun d h => .verify (h.1.1.authorized hp) ⟨h.2, hmatch⟩) fun d h => ?_
  refine ⟨(Applying.kept C e planned).note h.1.1, ?_, fun q hq => ?_⟩
  · exact List.rel_append h.1.2.matched (.cons hmatch .nil)
  · rcases List.mem_append.mp hq with hq | hq
    · exact List.mem_cons_of_mem _ (h.1.2.verified q hq)
    · rw [List.mem_singleton.mp hq]
      exact List.mem_cons_self

/-- All targets are written and read back, or the exception is caught with the version still
`applying`. -/
theorem writeTargets_follows (e : Effect) (planned : List PlannedTarget) :
    Follows C (Applying C e planned) (writeTargets e planned)
      (fun result d => Applying C e planned d ∧
        ∀ progress, result = .ok progress → Written e planned progress.readbacks d)
      fun _ _ => True := by
  refine .tryCatch (F := fun _ => Applying C e planned) ?_
    (fun exc => .ret fun d h => ⟨h, fun _ hok => nomatch hok⟩) fun _ _ => trivial
  refine .bind (S := fun progress d => Applying C e planned d ∧
    Written e planned progress.readbacks d) ?_ fun progress => .ret fun d h => ⟨h.1, ?_⟩
  · refine (Follows.fold (fun rest acc d => Applying C e planned d ∧
      ∃ done, done ++ rest = planned ∧ Written e done acc.readbacks d)
      fun p rest acc hsuffix => ?_).conseq ?_ ?_ fun _ _ h => h
    · refine Follows.of_eq fun start hstart => ?_
      obtain ⟨happlying, done, hdone, hwritten⟩ := hstart
      refine (writeTarget_follows (hsuffix.subset List.mem_cons_self) acc).conseq
        (fun d hd => hd ▸ ⟨happlying, hwritten⟩) (fun acc' d h => ⟨h.1, done ++ [p], ?_, h.2⟩)
        fun _ _ h => h
      rw [← hdone, List.append_assoc]
      rfl
    · exact fun d h => ⟨h, [], rfl, .nil, by simp⟩
    · rintro acc d ⟨h, done, hdone, hwritten⟩
      rw [List.append_nil] at hdone
      exact ⟨h, hdone ▸ hwritten⟩
  · rintro _ ⟨⟩
    exact h.2

/-! ## How a confirmation ends -/

theorem recordCompensation_follows (e : Effect) (planned : List PlannedTarget) (exc : Error) :
    Follows C (Applying C e planned) (recordCompensation e planned exc) (fun _ _ => True)
      fun _ _ => True := by
  unfold recordCompensation
  refine .bind (S := fun taskId d => Applying C e planned d ∧ ∃ task,
    d.tasks.getTask taskId = some task ∧ task.targets = planned.map PlannedTarget.cashTarget) ?_
    fun taskId => ?_
  · refine .disk (fun d h => .single (.createTask _ h.began rfl rfl rfl)) ?_ (fun _ _ _ => trivial)
      fun _ _ _ => trivial
    rintro d _ h ⟨⟩
    refine ⟨⟨h.latest, h.began⟩, _, TaskLog.getTask_create, rfl⟩
  refine .bind (.commitUpdate (S := fun _ _ => True) ?_ (fun _ _ _ _ _ _ => trivial)
    (fun _ _ _ => trivial) fun _ _ _ _ => trivial) fun failed => ?_
  · rintro d a ⟨h, task, htask, htargets⟩ hget hid hs
    exact .fail _ hget (List.mem_singleton.mp hs) (hid ▸ h.began) htask htargets rfl rfl rfl
  · refine .bind (.enqueueReceipt (S := fun _ _ => True) (fun _ _ _ _ => trivial)
      (fun _ _ _ => trivial) fun _ _ _ => trivial) fun _ => .ret fun _ _ => trivial

/-- One more look at the source of a version that is still the latest. -/
theorem lookAgain_follows (e : Effect) {α : Type} {k : Option Nat → M α}
    (hk : ∀ result, Follows C (fun _ => True) (k result) (fun _ _ => True) fun _ _ => True) :
    Follows C (IsLatest e) (currentCashFlowSource e >>= k) (fun _ _ => True)
      fun _ _ => True := by
  refine Follows.of_eq fun start hstart => ?_
  refine .bind ((currentCashFlowSource_follows start.db.effects).conseq
    (fun d hd => ⟨hd ▸ hstart, hd ▸ fun _ _ => rfl⟩) (fun _ _ h => h) fun _ _ _ => trivial)
    fun result => (hk result).pre fun _ _ => trivial

theorem receipt_follows (key : ReceiptKey) :
    Follows C (fun _ => True) (M.commit (Store.enqueueReceipt key)) (fun _ _ => True)
      fun _ _ => True :=
  .enqueueReceipt (fun _ _ _ _ => trivial) (fun _ _ _ => trivial) fun _ _ _ => trivial

theorem finishConfirm_follows (e : Effect) (hash : PreviewHash) (planned : List PlannedTarget)
    (progress : WriteProgress) :
    Follows C (fun d => Applying C e planned d ∧ Written e planned progress.readbacks d)
      (finishConfirm e hash planned progress) (fun _ _ => True) fun _ _ => True := by
  have hkept : Kept fun d => Applying C e planned d ∧ Written e planned progress.readbacks d :=
    (Applying.kept C e planned).and (Written.kept e planned progress.readbacks)
  unfold finishConfirm
  refine .bind (S := fun _ d => Applying C e planned d ∧ Written e planned progress.readbacks d)
    ?_ fun _ => ?_
  · refine Follows.of_eq fun start hstart => ?_
    refine (Follows.fold_inv (X := fun _ _ => True) fun _ pair hpair => ?_).pre
      fun d hd => hd ▸ hstart
    have hp : pair.1 ∈ planned := List.of_mem_zip hpair |>.1
    refine (confirmBaseline_follows hkept (fun d h => h.1.authorized hp)
      (fun d h => h.2.verified _ hp) ?_).anyhow
    exact List.forall₂_zip hstart.2.matched (a := pair.1) (b := pair.2) hpair
  refine .bind (.commitUpdate (S := fun applied d => IsLatest applied d) ?_ ?_
    (fun _ _ _ => trivial) fun _ _ _ _ => trivial) fun applied => ?_
  · rintro d a ⟨h, hwritten⟩ hget hid hs
    refine .finish _ hget (List.mem_singleton.mp hs) rfl rfl (hid ▸ h.began) fun p hp => ?_
    exact hid ▸ hwritten.verified p hp
  · rintro d a ⟨h, -⟩ hget hid -
    obtain ⟨b, hb, hbid, -⟩ := h.latest
    obtain rfl : a = b := EffectTable.eq_of_id_eq (EffectTable.mem_of_get hget)
      (EffectTable.mem_of_latest hb) (hid.trans hbid.symm)
    rw [← EffectTable.key_of_latest hb] at hb
    exact EffectTable.latest_modify_self hb
  · refine lookAgain_follows applied fun result => ?_
    cases result with
    | none => exact .bind (receipt_follows _) fun _ => .ret fun _ _ => trivial
    | some correction => exact .bind (receipt_follows _) fun _ => .ret fun _ _ => trivial

/-- A row found by the id of a latest version is that version. -/
theorem IsLatest.eq_of_get {e a : Effect} {d : Durable} (h : IsLatest e d)
    (hget : d.db.effects.get a.id = some a) (hid : a.id = e.id) : a = e :=
  EffectTable.eq_of_id_eq (EffectTable.mem_of_get hget) (EffectTable.mem_of_latest h) hid

/-! ## `confirm` -/

/-- The record-only branch: an external change first becomes the baseline. -/
theorem confirmRecordOnly_follows (e : Effect) (hash : PreviewHash) (runId : Option String)
    (hstate : e.state ∈ previewable) (hmode : e.kind = .cashFlow → e.mode = .recordOnly) :
    Follows C (IsLatest e) (confirmRecordOnly e hash runId)
      (fun result _ => ∃ e, result = .recordOnly e) fun _ _ => True := by
  have hkept : Kept (IsLatest e) := fun _ _ he _ _ h => by unfold IsLatest; rw [he]; exact h
  have hrest : Follows C (IsLatest e) (do
      let result ← M.commit (Store.updateEffect e.id
        (fun c => { c with state := .recordOnly, confirmation := some (.operator runId) })
        (.recordOnlyConfirmed hash) [.previewed])
      M.commit (Store.enqueueReceipt (.recordOnly e.id hash))
      return ConfirmResult.recordOnly result) (fun result _ => ∃ e, result = .recordOnly e)
      fun _ _ => True := by
    refine .bind (S := fun _ _ => True) ?_ fun result =>
      .bind (receipt_follows _) fun _ => .ret fun _ _ => ⟨result, rfl⟩
    refine .commit (fun d hd => ⟨.now d, Reading.now_from d, ?_⟩) (fun _ _ _ => trivial)
      fun _ _ _ _ => trivial
    refine updateEffect_spec ?_ fun _ _ _ _ _ _ => trivial
    rintro db a rfl hget hid hs
    obtain rfl := hd.eq_of_get hget hid
    exact .recordOnly _ hget (List.mem_singleton.mp hs) rfl hmode
  unfold confirmRecordOnly
  cases hsource : e.source with
  | completed facts => exact hrest
  | raw flow => exact hrest
  | deleted previous => exact hrest
  | reconciliation observation => exact hrest
  | externalChange change =>
    refine .bind ((freshHoldingOf_follows hkept.stable _ _ _).anyhow) fun current => ?_
    refine .bind (S := fun _ => IsLatest e) (.disk ?_ ?_ ?_ ?_) fun _ => hrest
    · exact fun d h => .single (.acceptBaseline h.1 hstate hsource h.2)
    · exact fun d _ h _ => hkept.confirmBaseline h.1
    · exact fun _ _ _ => trivial
    · exact fun _ _ _ => trivial

/-- Every confirmed target is bound to a fresh base. -/
theorem planTargets_follows (hP : Stable C.edits P) (rows : List TargetRow) :
    Follows C P (Prog.fold rows [] planTarget)
      (fun planned d => P d ∧ List.Forall₂ (BoundTo C.edits d) rows planned) fun _ _ => True := by
  refine (Follows.fold (fun rest planned d => P d ∧ ∃ done, done ++ rest = rows ∧
    List.Forall₂ (BoundTo C.edits d) done planned) fun row rest planned hsuffix => ?_).conseq
    (fun d hd => ⟨hd, [], rfl, .nil⟩) ?_ fun _ _ h => h
  · have hbase : Stable C.edits fun d => P d ∧ ∃ done, done ++ row :: rest = rows ∧
        List.Forall₂ (BoundTo C.edits d) done planned := by
      refine hP.and ?_
      rintro d r hr ⟨done, hdone, hall⟩
      exact ⟨done, hdone, hall.imp fun _ _ h => h.drift hr⟩
    unfold planTarget
    refine .bind ((freshHoldingOf_follows hbase _ _ _).anyhow) fun before => ?_
    refine .ite (fun _ => .throw fun _ _ => trivial) fun hbefore => ?_
    refine .bind (.ofExcept (Q := fun mutation d => (P d ∧ ∃ done, done ++ row :: rest = rows ∧
      List.Forall₂ (BoundTo C.edits d) done planned) ∧ BoundTo C.edits d row ⟨before, mutation⟩)
      (fun mutation d h hok => ⟨h.1, h.2, ?_, hok⟩) fun _ _ _ _ => trivial) fun mutation => ?_
    · rwa [Classical.not_not] at hbefore
    · refine .ret ?_
      rintro d ⟨⟨hPd, done, hdone, hall⟩, hbound⟩
      refine ⟨hPd, done ++ [row], by rw [← hdone, List.append_assoc]; rfl, ?_⟩
      exact List.rel_append hall (.cons hbound .nil)
  · rintro planned d ⟨hPd, done, hdone, hall⟩
    rw [List.append_nil] at hdone
    exact ⟨hPd, hdone ▸ hall⟩

/-- The call took the version to `applying`. -/
def BeganIn (C : CallContext) (effectId : Nat) : Prop :=
  ∃ d planned, ReflTransGen (Move C) C.start d ∧ Began C d effectId planned

/-- The apply branch: plan, `applying`, all writes, and one of the two ends. -/
theorem confirmApply_follows (e : Effect) (requested : Option ExternalAction)
    (payload : PreviewPayload) (runId : Option String) (lockedAccounts : List String)
    (hmode : payload.mode = .apply) (hallowed : C.confirms e requested payload) :
    Follows C (fun d => IsLatest e d ∧ SourceCurrent C.edits d e ∧ Computed C.edits d e requested payload)
      (confirmApply e payload runId lockedAccounts) (fun _ _ => BeganIn C e.id)
      fun _ _ => True := by
  have hstable : Stable C.edits fun d =>
      IsLatest e d ∧ SourceCurrent C.edits d e ∧ Computed C.edits d e requested payload :=
    fun d r hr h => ⟨h.1, h.2.1.drift hr, h.2.2.drift hr⟩
  unfold confirmApply
  refine .bind (Follows.require fun _ _ => trivial) fun _ => ?_
  refine .bind ((planTargets_follows hstable payload.rows).pre fun _ h => h.1) fun planned => ?_
  refine Follows.from_start ?_
  refine .bind (.commitNoting (S := fun _ => Applying C e planned) ?_ ?_) fun _ => ?_
  · rintro d a ⟨⟨⟨hlatest, hcurrent, hcomputed⟩, hbound⟩, -⟩ hget hid hs
    obtain rfl := hlatest.eq_of_get hget hid
    exact .begin _ hlatest (List.mem_singleton.mp hs) rfl hallowed hcurrent hcomputed hmode hbound
  · rintro d a ⟨⟨⟨hlatest, -, -⟩, -⟩, hpath⟩ hget hid -
    obtain rfl := hlatest.eq_of_get hget hid
    obtain ⟨recent, hpast⟩ := Move.journal_path hpath
    refine ⟨⟨_, EffectTable.latest_modify_self hlatest, rfl, rfl⟩, a, payload, rfl,
      .began a payload planned :: recent, ?_, List.mem_cons_self⟩
    exact congrArg (JournalEntry.began a payload planned :: ·) hpast
  refine Follows.from_start (Follows.of_eq fun d₁ hd₁ => ?_)
  have hbegan : BeganIn C e.id := ⟨d₁, planned, hd₁.2, hd₁.1.began⟩
  refine .bind ((writeTargets_follows e planned).pre fun d hd => hd ▸ hd₁.1) fun result => ?_
  cases result with
  | error exc =>
    exact (recordCompensation_follows e planned exc).conseq (fun _ h => h.1)
      (fun _ _ _ => hbegan) fun _ _ h => h
  | ok progress =>
    exact (finishConfirm_follows e _ planned progress).conseq (fun _ h => ⟨h.1, h.2 progress rfl⟩)
      (fun _ _ _ => hbegan) fun _ _ h => h

/-- A confirmation whose hash is stale never returns. -/
theorem rejectStale_follows (e : Effect) (provided current : PreviewHash) :
    Follows C P (rejectStale e provided current) (fun _ _ => False) fun _ _ => True := by
  refine .bind (commitAdvance_follows (by decide)
    (fun _ => (by decide : EffectState.stale ∈ EffectState.idle)) fun _ h => nomatch h) fun _ => ?_
  exact .bind (receipt_follows _) fun _ => .throw fun _ _ => trivial

theorem requirePrecedingNav_follows (hP : Stable C.edits P) (e : Effect) (mode : EffectMode) :
    Follows C P (requirePrecedingNav e mode) (fun _ => P) fun _ _ => True := by
  unfold requirePrecedingNav
  refine .ite (fun _ => ?_) fun _ => .ret fun _ h => h
  cases e.source.flowDate with
  | none => exact .throw fun _ _ => trivial
  | some flowDate =>
    refine .bind (Follows.readRemote hP).anyhow fun final => ?_
    exact (Follows.require fun _ _ => trivial).conseq (fun _ h => h) (fun _ _ h => h.1.1)
      fun _ _ h => h

/-- The mode of a computed payload that is recorded only. -/
theorem Computed.mode_eq {d : Durable} {e : Effect} {requested : Option ExternalAction}
    {payload : PreviewPayload} (h : Computed C.edits d e requested payload)
    (hmode : payload.mode = .recordOnly) (hkind : e.kind = .cashFlow) : e.mode = .recordOnly := by
  cases h with
  | recordOnly mode => exact mode
  | acceptCurrent kind => exact absurd (hkind.symm.trans kind) (by decide)
  | apply => exact nomatch hmode

theorem Computed.mode_ne {d : Durable} {e : Effect} {requested : Option ExternalAction}
    {payload : PreviewPayload} (_ : Computed C.edits d e requested payload)
    (hmode : ¬ payload.mode = .recordOnly) : payload.mode = .apply := by
  cases hm : payload.mode with
  | apply => rfl
  | recordOnly => exact absurd hm hmode

/-- The call computed what its hash names: at some moment of it the version was the latest of its
record, its source the authoritative one, and the payload of this hash its preview. -/
def Recomputed (C : CallContext) (effectId : Nat) (hash : PreviewHash)
    (action : Option ExternalAction) : Prop :=
  ∃ d e payload, ReflTransGen (Move C) C.start d ∧ IsLatest e d ∧ e.id = effectId ∧
    SourceCurrent C.edits d e ∧ Computed C.edits d e action payload ∧ Digest.of payload = hash

/-- `_confirm_under_locks`, when the call may confirm what the hash names. It returns only when it
computed the hash itself, and recorded the version only or began to apply it. -/
theorem confirmUnderLocks_follows (effectId : Nat) (hash : PreviewHash)
    (action : Option ExternalAction) (historicalApply : Bool) (runId : Option String)
    (lockedAccounts : List String)
    (hallowed : ∀ e payload, e.id = effectId → Digest.of payload = hash → C.confirms e action payload) :
    Follows C (fun _ => True)
      (confirmUnderLocks effectId hash action historicalApply runId lockedAccounts)
      (fun result _ => Recomputed C effectId hash action ∧
        ((∃ e, result = .recordOnly e) ∨ BeganIn C effectId)) fun _ _ => True := by
  refine .bind (requireLatest_follows effectId _) fun e => ?_
  refine Follows.of_eq fun start hstart => ?_
  obtain ⟨hlatest, hid⟩ := hstart
  refine .bind ((requireCurrentSource_follows e).pre fun d hd => hd ▸ hlatest) fun _ => ?_
  have hbase : Stable C.edits fun d =>
      IsLatest e d ∧ (e.state ≠ .compensationPending → SourceCurrent C.edits d e) :=
    fun d r hr h => ⟨h.1, fun hs => (h.2 hs).drift hr⟩
  refine .bind (buildPreview_follows hbase e action historicalApply).anyhow fun p => ?_
  refine .bind (S := fun _ d => p.previewHash = hash ∧ (IsLatest e d ∧
    (e.state ≠ .compensationPending → SourceCurrent C.edits d e)) ∧
      Computed C.edits d e action p.payload ∧ e.state ∈ previewable) ?_ fun _ => ?_
  · refine .onlyIf (fun _ => ?_) fun d h hsame => ⟨Classical.not_not.mp hsame, h⟩
    exact (rejectStale_follows e hash _).conseq (fun _ h => h) (fun _ _ h => h.elim) fun _ _ h => h
  refine Follows.from_start (Follows.of_eq fun d₀ hd₀ => ?_)
  obtain ⟨⟨hhash, ⟨hlatest₀, hcurrent⟩, hcomputed, hpreviewable⟩, hpath⟩ := hd₀
  have hpending : e.state ≠ .compensationPending := by
    intro h
    rw [h] at hpreviewable
    revert hpreviewable
    decide
  have hready : Stable C.edits fun d => IsLatest e d ∧ SourceCurrent C.edits d e ∧
      Computed C.edits d e action p.payload :=
    fun d r hr h => ⟨h.1, h.2.1.drift hr, h.2.2.drift hr⟩
  have hrecomputed : Recomputed C effectId hash action :=
    ⟨d₀, e, p.payload, hpath, hlatest₀, hid, hcurrent hpending, hcomputed, hhash⟩
  refine .bind ((requirePrecedingNav_follows hready e _).pre ?_) fun _ => .ite (fun hmode => ?_)
    fun hmode => ?_
  · rintro d rfl
    exact ⟨hlatest₀, hcurrent hpending, hcomputed⟩
  · exact (confirmRecordOnly_follows e hash runId hpreviewable fun hkind =>
      hcomputed.mode_eq hmode hkind).conseq (fun _ h => h.1) (fun _ _ h => ⟨hrecomputed, .inl h⟩)
      fun _ _ h => h
  · exact (confirmApply_follows e action p.payload runId lockedAccounts (hcomputed.mode_ne hmode)
      (hallowed e p.payload hid hhash)).conseq (fun _ h => h)
      (fun _ _ h => ⟨hrecomputed, .inr (hid ▸ h)⟩) fun _ _ h => h

/-- `confirm`. -/
theorem confirm_follows (effectId : Nat) (hash : PreviewHash) (action : Option ExternalAction)
    (historicalApply : Bool) (runId : Option String)
    (hallowed : ∀ d, P d → (d.db.effects.get effectId).isSome → ∀ e payload, e.id = effectId →
      Digest.of payload = hash → C.confirms e action payload) :
    Follows C P (confirm effectId hash action historicalApply runId)
      (fun result _ => Recomputed C effectId hash action ∧
        ((∃ e, result = .recordOnly e) ∨ BeganIn C effectId)) fun _ _ => True := by
  unfold confirm
  refine Follows.of_eq fun start hstart => ?_
  refine .bind (S := fun db _ => db = start.db) (.reads fun w hw => congrArg Durable.db hw)
    fun db => Follows.of_eq fun d hd => ?_
  rw [hd]
  cases hget : start.db.effects.get effectId with
  | none => exact .throw fun _ _ => trivial
  | some initial =>
    refine .bind (S := fun _ _ => True) ?_ fun locked =>
      confirmUnderLocks_follows effectId hash action historicalApply runId locked
        (hallowed start hstart (by rw [hget]; rfl))
    exact (effectAccounts_follows .const initial).conseq (fun _ _ => trivial) (fun _ _ h => h)
      fun _ _ h => h

/-- `record_only`: a confirmation whose payload asks for no write. -/
theorem recordOnly_follows (effectId : Nat)
    (hallowed : ∀ e payload, e.id = effectId → payload.mode = .recordOnly → C.confirms e none payload) :
    Follows C (fun _ => True) (recordOnly effectId) (fun _ _ => True) fun _ _ => True := by
  refine .bind (preview_follows effectId none false) fun p => ?_
  refine .bind (Follows.require fun _ _ => trivial) fun _ => ?_
  refine Follows.of_eq fun d hd => ?_
  refine (confirm_follows (P := fun _ => True) effectId p.previewHash none false none
    fun _ _ _ e payload hid hhash => ?_).conseq (fun _ _ => trivial) (fun _ _ _ => trivial)
    fun _ _ h => h
  refine hallowed e payload hid ?_
  rw [Digest.of_injective hhash]
  exact hd.2

/-! ## Compensations -/

/-- The version waits for a task with these targets; other chains are as they were. -/
structure Waiting (t₀ : EffectTable) (e : Effect) (taskId : Nat) (targets : List CashTarget)
    (d : Durable) : Prop where
  /-- the version is the latest of its record -/
  latest : IsLatest e d
  /-- it waits -/
  state : e.state = .compensationPending
  /-- for the task -/
  task_id : e.columns.compensationTaskId = some taskId
  /-- with the targets -/
  task : ∃ task, d.tasks.getTask taskId = some task ∧ task.targets = targets
  /-- no other chain changed -/
  others : Others t₀ e.key d.db.effects

variable {t₀ : EffectTable} {e : Effect} {taskId : Nat} {targets : List CashTarget}

theorem Waiting.kept : Kept (Waiting t₀ e taskId targets) := by
  rintro d d' he ht - ⟨hlatest, hstate, hid, htask, hothers⟩
  exact ⟨by unfold IsLatest; rw [he]; exact hlatest, hstate, hid, ht ▸ htask, he ▸ hothers⟩

theorem Waiting.authorized {d : Durable} (h : Waiting t₀ e taskId targets d) {target : CashTarget}
    (htarget : target ∈ targets) : Authorized C d e.id .compensation target.mutation := by
  obtain ⟨task, htask, rfl⟩ := h.task
  exact .compensation ⟨htask, e, EffectTable.get_of_latest h.latest, h.state, h.task_id⟩ htarget

/-- A status event keeps what the version waits for. -/
theorem appendStatus_follows (status : CompensationStatus) (retryCount : Nat)
    (error : Option String) :
    Follows C (Waiting t₀ e taskId targets)
      (Compensation.appendStatus taskId status retryCount error)
      (fun _ => Waiting t₀ e taskId targets) fun _ => Waiting t₀ e taskId targets := by
  let fold (t : CompensationTask CashTarget) : CompensationTask CashTarget :=
    { t with status := status, retryCount := retryCount, error := error.getD t.error }
  have hset : ∀ d, Waiting t₀ e taskId targets d →
      Waiting t₀ e taskId targets
        { d with tasks := d.tasks.setStatus taskId fold fun _ => rfl } := by
    intro d h
    obtain ⟨task, htask, htargets⟩ := h.task
    refine ⟨h.latest, h.state, h.task_id, ⟨fold task, ?_, htargets⟩, h.others⟩
    rw [TaskLog.getTask_setStatus, htask, Option.map_some,
      if_pos (TaskLog.taskId_of_getTask htask)]
  have hmove : ∀ (d : Durable) task, d.tasks.getTask taskId = some task →
      task.status.validateTransition status = .ok () →
      Move C d { d with tasks := d.tasks.setStatus taskId fold fun _ => rfl } := by
    intro d task htask hvalid
    refine .taskStatus fold (fun _ => rfl) (fun _ => rfl) fun t ht => ?_
    rw [htask] at ht
    cases ht
    unfold CompensationStatus.validateTransition at hvalid
    split_ifs at hvalid with hmem
    exact hmem
  unfold Compensation.appendStatus
  generalize hact : (fun d : Durable => (_ : Except Error Unit × Durable)) = act
  have hrun : ∀ d, Waiting t₀ e taskId targets d →
      ReflTransGen (Move C) d (act d).2 ∧ Waiting t₀ e taskId targets (act d).2 := by
    intro d h
    obtain ⟨task, htask, -⟩ := h.task
    rw [← hact]
    simp only [htask]
    cases hvalid : task.status.validateTransition status with
    | error exc => exact ⟨.refl, h⟩
    | ok u => exact ⟨.single (hmove d task htask hvalid), hset d h⟩
  exact .disk (fun d h => (hrun d h).1) (fun d _ h _ => (hrun d h).2) (fun _ _ h => h)
    fun _ d h => (hrun d h).2

/-- One target of a task: already there, or written from the recorded base and read back. -/
theorem applyTarget_follows (hallowed : C.compensates e.id) {target : CashTarget}
    (htarget : target ∈ targets) :
    Follows C (Waiting t₀ e taskId targets) (Compensation.applyTarget e target)
      (fun _ => Waiting t₀ e taskId targets) fun _ => Waiting t₀ e taskId targets := by
  have hread : ∀ i : HoldingIdentity, Follows C (Waiting t₀ e taskId targets)
      (Storage.getHoldingFresh i.assetId i.account i.broker)
      (fun _ => Waiting t₀ e taskId targets) fun _ => Waiting t₀ e taskId targets := fun i =>
    (Follows.readRemote Waiting.kept.stable).conseq (fun _ h => h) (fun _ _ h => h.1) fun _ _ h => h
  unfold Compensation.applyTarget
  refine .ite (fun _ => .throw fun _ h => h) fun _ => ?_
  refine .bind (hread _) fun current => ?_
  refine .ite (fun _ => .throw fun _ h => h) fun _ => .ite (fun _ => .ret fun _ h => h) fun _ =>
    .ite (fun _ => .throw fun _ h => h) fun _ => ?_
  refine .bind (replaceHolding_follows Waiting.kept (fun d h => h.authorized htarget)
    fun _ => hallowed) fun _ => ?_
  refine .bind (hread _) fun readback => ?_
  exact .ite (fun _ => .ret fun _ h => h) fun _ => .throw fun _ h => h

theorem applyTargets_follows (hallowed : C.compensates e.id) (retryCount : Nat) :
    Follows C (Waiting t₀ e taskId targets) (Compensation.applyTargets e taskId retryCount targets)
      (fun _ => Waiting t₀ e taskId targets) fun _ => Waiting t₀ e taskId targets :=
  .fold_inv fun _ _ htarget =>
    .bind (applyTarget_follows hallowed htarget) fun _ => appendStatus_follows .running retryCount none

/-- `CompensationService.retry`. -/
theorem compensationRetry_follows (hallowed : C.compensates e.id) :
    Follows C (Waiting t₀ e taskId targets) (Compensation.retry e taskId)
      (fun _ => Waiting t₀ e taskId targets) fun _ _ => True := by
  unfold Compensation.retry
  refine .bind (S := fun tasks d => Waiting t₀ e taskId targets d ∧ d.tasks = tasks)
    (.reads fun _ h => ⟨h, rfl⟩) fun tasks => ?_
  cases htask : tasks.getTask taskId with
  | none => exact .throw fun _ _ => trivial
  | some task =>
    refine .ite (fun _ => .ret fun _ h => h.1) fun _ => .ite (fun _ => .ret fun _ h => h.1)
      fun _ => ?_
    refine Follows.of_eq fun start hstart => ?_
    have htargets : task.targets = targets := by
      obtain ⟨task', htask', htargets⟩ := hstart.1.task
      rw [hstart.2, htask] at htask'
      cases htask'
      exact htargets
    refine .bind ((appendStatus_follows .running (task.retryCount + 1) none).anyhow.pre
      fun d hd => hd ▸ hstart.1) fun _ => ?_
    refine .bind (S := fun _ => Waiting t₀ e taskId targets) ?_ fun failure => ?_
    · refine .tryCatch (F := fun _ => Waiting t₀ e taskId targets) ?_
        (fun exc => .ret fun _ h => h) fun _ _ => trivial
      rw [htargets]
      exact .bind (applyTargets_follows hallowed _) fun _ => .ret fun _ h => h
    · cases failure with
      | some exc => exact .bind (appendStatus_follows _ _ _).anyhow fun _ => .ret fun _ h => h
      | none => exact .bind (appendStatus_follows _ _ _).anyhow fun _ => .ret fun _ h => h

/-- The targets of the task read back so far. -/
structure Finalizing (t₀ : EffectTable) (e : Effect) (taskId : Nat) (targets : List CashTarget)
    (tasks : TaskLog CashTarget) (done : List CashTarget) (d : Durable) : Prop where
  /-- the version waits -/
  waiting : Waiting t₀ e taskId targets d
  /-- for a task of this log -/
  tasks_eq : d.tasks = tasks
  /-- the readbacks are in the journal -/
  verified : ∀ t ∈ done, .verified e.id t.mutation.identity ∈ d.journal

theorem Finalizing.kept {tasks : TaskLog CashTarget} {done : List CashTarget} :
    Kept (Finalizing t₀ e taskId targets tasks done) :=
  fun _ _ he ht hj h => ⟨Waiting.kept _ _ he ht hj h.waiting, ht.trans h.tasks_eq,
    fun t hmem => hj.subset (h.verified t hmem)⟩

theorem finalizeTarget_follows {tasks : TaskLog CashTarget} {done : List CashTarget}
    {target : CashTarget} (htarget : target ∈ targets) :
    Follows C (Finalizing t₀ e taskId targets tasks done) (finalizeTarget e.id target)
      (fun _ => Finalizing t₀ e taskId targets tasks (done ++ [target]))
      fun _ d => Others t₀ e.key d.db.effects := by
  unfold finalizeTarget
  refine .bind ((freshHoldingOf_follows Finalizing.kept.stable _ _ _).conseq (fun _ h => h)
    (fun _ _ h => h) fun _ _ h => h.waiting.others) fun readback => ?_
  refine .ite (fun hmatch => ?_) fun _ => .throw fun _ h => h.1.waiting.others
  refine .bind (S := fun _ => Finalizing t₀ e taskId targets tasks (done ++ [target]))
    (.journal (fun d h => .verify (h.1.waiting.authorized htarget) ⟨h.2, hmatch⟩) ?_) fun _ => ?_
  · rintro d ⟨h, -⟩
    refine ⟨Waiting.kept.note h.waiting, h.tasks_eq, fun t ht => ?_⟩
    rcases List.mem_append.mp ht with ht | ht
    · exact List.mem_cons_of_mem _ (h.verified t ht)
    · rw [List.mem_singleton.mp ht]
      exact List.mem_cons_self
  · refine (confirmBaseline_follows Finalizing.kept (fun d h => h.waiting.authorized htarget)
      (fun d h => h.verified target ?_) hmatch).conseq (fun _ h => h) (fun _ _ h => h)
      fun _ _ h => h.waiting.others
    exact List.mem_append_right _ (List.mem_singleton.mpr rfl)

/-- A waiting version stays, or is applied when its task is resolved and its targets read back. -/
theorem finalizeCompensation_follows (t₀ : EffectTable) (e : Effect) :
    Follows C
      (fun d => IsLatest e d ∧ e.state = .compensationPending ∧ Others t₀ e.key d.db.effects)
      (finalizeCompensationIfResolved e)
      (fun updated d => IsLatest updated d ∧ updated.key = e.key ∧ Others t₀ e.key d.db.effects)
      fun _ d => Others t₀ e.key d.db.effects := by
  unfold finalizeCompensationIfResolved
  cases htaskId : e.columns.compensationTaskId with
  | none => exact .throw fun _ h => h.2.2
  | some taskId =>
    refine .bind (S := fun tasks d => (IsLatest e d ∧ e.state = .compensationPending ∧
      Others t₀ e.key d.db.effects) ∧ d.tasks = tasks) (.reads fun _ h => ⟨h, rfl⟩) fun tasks => ?_
    cases htask : tasks.getTask taskId with
    | none => exact .ret fun _ h => ⟨h.1.1, rfl, h.1.2.2⟩
    | some task =>
      refine .ite (fun _ => .ret fun _ h => ⟨h.1.1, rfl, h.1.2.2⟩) fun hresolved => ?_
      rw [Classical.not_not] at hresolved
      refine .bind (S := fun _ => Finalizing t₀ e taskId task.targets tasks task.targets) ?_
        fun _ => ?_
      · refine (Follows.fold (fun rest _ d => ∃ done, done ++ rest = task.targets ∧
          Finalizing t₀ e taskId task.targets tasks done d) fun target rest _ hsuffix => ?_).conseq
          ?_ ?_ fun _ _ h => h
        · refine Follows.of_eq fun start hstart => ?_
          obtain ⟨done, hdone, hfinalizing⟩ := hstart
          refine (finalizeTarget_follows (hsuffix.subset List.mem_cons_self)).conseq
            (fun d hd => hd ▸ hfinalizing) (fun _ d h => ⟨done ++ [target], ?_, h⟩) fun _ _ h => h
          rw [← hdone, List.append_assoc]
          rfl
        · rintro d ⟨⟨hlatest, hstate, hothers⟩, rfl⟩
          exact ⟨[], rfl, ⟨hlatest, hstate, htaskId, ⟨task, htask, rfl⟩, hothers⟩, rfl, by simp⟩
        · rintro _ d ⟨done, hdone, h⟩
          rw [List.append_nil] at hdone
          exact hdone ▸ h
      · refine .commitUpdate ?_ ?_ (fun _ _ h => h.waiting.others) fun _ _ _ h => h.2.2
        · rintro d a h hget hid -
          obtain rfl := h.waiting.latest.eq_of_get hget hid
          refine .finalize _ hget ⟨h.tasks_eq ▸ htask, a, hget, h.waiting.state, htaskId⟩ hresolved
            rfl rfl h.verified
        · rintro d a h hget hid -
          obtain rfl := h.waiting.latest.eq_of_get hget hid
          exact ⟨EffectTable.latest_modify_self h.waiting.latest, rfl,
            h.waiting.others.modify (EffectTable.mem_of_get hget)⟩

/-! ## `retry` -/

/-- `retry` of a version, in states where unresolved versions are the latest. -/
theorem retry_follows (effectId : Nat) (hallowed : C.compensates effectId) :
    Follows C (fun d => UnresolvedLatest d.db.effects) (retry effectId) (fun _ _ => True)
      fun _ _ => True := by
  unfold retry
  refine .bind (S := fun db d => UnresolvedLatest d.db.effects ∧ d.db = db)
    (.reads fun _ h => ⟨h, rfl⟩) fun db => ?_
  cases hget : db.effects.get effectId with
  | none => exact .throw fun _ _ => trivial
  | some e =>
    refine .ite (fun _ => .throw fun _ _ => trivial) fun hpending => ?_
    rw [Classical.not_not] at hpending
    cases htaskId : e.columns.compensationTaskId with
    | none => exact .throw fun _ _ => trivial
    | some taskId =>
      refine Follows.of_eq fun start hstart => ?_
      obtain ⟨hlatest, rfl⟩ := hstart
      have hlatest : IsLatest e start :=
        hlatest e (EffectTable.mem_of_get hget) (by rw [hpending]; decide)
      cases htask : start.tasks.getTask taskId with
      | none =>
        refine .bind (S := fun _ _ => False) (Follows.bind (S := fun tasks _ => tasks = start.tasks)
          (.reads fun w hw => by rw [hw]) fun tasks => Follows.of_eq fun d hd => ?_) fun _ =>
          .false fun _ h => h
        rw [hd, htask]
        exact .throw fun _ _ => trivial
      | some task =>
        have hwaiting : Waiting start.db.effects e taskId task.targets start :=
          ⟨hlatest, hpending, htaskId, ⟨task, htask, rfl⟩, fun _ _ => rfl⟩
        refine .bind (S := fun _ => Waiting start.db.effects e taskId task.targets) ?_
          fun result => ?_
        · refine (compensationRetry_follows ((EffectTable.id_of_get hget).symm ▸ hallowed)).pre ?_
          rintro _ rfl
          exact hwaiting
        refine .ite (fun _ => ?_) fun _ => ?_
        · refine .bind (S := fun _ _ => True) ?_ fun _ => .ret fun _ _ => trivial
          refine .commit (fun d _ => ⟨.now d, Reading.now_from d, ?_⟩) (fun _ _ _ => trivial)
            fun _ _ _ _ => trivial
          exact updateEffect_spec (fun _ _ _ hg _ _ => .annotate _ hg rfl rfl rfl)
            fun _ _ _ _ _ _ => trivial
        · refine .bind (S := fun current d => Waiting start.db.effects e taskId task.targets d ∧
            current = e) (.reads fun w hw => ⟨hw, ?_⟩) fun current => ?_
          · have hg := EffectTable.get_of_latest hw.latest
            rw [EffectTable.id_of_get hget] at hg
            rw [hg]
            rfl
          refine Follows.of_eq fun d hd => ?_
          obtain ⟨hw, rfl⟩ := hd
          refine .bind ((finalizeCompensation_follows start.db.effects current).anyhow.pre
            fun d' hd' => hd' ▸ ⟨hw.latest, hw.state, hw.others⟩) fun finalized => ?_
          refine .bind (.enqueueReceipt (S := fun _ => IsLatest finalized) ?_ (fun _ _ _ => trivial)
            fun _ _ _ => trivial) fun _ => lookAgain_follows finalized fun correction => ?_
          · intro d' db h hdb
            show db.effects.latest finalized.key = some finalized
            rw [hdb]
            exact h.1
          · cases correction with
            | none => exact .ret fun _ _ => trivial
            | some correction => exact .bind (receipt_follows _) fun _ => .ret fun _ _ => trivial

end

end PortfolioManagement
