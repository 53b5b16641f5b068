import PortfolioManagement.Effect.Follows.Confirm

/-!
# Every call follows the moves

The scan, the audit and the gate, and with them every call of the service: whatever a call reads,
raises or is stopped at, it takes the durable state along `Move`, with the confirmations and
datasets that were asked for. A fact about runs is then an invariant of `Move`.
-/

namespace PortfolioManagement

open Relation (ReflTransGen)
open Prog (Spec)

section
variable {C : CallContext} {P : Durable → Prop}

/-! ## `scan` -/

/-- The rows of a scan: the ledger as it is read, or those of the dataset. -/
theorem scanFlows_follows (account : Option String) (dataset : Option CashFlowDataset)
    (hdataset : ∀ ds, dataset = some ds → C.datasets ds) :
    Follows C (fun _ => True) (scanFlows account dataset)
      (fun flows d => (dataset = none → flows = d.remote.ledger) ∧ ∀ ds, dataset = some ds →
        C.datasets ds ∧ flows = ds.completedRows.map CompletedCashFlowFacts.toCashFlow)
      fun _ _ => True := by
  cases dataset with
  | none =>
    refine (getCashFlows_follows .const).conseq (fun _ h => h) (fun flows d h => ?_)
      fun _ _ h => h
    exact ⟨fun _ => h.2, fun _ h => nomatch h⟩
  | some ds =>
    unfold scanFlows
    cases account with
    | none => exact .throw fun _ _ => trivial
    | some a =>
      refine .ite (fun _ => .throw fun _ _ => trivial) fun _ =>
        .ite (fun _ => .throw fun _ _ => trivial) fun _ => ?_
      refine .bind (S := fun _ _ => True) (.cache (fun _ => rfl) (fun _ => rfl) fun _ h => h)
        fun _ => .ret fun d _ => ⟨fun h => (nomatch h), ?_⟩
      rintro _ ⟨⟩
      exact ⟨hdataset ds rfl, rfl⟩

/-- The body of a scan: complete reads, and one transaction computed from them. -/
theorem scanBody_follows (account : Option String) (enqueueReceipts : Bool)
    (dataset : Option CashFlowDataset) (previousScan : Option ScanRun)
    (hdataset : ∀ ds, dataset = some ds → C.datasets ds) :
    Follows C (fun _ => True) (scanBody account enqueueReceipts dataset previousScan)
      (fun _ _ => True) fun _ _ => True := by
  refine .bind (scanFlows_follows account dataset hdataset) fun flows => ?_
  have hflows : Stable C.edits fun d =>
      (dataset = none → Saw C.edits d (fun r => .ok r.ledger) flows) ∧ ∀ ds, dataset = some ds →
        C.datasets ds ∧ flows = ds.completedRows.map CompletedCashFlowFacts.toCashFlow :=
    fun d r hr h => ⟨fun hn => (h.1 hn).drift hr, h.2⟩
  refine .bind ((Follows.readRemote hflows).anyhow.pre fun d h => ?_) fun holdings => ?_
  · exact ⟨fun hn => .now (congrArg Except.ok (h.1 hn).symm), h.2⟩
  refine .bind (S := fun r d => (((dataset = none → Saw C.edits d (fun r => .ok r.ledger) flows) ∧
    ∀ ds, dataset = some ds →
      C.datasets ds ∧ flows = ds.completedRows.map CompletedCashFlowFacts.toCashFlow) ∧
    d.remote.holdings.getCashHoldingsFresh account = .ok holdings) ∧ r = d.remote)
    (.reads fun _ h => ⟨h, rfl⟩) fun r => ?_
  refine .commit (fun d hd => ?_) (fun _ _ _ => trivial) fun _ _ _ _ => trivial
  obtain ⟨⟨hflows, hholdings⟩, rfl⟩ := hd
  refine ⟨⟨d.remote, dataset, flows, some holdings, account, d.db⟩, ⟨rfl, rfl, hflows.1, hflows.2,
    ?_⟩, ?_⟩
  · rintro _ ⟨⟩
    exact .now hholdings
  refine Spec.bind ((beginScan_spec _).pre ?_) fun runId => ?_
  · rintro _ rfl
    exact ⟨rfl, rfl⟩
  refine Spec.bind (commitScan_spec rfl rfl runId enqueueReceipts) fun result => ?_
  refine Spec.bind (Q := fun _ _ => True)
    (Spec.onlyIf (fun _ => enqueueReceipt_spec _ _) fun _ _ _ => trivial) fun _ => ?_
  exact Spec.ret fun _ _ => trivial

/-- `scan`. -/
theorem scan_follows (account : Option String) (enqueueReceipts : Bool)
    (dataset : Option CashFlowDataset) (hdataset : ∀ ds, dataset = some ds → C.datasets ds) :
    Follows C (fun _ => True) (scan account enqueueReceipts dataset) (fun _ _ => True)
      fun _ _ => True := by
  refine .bind (S := fun _ _ => True) (.reads fun _ h => h) fun previousScan => ?_
  refine .tryCatch (scanBody_follows account enqueueReceipts dataset previousScan hdataset)
    (fun exc => ?_) fun _ _ => trivial
  refine .bind (S := fun _ _ => True) ?_ fun _ => .throw fun _ _ => trivial
  refine .commit (fun d _ => ⟨.now d, Reading.now_from d, ?_⟩) (fun _ _ _ => trivial)
    fun _ _ _ _ => trivial
  refine Spec.bind (Q := fun _ _ => True) ((beginScan_spec _).conseq ?_ (fun _ _ _ => trivial)
    fun _ _ _ => trivial) fun failed => ?_
  · rintro _ rfl
    exact ⟨rfl, rfl⟩
  refine Spec.bind (finishScan_spec _ _) fun _ => ?_
  exact Spec.onlyIf (fun _ => enqueueReceipt_spec _ _) fun _ _ _ => trivial

/-! ## Lists of versions -/

theorem blockersForAccount_follows (hP : Stable C.edits P) (account : String) (navDate : Date) :
    Follows C P (blockersForAccount account navDate) (fun _ => P) fun _ => P := by
  refine .bind (S := fun _ => P) (.reads fun _ h => h) fun latest => ?_
  refine .fold_inv fun acc e _ => ?_
  refine .bind (effectAccounts_follows hP e) fun accounts => ?_
  refine .ite (fun _ => ?_) fun _ => .ret fun _ h => h
  exact .bind (S := fun _ => P) (.ofExcept (fun _ _ h _ => h) fun _ _ h _ => h) fun _ =>
    .ret fun _ h => h

/-- `list_effects` lists latest versions, each once. -/
theorem listEffects_follows (account : Option String) :
    Follows C (fun _ => True) (listEffects account)
      (fun effects d => effects.Nodup ∧ StillLatest effects d.db.effects) fun _ _ => True := by
  have hlist : ∀ t : EffectTable, t.listLatest.Nodup ∧ StillLatest t.listLatest t := fun t =>
    ⟨listLatest_nodup t, fun e he => EffectTable.mem_listLatest.mp he⟩
  refine .bind (S := fun latest d => latest = d.db.effects.listLatest) (.reads fun _ _ => rfl)
    fun latest => ?_
  have hall : Follows C (fun d => latest = d.db.effects.listLatest) (pure latest)
      (fun effects d => effects.Nodup ∧ StillLatest effects d.db.effects) fun _ _ => True :=
    .ret fun d h => h ▸ hlist d.db.effects
  split
  · exact hall
  · exact hall
  · refine (Follows.fold (X := fun _ _ => True) (fun rest acc d =>
      latest = d.db.effects.listLatest ∧ (acc ++ rest).Sublist latest)
      fun e rest acc _ => ?_).conseq (fun d h => ⟨h, List.Sublist.refl _⟩) ?_ fun _ _ h => h
    · refine .bind (effectAccounts_follows (P := fun d => latest = d.db.effects.listLatest ∧
        (acc ++ e :: rest).Sublist latest) (fun _ _ _ h => h) e).anyhow fun accounts => ?_
      refine .ret fun d h => ⟨h.1, ?_⟩
      split
      · simpa using h.2
      · exact ((List.Sublist.refl acc).append (List.sublist_cons_self e rest)).trans h.2
    · rintro effects d ⟨h, hsublist⟩
      rw [List.append_nil, h] at hsublist
      obtain ⟨hnodup, hlatest⟩ := hlist d.db.effects
      exact ⟨hnodup.sublist hsublist, fun e he => hlatest e (hsublist.subset he)⟩

/-! ## `audit` -/

/-- Chains other than that of the first row keep the rows still to come. -/
theorem StillLatest.of_others {t₀ t : EffectTable} {e : Effect} {rest : List Effect}
    (h : StillLatest (e :: rest) t₀) (hnotin : e ∉ rest) (hothers : Others t₀ e.key t) :
    StillLatest rest t := by
  intro a ha
  have hlatest := h a (List.mem_cons_of_mem e ha)
  rw [hothers a.key ?_]
  · exact hlatest
  · intro hk
    rw [hk, h e List.mem_cons_self] at hlatest
    exact hnotin (Option.some.inj hlatest ▸ ha)

/-- One version of the audit. -/
theorem auditEffect_follows {e : Effect} {rest : List Effect} (hnotin : e ∉ rest)
    (acc : AuditResult) :
    Follows C (fun d => StillLatest (e :: rest) d.db.effects) (auditEffect acc e)
      (fun _ d => StillLatest rest d.db.effects) fun _ _ => True := by
  have htail : ∀ d : Durable, StillLatest (e :: rest) d.db.effects →
      StillLatest rest d.db.effects := fun d h a ha => h a (List.mem_cons_of_mem e ha)
  refine .ite (fun _ => .ret htail) fun hpending => ?_
  rw [Classical.not_not] at hpending
  refine Follows.of_eq fun start hstart => ?_
  have hothers : ∀ d : Durable, Others start.db.effects e.key d.db.effects →
      StillLatest rest d.db.effects := fun d h => hstart.of_others hnotin h
  refine .tryCatch (F := fun _ d => StillLatest rest d.db.effects) ?_
    (fun exc => .ret fun _ h => h) fun _ _ => trivial
  refine .bind ((finalizeCompensation_follows start.db.effects e).conseq ?_ (fun _ _ h => h)
    fun _ d h => hothers d h) fun updated => ?_
  · rintro _ rfl
    exact ⟨hstart e List.mem_cons_self, hpending, fun _ _ => rfl⟩
  refine .ite (fun _ => ?_) fun _ => .ret fun d h => hothers d h.2.2
  refine Follows.of_eq fun d hd => ?_
  obtain ⟨hlatest, hkey, ho⟩ := hd
  refine .bind ((currentCashFlowSource_follows start.db.effects).conseq ?_
    (fun _ _ h => h.1) fun _ d' h => hothers d' (hkey ▸ h)) fun correction => ?_
  · rintro _ rfl
    exact ⟨hlatest, hkey ▸ ho⟩
  cases correction with
  | none => exact .ret fun d' h => hothers d' (hkey ▸ h)
  | some correction => exact .ret fun d' h => hothers d' (hkey ▸ h)

theorem audit_follows (account : Option String) :
    Follows C (fun _ => True) (audit account) (fun _ _ => True) fun _ _ => True := by
  refine .bind (listEffects_follows account) fun effects => ?_
  refine Follows.of_eq fun start hstart => ?_
  refine .bind (S := fun _ _ => True) ?_ fun result => ?_
  · refine (Follows.fold (X := fun _ _ => True) (fun rest _ d => StillLatest rest d.db.effects)
      fun e rest acc hsuffix => ?_).conseq ?_ (fun _ _ _ => trivial) fun _ _ h => h
    · exact auditEffect_follows (List.nodup_cons.mp (hstart.1.sublist hsuffix.sublist)).1 acc
    · rintro _ rfl
      exact hstart.2
  · refine .bind (S := fun _ _ => True) (.read fun _ _ => trivial) fun w => ?_
    split
    · exact .ret fun _ h => h
    · exact .ret fun _ h => h
    · exact .bind (blockersForAccount_follows .const _ _) fun _ => .ret fun _ h => h

/-! ## `review` and `nav_gate` -/

theorem review_follows (account : Option String) :
    Follows C (fun _ => True) (review account) (fun _ _ => True) fun _ _ => True := by
  refine .bind (scan_follows account false none fun _ h => nomatch h) fun scanned => ?_
  refine .bind (audit_follows account) fun audited => ?_
  exact .bind (listEffects_follows account) fun effects => .ret fun _ _ => trivial

theorem navGate_follows (account : String) (navDate : Date) (dataset : Option CashFlowDataset)
    (hdataset : ∀ ds, dataset = some ds → C.datasets ds) :
    Follows C (fun _ => True) (navGate account navDate dataset) (fun _ _ => True)
      fun _ _ => True := by
  refine .bind (S := fun _ _ => True) ?_ fun _ => ?_
  · unfold requireGateDataset
    cases dataset with
    | none => exact .ret fun _ h => h
    | some ds =>
      exact .ite (fun _ => .throw fun _ _ => trivial) fun _ =>
        .ite (fun _ => .throw fun _ _ => trivial) fun _ => .ret fun _ h => h
  refine .bind (scan_follows (some account) false dataset hdataset) fun scanned => ?_
  refine .bind (blockersForAccount_follows .const account navDate) fun blockers => ?_
  exact .bind (S := fun _ _ => True) (.reads fun _ h => h) fun t => .ret fun _ h => h

end

/-! ## Calls -/

/-- The confirmations a call asks for, in the state it starts from. -/
def Call.Confirms (start : Durable) :
    Call → Effect → Option ExternalAction → PreviewPayload → Prop
  | .confirm id hash action _, e, requested, payload =>
    e.id = id ∧ Digest.of payload = hash ∧ requested = action ∧ (start.db.effects.get id).isSome
  | .recordOnly id, e, requested, payload =>
    e.id = id ∧ payload.mode = .recordOnly ∧ requested = none
  | _, _, _, _ => False

/-- The dataset a call works on. -/
def Call.dataset : Call → Option CashFlowDataset
  | .scan _ _ dataset => dataset
  | .navGate _ _ dataset => dataset
  | _ => none

/-- The version whose compensation a call retries. -/
def Call.Compensates : Call → Nat → Prop
  | .retry id, effectId => effectId = id
  | _, _ => False

/-- The context of a call: the changes third parties may make while it runs, what it asks for, and
where it starts. -/
def Call.context (c : Call) (edits : Remote → Remote → Prop) (start : Durable) : CallContext where
  edits := edits
  confirms := c.Confirms start
  datasets ds := c.dataset = some ds
  compensates := c.Compensates
  start := start

/-- Whatever goes wrong in it, a call takes the durable state along `Move`. -/
theorem Call.follows (c : Call) (edits : Remote → Remote → Prop) (start : Durable) :
    Follows (c.context edits start) (fun d => d = start ∧ UnresolvedLatest d.db.effects) c.program
      (fun _ _ => True) fun _ _ => True := by
  cases c with
  | scan account enqueue dataset =>
    exact .discard ((scan_follows account enqueue dataset fun _ h => h).pre fun _ _ => trivial)
  | preview id action historical =>
    exact .discard ((preview_follows id action historical).pre fun _ _ => trivial)
  | confirm id hash action historical =>
    refine .discard ((confirm_follows id hash action historical none ?_).pre fun _ h => h)
    rintro d ⟨rfl, -⟩ hknown e payload hid hhash
    exact ⟨hid, hhash, rfl, hknown⟩
  | recordOnly id =>
    refine .discard ((recordOnly_follows id ?_).pre fun _ _ => trivial)
    exact fun e payload hid hmode => ⟨hid, hmode, rfl⟩
  | retry id => exact .discard ((retry_follows id rfl).pre fun _ h => h.2)
  | audit account => exact .discard ((audit_follows account).pre fun _ _ => trivial)
  | review account => exact .discard ((review_follows account).pre fun _ _ => trivial)
  | navGate account date dataset =>
    exact .discard ((navGate_follows account date dataset fun _ h => h).pre fun _ _ => trivial)

end PortfolioManagement
