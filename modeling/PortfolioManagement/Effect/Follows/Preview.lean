import PortfolioManagement.Effect.Follows.Rules

/-!
# Reads, corrections and previews

The programs that read the remote side keep every stable fact and add what they read. Reading the
source again may create a correction version; a preview computes its payload from fresh reads and
stores it in the version.
-/

namespace PortfolioManagement

open Relation (ReflTransGen)
open Prog (Spec)

section
variable {C : CallContext} {P : Durable → Prop}

/-! ## Storage -/

/-- A change of the caches of the service instance. -/
theorem Follows.cache {f : World → World} {S : Unit → Durable → Prop} {X : Stop → Durable → Prop}
    (hdurable : ∀ w, (f w).toDurable = w.toDurable)
    (hticks : ∀ w, (f w).remoteTicks = w.remoteTicks) (hS : ∀ d, P d → S () d) :
    Follows C P (Prog.alter f) S X := by
  refine Spec.alter (fun w _ => ?_) fun w hw => ⟨⟨?_, ?_⟩, ?_⟩
  · rw [hdurable]
  · rw [hticks]
    exact hw.1.edits
  · rw [hdurable]
    exact hw.1.path
  · rw [hdurable]
    exact hS _ hw.2

theorem getCashFlows_follows (hP : Stable C.edits P) :
    Follows C P Storage.getCashFlows (fun flows d => P d ∧ flows = d.remote.ledger)
      fun _ => P := by
  refine .bind (.readRemote hP) fun flows => ?_
  refine .bind (S := fun _ d => P d ∧ flows = d.remote.ledger)
    (.cache (fun _ => rfl) (fun _ => rfl) ?_) fun _ => .ret fun _ h => h
  rintro d ⟨hd, ⟨⟩⟩
  exact ⟨hd, rfl⟩

theorem freshHoldingOf_follows (hP : Stable C.edits P) (currency account broker : String) :
    Follows C P (freshHoldingOf currency account broker)
      (fun h d => P d ∧ FreshRead C.edits d currency account broker h) fun _ => P := by
  unfold freshHoldingOf
  cases hc : Currency.ofText currency with
  | none => exact .throw fun _ h => h
  | some c =>
    refine (Follows.readRemote hP).conseq (fun _ h => h) ?_ fun _ _ h => h
    exact fun h d hd => ⟨hd.1, c, hc, .now hd.2⟩

theorem currentFlowAccounts_follows (hP : Stable C.edits P) :
    Follows C P currentFlowAccounts (fun _ => P) fun _ => P := by
  refine .bind (S := fun _ => P) (.reads fun _ h => h) fun flows => ?_
  cases flows with
  | some flows => exact .ret fun _ h => h
  | none => exact (getCashFlows_follows hP).conseq (fun _ h => h) (fun _ _ h => h.1) fun _ _ h => h

theorem effectAccounts_follows (hP : Stable C.edits P) (e : Effect) :
    Follows C P (effectAccounts e) (fun _ => P) fun _ => P := by
  refine .bind (S := fun _ => P) (.reads fun _ h => h) fun stored => ?_
  refine .ite (fun _ => ?_) fun _ => .ret fun _ h => h
  exact .bind (currentFlowAccounts_follows hP) fun _ => .ret fun _ h => h

/-! ## Reading the source again -/

/-- Chains other than one have the latest rows they had. -/
def Others (t₀ : EffectTable) (k : EffectKey) (t : EffectTable) : Prop :=
  ∀ k', k' ≠ k → t.latest k' = t₀.latest k'

theorem Others.push {t₀ t : EffectTable} {k : EffectKey} {kind : EffectKind} {source : Source}
    {mode : EffectMode} {state : EffectState} (h : Others t₀ k t)
    (hk : (⟨kind, source.recordId⟩ : EffectKey) = k) :
    Others t₀ k (t.push kind source mode state) := by
  intro k' hk'
  rw [EffectTable.latest_push, if_neg fun heq => hk' (heq.trans hk), h k' hk']

theorem Others.modify {t₀ t : EffectTable} {e : Effect} {f : EffectColumns → EffectColumns}
    (h : Others t₀ e.key t) (he : e ∈ t.rows) : Others t₀ e.key (t.modify e.id f) := by
  intro k' hk'
  rw [EffectTable.latest_modify_ne he fun heq => hk' heq.symm, h k' hk']

/-- The rediscovered source belongs to the chain of the version. -/
theorem key_rereadDiscovery (r : Remote) (cutover : Date) (flows : List CashFlow) {e : Effect}
    (hkind : e.kind = .cashFlow) :
    (⟨.cashFlow, (rereadDiscovery r cutover flows e).1.source.recordId⟩ : EffectKey) = e.key := by
  have hrecord : (rereadDiscovery r cutover flows e).1.source.recordId = e.recordId := by
    unfold rereadDiscovery
    cases hfind : flows.find? fun flow => flow.recordId = e.recordId with
    | none =>
      simp only [Source.tombstone]
      split <;> rfl
    | some current =>
      simp only [recordId_discover]
      simpa using List.find?_some hfind
  rw [hrecord, ← hkind]
  rfl

/-- A rediscovered source that differs is one a new version may have. -/
theorem origin_rereadDiscovery {s : Reading} {db : Db} {cutover : Date} {e : Effect}
    (hkind : e.kind = .cashFlow) (hlatest : db.effects.latest e.key = some e)
    (hcutover : db.cutover = cutover)
    (hsource : (rereadDiscovery s.remote cutover s.flows e).1.source ≠ e.source) :
    Origin s db .cashFlow (rereadDiscovery s.remote cutover s.flows e).1.source
      (rereadDiscovery s.remote cutover s.flows e).1.mode
      (rereadDiscovery s.remote cutover s.flows e).1.state := by
  subst hcutover
  unfold rereadDiscovery at hsource ⊢
  cases hfind : s.flows.find? fun flow => flow.recordId = e.recordId with
  | some current => exact .row (List.mem_of_find?_eq_some hfind)
  | none =>
    rw [hfind] at hsource
    simp only [Source.tombstone] at hsource ⊢
    have halive : e.source.isDeleted = false := by
      by_contra hdeleted
      rw [Bool.not_eq_false] at hdeleted
      exact hsource (if_pos hdeleted)
    rw [halive]
    refine .gone hlatest hkind ?_ halive (.inr rfl)
    intro hmem
    obtain ⟨hmem, -⟩ := List.mem_filter.mp hmem
    obtain ⟨flow, hflow, hid⟩ := List.mem_map.mp hmem
    exact absurd (decide_eq_true hid) (List.find?_eq_none.mp hfind flow hflow)

/-- The correction of a version whose source moved. -/
theorem createCorrection_follows {t₀ : EffectTable} {e : Effect} {flows : List CashFlow}
    {start : Durable} (hkind : e.kind = .cashFlow)
    (hlatest : start.db.effects.latest e.key = some e)
    (hothers : Others t₀ e.key start.db.effects) (hpending : e.state ≠ .compensationPending)
    (hflows : flows = start.remote.ledger)
    (hsource : (rereadDiscovery start.remote start.db.cutover flows e).1.source ≠ e.source)
    (type : CreationEvent) :
    Follows C (fun d => d = start)
      (createCorrection e (rereadDiscovery start.remote start.db.cutover flows e).1 type)
      (fun _ d => Others t₀ e.key d.db.effects) fun _ d => Others t₀ e.key d.db.effects := by
  have hkey := key_rereadDiscovery start.remote start.db.cutover flows hkind
  generalize hfound : (rereadDiscovery start.remote start.db.cutover flows e).1 = found
  rw [hfound] at hkey hsource
  have hcreated : Follows C (fun d => d = start)
      (M.commit (Store.createVersion .cashFlow found.source found.mode found.state type))
      (fun created d => created ∈ d.db.effects.rows ∧ created.key = e.key ∧
        Others t₀ e.key d.db.effects) fun _ d => Others t₀ e.key d.db.effects := by
    refine .commit (fun d hd => ?_) (fun _ d h => h ▸ hothers) fun _ _ _ h => h.2.2
    subst hd
    refine ⟨⟨d.remote, none, flows, none, none, d.db⟩,
      ⟨rfl, rfl, fun _ => hflows ▸ .now rfl, fun _ h => (nomatch h), fun _ h => (nomatch h)⟩, ?_⟩
    refine createVersion_spec ?_ ?_ ?_ ?_
    · rintro db l rfl hl -
      rw [hkey, hlatest] at hl
      cases hl
      exact ⟨EffectTable.mem_of_latest hlatest, rfl, hothers⟩
    · rintro db l rfl hl
      rw [hkey, hlatest] at hl
      cases hl
      exact hpending
    · rintro db rfl
      rw [← hfound]
      exact origin_rereadDiscovery hkind hlatest rfl (by rw [hfound]; exact hsource)
    · rintro db rfl
      refine ⟨?_, hkey, hothers.push hkey⟩
      refine EffectTable.mem_of_latest (k := e.key) ?_
      rw [effects_addVersion, EffectTable.latest_push, if_pos hkey.symm]
  have hnote : ∀ id : Nat, Follows C (fun d => Others t₀ e.key d.db.effects)
      (M.commit (Store.appendEvent e.id
        (.authoritativeSourceChanged e.sourceHash (sourceHash found.source) id)) >>=
        fun _ => pure id)
      (fun _ d => Others t₀ e.key d.db.effects) fun _ d => Others t₀ e.key d.db.effects := by
    intro id
    refine .bind (S := fun _ d => Others t₀ e.key d.db.effects) ?_ fun _ => .ret fun _ h => h
    refine .commit (fun d hd => ⟨.now d, Reading.now_from d, ?_⟩) (fun _ _ h => h) fun _ _ _ h => h
    refine bookkeeping_spec (fun _ => rfl) (fun _ => rfl) (fun _ => rfl)
      (fun _ => List.suffix_cons _ _) ?_
    rintro db rfl
    exact hd
  refine .bind hcreated fun created => ?_
  cases found.error with
  | none => exact (hnote created.id).pre fun _ h => h.2.2
  | some error =>
    refine .bind (S := fun _ d => Others t₀ e.key d.db.effects) ?_ fun _ => hnote created.id
    refine .commit (fun d hd => ⟨.now d, Reading.now_from d, ?_⟩) (fun _ _ h => h.2.2)
      fun _ _ _ h => h
    refine updateEffect_spec ?_ ?_
    · rintro db a rfl hget hid hs
      exact .annotate _ hget (List.mem_singleton.mp hs).symm rfl rfl
    · rintro db a rfl hget hid -
      obtain ⟨hmem, hk, ho⟩ := hd
      have ha : a = created := EffectTable.eq_of_id_eq (EffectTable.mem_of_get hget) hmem hid
      subst ha
      rw [← hk] at ho ⊢
      exact ho.modify hmem

/-- Reading the source again leaves other chains alone; when it finds no correction the version is
still the latest and, unless it waits for a compensation, its source is the authoritative one. -/
theorem currentCashFlowSource_follows (t₀ : EffectTable) {e : Effect} :
    Follows C (fun d => d.db.effects.latest e.key = some e ∧ Others t₀ e.key d.db.effects)
      (currentCashFlowSource e)
      (fun result d => Others t₀ e.key d.db.effects ∧ (result = none →
        d.db.effects.latest e.key = some e ∧
          (e.state ≠ .compensationPending → SourceCurrent C.edits d e)))
      fun _ d => Others t₀ e.key d.db.effects := by
  unfold currentCashFlowSource
  refine .ite (fun hkind => .ret fun d h => ⟨h.2, fun _ => ⟨h.1, fun _ hk => ?_⟩⟩) fun hkind => ?_
  · exact absurd hk hkind
  rw [Classical.not_not] at hkind
  have hstable : Stable C.edits fun d =>
      d.db.effects.latest e.key = some e ∧ Others t₀ e.key d.db.effects := fun _ _ _ h => h
  refine .bind ((getCashFlows_follows hstable).conseq (fun _ h => h) (fun _ _ h => h)
    fun _ _ h => h.2) fun flows => ?_
  refine Follows.of_eq fun start hstart => ?_
  obtain ⟨⟨hlatest, hothers⟩, hflows⟩ := hstart
  refine .bind (S := fun w d => w.toDurable = start ∧ d = start) (.read fun w h => ⟨h, h⟩)
    fun w => ?_
  refine Follows.of_eq fun d hd => ?_
  obtain ⟨hw, rfl⟩ := hd
  simp only [hw]
  refine .ite (fun hsame => .ret ?_) fun hchanged => .ite (fun hpending => ?_) fun hpending => ?_
  · rintro _ rfl
    refine ⟨hothers, fun _ => ⟨hlatest, fun _ _ => ⟨_, .now, ?_⟩⟩⟩
    rw [← hflows]
    exact sourceHash_inj.mp hsame
  · refine .bind (S := fun _ d' => d'.db.effects = d.db.effects) ?_ fun _ => .ret ?_
    · refine .commit (fun d' hd' => ⟨.now d', Reading.now_from d', ?_⟩) (fun _ d' h => h ▸ hothers)
        fun _ _ d' h => ?_
      · subst hd'
        refine deferSourceChange_spec ?_ ?_
        · rintro _ rfl; rfl
        · rintro _ _ rfl; rfl
      · rw [h]
        exact hothers
    · intro d' h
      rw [h]
      exact ⟨hothers, fun _ => ⟨hlatest, fun h => absurd hpending h⟩⟩
  · refine .bind (createCorrection_follows hkind hlatest hothers hpending hflows
      (fun heq => hchanged (sourceHash_inj.mpr heq)) _) fun correction => .ret fun d h => ?_
    exact ⟨h, fun h => nomatch h⟩

/-! ## Building a preview -/

theorem requireLatest_follows (effectId : Nat) (verb : String) :
    Follows C (fun _ => True) (requireLatest effectId verb)
      (fun e d => d.db.effects.latest e.key = some e ∧ e.id = effectId) fun _ _ => True := by
  unfold requireLatest
  refine .bind (S := fun db d => d.db = db) (.reads fun _ _ => rfl) fun db => ?_
  cases hget : db.effects.get effectId with
  | none => exact .throw fun _ _ => trivial
  | some e =>
    refine .ite (fun hlatest => .ret fun d hd => ?_) fun _ => .throw fun _ _ => trivial
    subst hd
    refine ⟨?_, EffectTable.id_of_get hget⟩
    obtain ⟨l, hl, hid⟩ := Option.map_eq_some_iff.mp hlatest
    rw [hl, EffectTable.eq_of_id_eq (EffectTable.mem_of_latest hl) (EffectTable.mem_of_get hget)
      (hid.trans (EffectTable.id_of_get hget).symm)]

/-- The cached balances were fetched by the call. -/
def FetchedBalances (E : Remote → Remote → Prop) (cache : List (String × FutuSnapshot))
    (d : Durable) : Prop :=
  ∀ entry ∈ cache, Saw E d (fun r => r.fetchBalances entry.1) entry.2

theorem FetchedBalances.stable {E : Remote → Remote → Prop} (cache : List (String × FutuSnapshot)) :
    Stable E (FetchedBalances E cache) :=
  fun _ _ hr h entry hentry => (h entry hentry).drift hr

/-- The balance of a Futu target with its evidence. -/
theorem futuTarget_follows (hP : Stable C.edits P) (e : Effect) (source : Source)
    (cache : List (String × FutuSnapshot)) :
    Follows C (fun d => P d ∧ FetchedBalances C.edits cache d) (futuTarget source cache)
      (fun found d => P d ∧ EvidenceOf C.edits d e source found.1 (some found.2.1) ∧
        FetchedBalances C.edits found.2.2 d) fun _ => P := by
  have hbase : Stable C.edits fun d => P d ∧ FetchedBalances C.edits cache d :=
    hP.and (FetchedBalances.stable cache)
  refine .bind (S := fun found d => P d ∧
    Saw C.edits d (fun r => r.fetchBalances (textOr source.account)) found.1 ∧
      FetchedBalances C.edits found.2 d) ?_ fun found => ?_
  · unfold futuSnapshot
    cases hfind : cache.find? fun entry => entry.1 = textOr source.account with
    | some entry =>
      refine .ret fun d h => ⟨h.1, ?_, h.2⟩
      have haccount : entry.1 = textOr source.account := by simpa using List.find?_some hfind
      rw [← haccount]
      exact h.2 entry (List.mem_of_find?_eq_some hfind)
    | none =>
      refine .bind ((Follows.readRemote hbase).conseq (fun _ h => h) (fun _ _ h => h)
        fun _ _ h => h.1) fun snapshot => .ret fun d h => ⟨h.1.1, .now h.2, fun entry hentry => ?_⟩
      rcases List.mem_cons.mp hentry with rfl | hentry
      · exact .now h.2
      · exact h.1.2 entry hentry
  · refine .bind (S := fun balance d => P d ∧ EvidenceOf C.edits d e source balance.1
      (some balance.2) ∧ FetchedBalances C.edits found.2 d)
      (.ofExcept (fun balance d h hok => ⟨h.1, ⟨found.1, h.2.1, hok⟩, h.2.2⟩)
        fun _ _ h _ => h.1) fun balance => .ret fun _ h => h

/-- The amount chosen for an operation of a cash-flow version; only an external change accepts the
current holding. -/
theorem chooseTarget_follows (hP : Stable C.edits P) (e : Effect) (action : Option ExternalAction)
    (source : Source) (delta : Cents) (before : HoldingPayload)
    (snapshots : List (String × FutuSnapshot)) :
    Follows C (fun d => P d ∧ FetchedBalances C.edits snapshots d)
      (chooseTarget e action source delta before snapshots)
      (fun choice d => P d ∧ match choice with
        | .accept => e.kind = .externalChange ∧ FetchedBalances C.edits snapshots d
        | .amount target _ evidence _ snapshots =>
          FlowTarget e action source delta before.quantity target ∧
            EvidenceOf C.edits d e source target evidence ∧
            FetchedBalances C.edits snapshots d)
      fun _ => P := by
  have hnotFlow : e.kind = .externalChange → e.kind = .cashFlow → False :=
    fun hk hkind => absurd (hkind.symm.trans hk) (by decide)
  unfold chooseTarget
  refine .ite (fun hfutu => ?_) fun _ => .ite (fun hexternal => ?_) fun _ =>
    .ite (fun hbroker => ?_) fun hbroker => .ite (fun haction => ?_) fun haction => ?_
  · refine .bind (futuTarget_follows hP e _ _) fun found => .ret fun d h => ⟨h.1, fun hkind _ => ?_,
      h.2⟩
    rcases hfutu with hk | ⟨hk, -⟩ <;> exact absurd (hkind.symm.trans hk) (by decide)
  · split
    · exact .ret fun d h => ⟨h.1, hexternal, h.2⟩
    · split
      · exact .throw fun _ h => h.1
      · exact .ret fun d h => ⟨h.1, fun hkind => (hnotFlow hexternal hkind).elim,
          fun hkind => (hnotFlow hexternal hkind).elim, h.2⟩
    · exact .throw fun _ h => h.1
  · refine .bind (futuTarget_follows hP e _ _) fun found => .ret fun d h => ⟨h.1, fun _ hb => ?_, h.2⟩
    exact absurd hbroker hb
  · exact .ret fun d h => ⟨h.1, fun _ _ => by rw [if_pos haction], fun _ => hbroker, h.2⟩
  · refine .ite (fun _ => .throw fun _ h => h.1) fun _ => .ret fun d h => ⟨h.1, fun _ _ => ?_,
      fun _ => hbroker, h.2⟩
    rw [if_neg haction]

/-- One operation of the row loop gives the row planned for it, or accepts the holding. -/
theorem previewRow_follows (hP : Stable C.edits P) {e : Effect} {action : Option ExternalAction}
    {operations : List (Source × Cents)} {fetched : List (String × Option Holding)}
    {op : Source × Cents} (hop : op ∈ operations) (acc : PreviewRows) :
    Follows C (fun d => (P d ∧ FetchedFor C.edits d operations fetched) ∧
        FetchedBalances C.edits acc.snapshots d)
      (previewRow e action fetched acc op)
      (fun acc' d => (P d ∧ FetchedFor C.edits d operations fetched) ∧
        FetchedBalances C.edits acc'.snapshots d ∧
        ((acc'.accepted.isSome ∧ e.kind = .externalChange) ∨
          acc'.accepted = acc.accepted ∧
            ∃ row, acc'.rows = acc.rows ++ [row] ∧ RowPlan C.edits d e action operations op row))
      fun _ => P := by
  have hbase : Stable C.edits fun d => (P d ∧ FetchedFor C.edits d operations fetched) ∧
      FetchedBalances C.edits acc.snapshots d :=
    (hP.and fun _ _ hr h => h.drift hr).and (FetchedBalances.stable acc.snapshots)
  unfold previewRow
  cases hc : op.1.cashCurrency with
  | none => exact .throw fun _ h => h.1.1
  | some c =>
    refine .ite (fun _ => .throw fun _ h => h.1.1) fun _ =>
      .ite (fun _ => .throw fun _ h => h.1.1) fun _ => ?_
    -- the fresh holding is the one fetched for the identity, or a read of its own
    let Read (before : Option Holding) (d : Durable) : Prop :=
      ∃ source, (∃ op' ∈ operations, op'.1 = source) ∧
        operationIdentity source = operationIdentity op.1 ∧
        FreshRead C.edits d (textOr source.currency) (textOr source.account)
          (textOr source.broker) before
    have hread : ∀ before, Stable C.edits (Read before) := by
      rintro before d r hr ⟨source, hsource, hid, hread⟩
      exact ⟨source, hsource, hid, hread.drift hr⟩
    refine .bind (S := fun before d => ((P d ∧ FetchedFor C.edits d operations fetched) ∧
      Read before d) ∧ FetchedBalances C.edits acc.snapshots d) ?_ fun before => ?_
    · unfold operationHolding
      cases hfind : (fetched.find? fun h => h.1 = op.1.cashIdentity c).bind Prod.snd with
      | some row =>
        refine .ret fun d h => ⟨⟨h.1, ?_⟩, h.2⟩
        obtain ⟨entry, hentry, hrow⟩ := Option.bind_eq_some_iff.mp hfind
        obtain ⟨op', hop', hid, hfresh⟩ := h.1.2 entry (List.mem_of_find?_eq_some hentry)
        have hkey : entry.1 = op.1.cashIdentity c := by simpa using List.find?_some hentry
        refine ⟨op'.1, ⟨op', hop', rfl⟩, ?_, hrow ▸ hfresh⟩
        rw [hid, hkey]
        simp [operationIdentity, hc]
      | none =>
        refine (freshHoldingOf_follows hbase _ _ _).conseq (fun _ h => h) ?_ fun _ _ h => h.1.1
        exact fun before d h => ⟨⟨h.1.1, op.1, ⟨op, hop, rfl⟩, rfl, h.2⟩, h.1.2⟩
    have hknown : Stable C.edits fun d =>
        (P d ∧ FetchedFor C.edits d operations fetched) ∧ Read before d :=
      (hP.and fun _ _ hr h => h.drift hr).and (hread before)
    refine .bind ((chooseTarget_follows hknown e action op.1 op.2 (holdingPayload before)
      acc.snapshots).conseq (fun _ h => h) (fun _ _ h => h) fun _ _ h => h.1.1) fun choice => ?_
    cases choice with
    | accept => exact .ret fun d h => ⟨h.1.1, h.2.2, .inl ⟨rfl, h.2.1⟩⟩
    | amount target targetSource evidence warnings snapshots =>
      refine .bind (S := fun state d => (((P d ∧ FetchedFor C.edits d operations fetched) ∧
        Read before d) ∧ FlowTarget e action op.1 op.2 (holdingPayload before).quantity target ∧
          EvidenceOf C.edits d e op.1 target evidence ∧ FetchedBalances C.edits snapshots d) ∧
          targetHolding before op.1 target = .ok state)
        (.ofExcept (fun state d h hok => ⟨h, hok⟩) fun _ _ h _ => h.1.1.1) fun state => ?_
      refine .ret fun d h => ⟨h.1.1.1, h.1.2.2.2, .inr ⟨rfl, _, rfl, ?_⟩⟩
      obtain ⟨⟨⟨-, source, hsource, hid, hfresh⟩, hflow, hevidence, -⟩, hstate⟩ := h
      exact ⟨source, before, target, hsource, hid, hfresh, rfl, hstate, rfl, rfl, hflow, hevidence⟩

/-- The row loop with the payload it hashes. -/
theorem applyPreview_follows (hP : Stable C.edits P) {e : Effect}
    (requested : Option ExternalAction) {action : Option ExternalAction} {historicalApply : Bool}
    {fetched : List (String × Option Holding)} {warnings : List String}
    {operations : List (Source × Cents)}
    (hoperations : ∀ d, P d → operations = previewOperations d.db.effects e)
    (haction : ∀ d, P d → ActionOf C.edits d e operations requested action) :
    Follows C (fun d => P d ∧ FetchedFor C.edits d operations fetched)
      (applyPreview e historicalApply operations fetched action warnings)
      (fun p d => P d ∧ Computed C.edits d e requested p.payload) fun _ => P := by
  let sorted := operations.insertionSort operationOrder
  let Rows (rest : List (Source × Cents)) (acc : PreviewRows) (d : Durable) : Prop :=
    (acc.accepted.isSome → e.kind = .externalChange) ∧
      (acc.accepted = none → ∃ done, done ++ rest = sorted ∧
        List.Forall₂ (RowPlan C.edits d e action operations) done acc.rows)
  have hrows : ∀ rest acc, Stable C.edits (Rows rest acc) := by
    rintro rest acc d r hr ⟨haccepted, hplanned⟩
    refine ⟨haccepted, fun hnone => ?_⟩
    obtain ⟨done, hdone, hall⟩ := hplanned hnone
    exact ⟨done, hdone, hall.imp fun _ _ h => h.drift hr⟩
  have hstep : ∀ op rest acc, (op :: rest) <:+ sorted →
      Follows C (fun d => (P d ∧ FetchedFor C.edits d operations fetched) ∧
          FetchedBalances C.edits acc.snapshots d ∧ Rows (op :: rest) acc d)
        (previewRow e action fetched acc op)
        (fun acc' d => (P d ∧ FetchedFor C.edits d operations fetched) ∧
          FetchedBalances C.edits acc'.snapshots d ∧ Rows rest acc' d)
        fun _ => P := by
    intro op rest acc hsuffix
    have hop : op ∈ operations :=
      List.mem_insertionSort _ |>.mp (hsuffix.subset List.mem_cons_self)
    refine ((previewRow_follows (hP.and (hrows (op :: rest) acc)) hop acc).conseq ?_ ?_ ?_)
    · exact fun d h => ⟨⟨⟨h.1.1, h.2.2⟩, h.1.2⟩, h.2.1⟩
    · rintro acc' d ⟨⟨⟨hPd, haccepted, hplanned⟩, hfetched⟩, hbalances, hnew⟩
      refine ⟨⟨hPd, hfetched⟩, hbalances, ?_, ?_⟩
      · rcases hnew with ⟨-, hkind⟩ | ⟨hsame, -⟩
        · exact fun _ => hkind
        · rw [hsame]; exact haccepted
      · intro hnone
        rcases hnew with ⟨hsome, -⟩ | ⟨hsame, row, happend, hrow⟩
        · rw [hnone] at hsome; cases hsome
        · obtain ⟨done, hdone, hall⟩ := hplanned (hsame ▸ hnone)
          refine ⟨done ++ [op], by rw [← hdone, List.append_assoc]; rfl, ?_⟩
          rw [happend]
          exact List.rel_append hall (.cons hrow .nil)
    · exact fun _ _ h => h.1
  unfold applyPreview
  refine .bind (S := fun acc d => P d ∧ Rows [] acc d) ?_ fun acc => ?_
  · refine (Follows.fold (fun rest acc d => (P d ∧ FetchedFor C.edits d operations fetched) ∧
      FetchedBalances C.edits acc.snapshots d ∧ Rows rest acc d) hstep).conseq ?_ ?_
      fun _ _ h => h
    · exact fun d h => ⟨h, by simp [FetchedBalances], (nomatch ·), fun _ => ⟨[], rfl, .nil⟩⟩
    · exact fun acc d h => ⟨h.1.1, h.2.2⟩
  cases haccepted : acc.accepted with
  | some before =>
    exact .ret fun d h => ⟨h.1, .acceptCurrent (h.2.1 (by rw [haccepted]; rfl))⟩
  | none =>
    refine .ite (fun _ => .throw fun _ h => h.1) fun _ => .ret fun d h => ⟨h.1, ?_⟩
    obtain ⟨done, hdone, hall⟩ := h.2.2 haccepted
    rw [List.append_nil] at hdone
    subst hdone
    have hops := hoperations d h.1
    refine .apply (hops ▸ haction d h.1) ?_
    rw [← hops]
    exact hall

/-- Fetching the holdings of the operations. -/
theorem fetchHoldings_follows (hP : Stable C.edits P) (operations : List (Source × Cents)) :
    Follows C P (Prog.fold operations [] fetchHolding)
      (fun fetched d => P d ∧ Fetched C.edits d operations fetched) fun _ => P := by
  let Sofar (rest : List (Source × Cents)) (fetched : List (String × Option Holding))
      (d : Durable) : Prop :=
    P d ∧ FetchedFor C.edits d operations fetched ∧ ∃ done, done ++ rest = operations ∧
      ∀ op ∈ done, ∀ identity, operationIdentity op.1 = some identity →
        ∃ entry ∈ fetched, entry.1 = identity
  have hstable : ∀ rest fetched, Stable C.edits (Sofar rest fetched) :=
    fun rest fetched d r hr h => ⟨hP d r hr h.1, h.2.1.drift hr, h.2.2⟩
  have hstep : ∀ op rest fetched, (op :: rest) <:+ operations →
      Follows C (Sofar (op :: rest) fetched) (fetchHolding fetched op) (Sofar rest)
        fun _ => P := by
    intro op rest fetched hsuffix
    have hop : op ∈ operations := hsuffix.subset List.mem_cons_self
    unfold fetchHolding
    cases hid : operationIdentity op.1 with
    | none =>
      refine .ret ?_
      rintro d ⟨hPd, hread, done, hdone, hall⟩
      refine ⟨hPd, hread, done ++ [op], by rw [← hdone, List.append_assoc]; rfl, ?_⟩
      intro op' hop' identity hidentity
      rcases List.mem_append.mp hop' with hmem | hmem
      · exact hall op' hmem identity hidentity
      · rw [List.mem_singleton.mp hmem, hid] at hidentity
        cases hidentity
    | some identity =>
      refine .ite (fun hknown => .ret ?_) fun _ => ?_
      · rintro d ⟨hPd, hread, done, hdone, hall⟩
        refine ⟨hPd, hread, done ++ [op], by rw [← hdone, List.append_assoc]; rfl, ?_⟩
        intro op' hop' identity' hidentity
        rcases List.mem_append.mp hop' with hmem | hmem
        · exact hall op' hmem identity' hidentity
        · rw [List.mem_singleton.mp hmem, hid] at hidentity
          cases hidentity
          simpa using hknown
      · refine .bind ((freshHoldingOf_follows (hstable (op :: rest) fetched) _ _ _).conseq
          (fun _ h => h) (fun _ _ h => h) fun _ _ h => h.1) fun row => .ret ?_
        rintro d ⟨⟨hPd, hread, done, hdone, hall⟩, hfresh⟩
        refine ⟨hPd, ?_, done ++ [op], by rw [← hdone, List.append_assoc]; rfl, ?_⟩
        · intro entry hentry
          rcases List.mem_append.mp hentry with hmem | hmem
          · exact hread entry hmem
          · rw [List.mem_singleton.mp hmem]
            exact ⟨op, hop, hid, hfresh⟩
        · intro op' hop' identity' hidentity
          rcases List.mem_append.mp hop' with hmem | hmem
          · obtain ⟨entry, hentry, heq⟩ := hall op' hmem identity' hidentity
            exact ⟨entry, List.mem_append_left _ hentry, heq⟩
          · rw [List.mem_singleton.mp hmem, hid] at hidentity
            cases hidentity
            exact ⟨(identity, row), List.mem_append_right _ (List.mem_singleton.mpr rfl), rfl⟩
  refine (Follows.fold Sofar hstep).conseq ?_ ?_ fun _ _ h => h
  · exact fun d hd => ⟨hd, by simp [FetchedFor], [], rfl, by simp⟩
  · rintro fetched d ⟨hPd, hread, done, hdone, hall⟩
    rw [List.append_nil] at hdone
    exact ⟨hPd, hread, hdone ▸ hall⟩

/-- The operator's action, or the one detected from the fetched holdings. -/
theorem resolveAction_follows {e : Effect} {operations : List (Source × Cents)}
    {fetched : List (String × Option Holding)} (requested : Option ExternalAction)
    (hfetched : ∀ d, P d → Fetched C.edits d operations fetched) :
    Follows C P (resolveAction operations fetched requested)
      (fun result d => P d ∧ ActionOf C.edits d e operations requested result.1) fun _ => P := by
  unfold resolveAction
  refine .ite (fun hneeded => ?_) fun hgiven => .ret fun d h => ⟨h, .given fun _ => ?_⟩
  · refine .bind (S := fun rows d => P d ∧ rows = detectionRows d.db operations fetched)
      (.reads fun _ h => ⟨h, rfl⟩) fun rows => ?_
    cases hdetected : detectedAction rows with
    | none => exact .throw fun _ h => h.1
    | some decision =>
      refine .ret fun d h => ⟨h.1, .detected ?_ (hfetched d h.1) (h.2 ▸ hdetected)⟩
      simpa using (Bool.and_eq_true_iff.mp hneeded).2
  · simp only [Bool.and_eq_true, List.any_eq_true, decide_eq_true_eq, Bool.not_eq_eq_eq_not,
      Bool.not_true, not_and, Bool.not_eq_false, forall_exists_index] at hgiven
    by_cases hexplicit : explicitReflection requested = true
    · exact .inr hexplicit
    · refine .inl fun op hop => ?_
      by_contra hbroker
      exact hexplicit (hgiven op ⟨hop, hbroker⟩)

/-- A preview is computed from fresh reads and changes nothing. -/
theorem buildPreview_follows (hP : Stable C.edits P) (e : Effect) (requested : Option ExternalAction)
    (historicalApply : Bool) :
    Follows C P (buildPreview e requested historicalApply)
      (fun p d => P d ∧ Computed C.edits d e requested p.payload ∧ e.state ∈ previewable)
      fun _ => P := by
  unfold buildPreview
  refine .ite (fun _ => .throw fun _ h => h) fun _ => .ite (fun _ => .throw fun _ h => h)
    fun hstate => .ite (fun hmode => .ret fun d h => ?_) fun _ => .ite (fun hkind => ?_)
    fun hkind => ?_
  · rw [Classical.not_not] at hstate
    exact ⟨h, .recordOnly hmode.1, hstate⟩
  · rw [Classical.not_not] at hstate
    have hoperations : ∀ t : EffectTable, t.cashFlowOperations e = previewOperations t e :=
      fun t => (if_pos hkind).symm
    refine .bind (S := fun operations d => P d ∧ operations = previewOperations d.db.effects e)
      (.reads fun w h => ⟨h, hoperations _⟩) fun operations => ?_
    have hbase : Stable C.edits fun d => P d ∧ operations = previewOperations d.db.effects e :=
      hP.and fun _ _ _ h => h
    refine .bind ((fetchHoldings_follows hbase operations).conseq (fun _ h => h)
      (fun _ _ h => h) fun _ _ h => h.1) fun fetched => ?_
    refine .bind ((resolveAction_follows (e := e) requested fun d h => h.2).conseq (fun _ h => h)
      (fun _ _ h => h) fun _ _ h => h.1.1) fun result => ?_
    obtain ⟨action, warnings⟩ := result
    have hstable : Stable C.edits fun d => (((P d ∧ operations = previewOperations d.db.effects e) ∧
        Fetched C.edits d operations fetched) ∧ ActionOf C.edits d e operations requested action) :=
      (hbase.and fun _ _ hr h => h.drift hr).and fun _ _ hr h => h.drift hr
    refine (applyPreview_follows hstable requested (fun d h => h.1.1.2) fun d h => h.2).conseq
      (fun d h => ⟨h, h.1.2.read⟩) ?_ fun _ _ h => h.1.1.1
    exact fun p d h => ⟨h.1.1.1.1, h.2, hstate⟩
  · rw [Classical.not_not] at hstate
    refine (applyPreview_follows hP requested (fun d _ => (if_neg hkind).symm)
      fun d _ => .given fun h => absurd h hkind).conseq (fun d h => ⟨h, by simp [FetchedFor]⟩) ?_
      fun _ _ h => h
    exact fun p d h => ⟨h.1, h.2, hstate⟩

/-! ## `preview` -/

/-- The version is the latest of its record. -/
def IsLatest (e : Effect) (d : Durable) : Prop := d.db.effects.latest e.key = some e

theorem requireCurrentSource_follows (e : Effect) :
    Follows C (IsLatest e) (requireCurrentSource e)
      (fun _ d => IsLatest e d ∧ (e.state ≠ .compensationPending → SourceCurrent C.edits d e))
      fun _ _ => True := by
  refine Follows.of_eq fun start hstart => ?_
  refine .bind ((currentCashFlowSource_follows start.db.effects).conseq
    (fun d hd => ⟨hd ▸ hstart, hd ▸ fun _ _ => rfl⟩) (fun _ _ h => h.2)
    fun _ _ _ => trivial) fun correction => ?_
  cases correction with
  | none => exact .ret fun d h => h rfl
  | some correction => exact .throw fun _ _ => trivial

/-- A guarded change of a version between idle states. -/
theorem commitAdvance_follows {id : Nat} {f : EffectColumns → EffectColumns} {event : EventBody}
    {expected : List EffectState} (hexpected : ∀ s ∈ expected, s ∈ EffectState.idle)
    (hidle : ∀ c : EffectColumns, (f c).state ∈ EffectState.idle)
    (hpreview : ∀ c : EffectColumns, (f c).state = .previewed →
      ∃ hash action historical, event = .previewed hash action historical) :
    Follows C P (M.commit (Store.updateEffect id f event expected)) (fun _ _ => True)
      fun _ _ => True := by
  refine .commit (fun d _ => ⟨.now d, Reading.now_from d, ?_⟩) (fun _ _ _ => trivial)
    fun _ _ _ _ => trivial
  exact updateEffect_spec
    (fun db e _ hget _ hs => .advance _ hget (hexpected _ hs) (hidle _) (hpreview _))
    fun _ _ _ _ _ _ => trivial

theorem idle_of_previewable : ∀ s ∈ previewable, s ∈ EffectState.idle := by decide

/-- `preview`, which ends with the stored payload. -/
theorem preview_follows (effectId : Nat) (action : Option ExternalAction) (historicalApply : Bool) :
    Follows C (fun _ => True) (preview effectId action historicalApply) (fun _ _ => True)
      fun _ _ => True := by
  refine .bind (requireLatest_follows effectId _) fun e => ?_
  refine .bind ((requireCurrentSource_follows e).pre fun _ h => h.1) fun _ => ?_
  refine .bind (S := fun _ _ => True) ?_ fun p => ?_
  · refine .tryCatch (F := fun _ _ => True) ?_ (fun exc => ?_) fun _ _ => trivial
    · exact (buildPreview_follows (P := fun _ => True) .const e action historicalApply).conseq
        (fun _ _ => trivial) (fun _ _ _ => trivial) fun _ _ _ => trivial
    · refine .bind (S := fun _ _ => True) (.onlyIf (fun _ => ?_) fun _ _ _ => trivial) fun _ => ?_
      · refine .bind (commitAdvance_follows idle_of_previewable (fun c => ?_)
          fun _ h => nomatch h) fun _ => .ret fun _ _ => trivial
        exact (by decide : EffectState.blocked ∈ EffectState.idle)
      · exact .throw fun _ _ => trivial
  · refine .bind (commitAdvance_follows idle_of_previewable (fun c => ?_)
      fun _ _ => ⟨_, _, _, rfl⟩) fun _ => .ret fun _ _ => trivial
    exact (by decide : EffectState.previewed ∈ EffectState.idle)

end

end PortfolioManagement
