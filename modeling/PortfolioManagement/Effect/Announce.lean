import PortfolioManagement.Effect.Transaction

/-!
# Discovery receipts

A scan that counts something announces it by a receipt, keyed by the digest of what it read and
inserted only when no receipt has that key. Whether a change is announced depends on what was read
and announced before: the announcement is lost when the same contents were announced already.
-/

namespace PortfolioManagement

/-! ## Scans that find nothing -/

/-- The change of source is already noted on a version that waits for its compensation. -/
def deferralKnown (db : Db) (e : Effect) (newSource : Source) : Prop :=
  ((db.listEvents e.id).any fun ev =>
    match ev.body with
    | .sourceChangeDeferred _ new => new = sourceHash newSource
    | _ => false) = true

instance (db : Db) (e : Effect) (newSource : Source) : Decidable (deferralKnown db e newSource) :=
  inferInstanceAs (Decidable (_ = true))

/-- A row that a scan has nothing to do about, by the latest version of its record. -/
def SettledAgainst (db : Db) (found : Discovery) : Option Effect → Prop
  | none => False
  | some l =>
    if l.sourceHash = sourceHash found.source then ¬ (l.state = .scheduled ∧ found.state = .pending)
    else l.state = .compensationPending ∧ deferralKnown db l found.source

/-- A row of the ledger that a scan has nothing to do about. -/
def SettledFlow (r : Remote) (account : Option String) (db : Db) (flow : CashFlow) : Prop :=
  let latest := db.effects.latest ⟨.cashFlow, flow.recordId⟩
  outOfScope account flow latest = true ∨ SettledAgainst db (discover r db.cutover flow) latest

/-- A row of the ledger in scope that does not complete. -/
def BlockedFlow (r : Remote) (account : Option String) (db : Db) (flow : CashFlow) : Prop :=
  outOfScope account flow (db.effects.latest ⟨.cashFlow, flow.recordId⟩) = false ∧
    (discover r db.cutover flow).error.isSome = true

/-- A latest version that a scan has nothing to do about. -/
def SettledVersion (seen : List String) (db : Db) (latest : Effect) : Prop :=
  (latest.kind ≠ .cashFlow ∨ latest.recordId ∈ seen ∨ latest.source.isDeleted) ∨
    latest.state = .compensationPending ∧ deferralKnown db latest latest.source.deletion

/-- A decision about an identity that a scan has nothing to do about. -/
def SettledDrift (db : Db) (existing : Option Effect) : Drift → Prop
  | .compensationOwned => True
  | .explainedByFlow => True
  | .matchesBaseline => ∀ e ∈ existing, e.state ∉ EffectState.resolvable
  | .malformedIdentity => False
  | .acceptedDuringCompensation => True
  | .acceptAgain _ => False
  | .accept _ => False
  | .unchanged => True
  | .deferred e change => deferralKnown db e (.externalChange change)
  | .discovered _ => False

/-- An identity that a scan has nothing to do about. -/
def SettledIdentity (ctx : DriftContext) (db : Db) (identity : String) : Prop :=
  let existing := db.effects.latest (externalKey identity)
  SettledDrift db existing (drift ctx existing identity)

instance (db : Db) (found : Discovery) (latest : Option Effect) :
    Decidable (SettledAgainst db found latest) := by
  cases latest <;> unfold SettledAgainst <;> infer_instance

instance (r : Remote) (account : Option String) (db : Db) (flow : CashFlow) :
    Decidable (SettledFlow r account db flow) :=
  inferInstanceAs (Decidable (_ ∨ _))

instance (r : Remote) (account : Option String) (db : Db) (flow : CashFlow) :
    Decidable (BlockedFlow r account db flow) :=
  inferInstanceAs (Decidable (_ ∧ _))

instance (seen : List String) (db : Db) (latest : Effect) :
    Decidable (SettledVersion seen db latest) :=
  inferInstanceAs (Decidable (_ ∨ _))

instance (db : Db) (existing : Option Effect) (d : Drift) :
    Decidable (SettledDrift db existing d) := by
  cases d <;> unfold SettledDrift <;> infer_instance

instance (ctx : DriftContext) (db : Db) (identity : String) :
    Decidable (SettledIdentity ctx db identity) :=
  inferInstanceAs (Decidable (SettledDrift _ _ _))

/-! ## What one loop step does -/

/-- What `_commit_scan` counts as found. -/
def ScanCounts.found (counts : ScanCounts) : Nat := counts.added + counts.changed + counts.deleted

/-- Versions and their audit trail as they were. -/
structure Idle (db db' : Db) : Prop where
  effects : db'.effects = db.effects
  events : db'.events = db.events

theorem Idle.refl (db : Db) : Idle db db := ⟨rfl, rfl⟩

theorem Idle.trans {a b c : Db} (h : Idle a b) (h' : Idle b c) : Idle a c :=
  ⟨h'.effects.trans h.effects, h'.events.trans h.events⟩

/-- The tables no loop of a scan writes, and events that are only added. -/
structure Grown (db db' : Db) : Prop where
  receipts : db'.receipts = db.receipts
  cutover : db'.cutover = db.cutover
  events : db.events.length ≤ db'.events.length

theorem Grown.refl (db : Db) : Grown db db := ⟨rfl, rfl, Nat.le_refl _⟩

theorem Grown.trans {a b c : Db} (h : Grown a b) (h' : Grown b c) : Grown a c :=
  ⟨h'.receipts.trans h.receipts, h'.cutover.trans h.cutover, Nat.le_trans h.events h'.events⟩

/-- A step that logs an event. -/
structure Logged (db db' : Db) : Prop extends Grown db db' where
  more : db.events.length < db'.events.length

theorem Logged.not_idle {db db' : Db} (h : Logged db db') : ¬ Idle db db' := fun hidle => by
  have hmore := h.more
  rw [hidle.events] at hmore
  exact Nat.lt_irrefl _ hmore

theorem Logged.trans {a b c : Db} (h : Logged a b) (h' : Grown b c) : Logged a c :=
  ⟨h.toGrown.trans h', Nat.lt_of_lt_of_le h.more h'.events⟩

theorem Grown.logged {a b c : Db} (h : Grown a b) (h' : Logged b c) : Logged a c :=
  ⟨h.trans h'.toGrown, Nat.lt_of_le_of_lt h.events h'.more⟩

/-- What a step did: nothing, where all was settled, or it logged something and counted it. -/
structure ScanOutcome (settled : Prop) (found found' : Nat) (db db' : Db) : Prop where
  grown : Grown db db'
  done : settled ∧ Idle db db' ∧ found' = found ∨ ¬ settled ∧ Logged db db' ∧ found < found'

namespace ScanOutcome

theorem idle {settled : Prop} {found : Nat} (h : settled) (db : Db) :
    ScanOutcome settled found found db db :=
  ⟨.refl db, .inl ⟨h, .refl db, rfl⟩⟩

theorem logged {settled : Prop} {found found' : Nat} {db db' : Db} (h : ¬ settled)
    (hlog : Logged db db') (hfound : found < found') : ScanOutcome settled found found' db db' :=
  ⟨hlog.toGrown, .inr ⟨h, hlog, hfound⟩⟩

theorem found_le {settled : Prop} {found found' : Nat} {db db' : Db}
    (h : ScanOutcome settled found found' db db') : found ≤ found' := by
  rcases h.done with ⟨-, -, heq⟩ | ⟨-, -, hlt⟩
  · exact Nat.le_of_eq heq.symm
  · exact Nat.le_of_lt hlt

/-- Two steps; where the first one did nothing, the second is judged by the same database. -/
theorem trans {settled settled' : Prop} {n m k : Nat} {a b c : Db}
    (h : ScanOutcome settled n m a b) (hgrown : Grown b c) (hle : m ≤ k)
    (h' : Idle a b → ScanOutcome settled' m k b c) : ScanOutcome (settled ∧ settled') n k a c := by
  refine ⟨h.grown.trans hgrown, ?_⟩
  rcases h.done with ⟨hsettled, hidle, rfl⟩ | ⟨hnot, hlog, hlt⟩
  · rcases (h' hidle).done with ⟨hsettled', hidle', heq⟩ | ⟨hnot, hlog, hlt⟩
    · exact .inl ⟨⟨hsettled, hsettled'⟩, hidle.trans hidle', heq⟩
    · exact .inr ⟨fun hboth => hnot hboth.2, h.grown.logged hlog, hlt⟩
  · exact .inr ⟨fun hboth => hnot hboth.1, hlog.trans hgrown, Nat.lt_of_lt_of_le hlt hle⟩

theorem congr {settled settled' : Prop} {n m : Nat} {a b : Db} (h : ScanOutcome settled n m a b)
    (heq : settled ↔ settled') : ScanOutcome settled' n m a b := by
  rw [propext heq] at h
  exact h

end ScanOutcome

/-! ## Store operations that return -/

section
variable {db db' : Db}

@[simp] theorem receipts_log {id : Nat} {body : EventBody} :
    (db.log id body).receipts = db.receipts := rfl

theorem logged_log (id : Nat) (body : EventBody) : Logged db (db.log id body) :=
  ⟨⟨rfl, rfl, Nat.le_succ _⟩, Nat.lt_succ_self _⟩

theorem logged_update (id : Nat) (f : EffectColumns → EffectColumns) (event : EventBody) :
    Logged db (db.update id f event) :=
  ⟨⟨rfl, rfl, Nat.le_succ _⟩, Nat.lt_succ_self _⟩

theorem logged_addVersion (kind : EffectKind) (source : Source) (mode : EffectMode)
    (state : EffectState) (type : CreationEvent) :
    Logged db (db.addVersion kind source mode state type) := by
  unfold Db.addVersion
  cases db.effects.supersededBy ⟨kind, source.recordId⟩ with
  | none => exact ⟨⟨rfl, rfl, Nat.le_succ _⟩, Nat.lt_succ_self _⟩
  | some latest =>
    exact ⟨⟨rfl, rfl, Nat.le_trans (Nat.le_succ _) (Nat.le_succ _)⟩,
      Nat.lt_of_le_of_lt (Nat.le_succ _) (Nat.lt_succ_self _)⟩

theorem updateEffect_ok {id : Nat} {f : EffectColumns → EffectColumns} {event : EventBody}
    {expected : List EffectState} {e : Effect}
    (h : Store.updateEffect id f event expected db = (.ok e, db')) : Logged db db' := by
  unfold Store.updateEffect at h
  split at h
  · cases h
  · split at h
    · cases h
      exact logged_update _ _ _
    · cases h

/-- A version is made of a source the chain's latest version does not have. -/
theorem createVersion_ok {kind : EffectKind} {source : Source} {mode : EffectMode}
    {state : EffectState} {type : CreationEvent} {e : Effect}
    (hnew : ∀ l, db.effects.latest ⟨kind, source.recordId⟩ = some l →
      l.sourceHash ≠ sourceHash source)
    (h : Store.createVersion kind source mode state type db = (.ok e, db')) : Logged db db' := by
  have hget : ∀ db₁ id, Store.getEffect id db₁ = (.ok e, db') → db' = db₁ := by
    intro db₁ id hrun
    unfold Store.getEffect at hrun
    split at hrun <;> cases hrun
    rfl
  unfold Store.createVersion at h
  split at h
  · rename_i latest hlatest
    rw [if_neg (hnew latest hlatest)] at h
    rw [hget _ _ h]
    exact logged_addVersion _ _ _ _ _
  · rw [hget _ _ h]
    exact logged_addVersion _ _ _ _ _

/-- A version is made or found. -/
theorem createVersion_grown {kind : EffectKind} {source : Source} {mode : EffectMode}
    {state : EffectState} {type : CreationEvent} {e : Effect}
    (h : Store.createVersion kind source mode state type db = (.ok e, db')) : Grown db db' := by
  by_cases hnew : ∀ l, db.effects.latest ⟨kind, source.recordId⟩ = some l →
      l.sourceHash ≠ sourceHash source
  · exact (createVersion_ok hnew h).toGrown
  · simp only [not_forall, ne_eq, not_not, exists_prop] at hnew
    obtain ⟨l, hlatest, hsame⟩ := hnew
    unfold Store.createVersion at h
    simp only [hlatest, if_pos hsame] at h
    cases h
    exact .refl db

/-- A change of source is noted once. -/
theorem deferSourceChange_ok {e : Effect} {newSource : Source} {deferred : Bool}
    (h : deferSourceChange e newSource db = (.ok deferred, db')) :
    (deferralKnown db e newSource ∧ deferred = false ∧ db' = db) ∨
      (¬ deferralKnown db e newSource ∧ deferred = true ∧ Logged db db') := by
  unfold deferSourceChange at h
  obtain ⟨known, db₁, hknown, h⟩ := Prog.bind_ok h
  obtain ⟨rfl, rfl⟩ := Prog.reads_ok hknown
  split at h
  · rename_i hcond
    obtain ⟨rfl, rfl⟩ := Prog.ret_ok h
    exact .inl ⟨hcond, rfl, rfl⟩
  · rename_i hcond
    obtain ⟨_, db₂, hlog, h⟩ := Prog.bind_ok h
    obtain ⟨rfl, rfl⟩ := Prog.ret_ok h
    rw [← Prog.alter_ok hlog]
    exact .inr ⟨hcond, rfl, logged_log _ _⟩

/-! ## The ledger loops -/

theorem createDiscovered_ok {found : Discovery} {u : Unit}
    (hnew : ∀ l, db.effects.latest ⟨.cashFlow, found.source.recordId⟩ = some l →
      l.sourceHash ≠ sourceHash found.source)
    (h : createDiscovered found db = (.ok u, db')) : Logged db db' := by
  unfold createDiscovered at h
  obtain ⟨e, db₁, hcreate, h⟩ := Prog.bind_ok h
  have hlog := createVersion_ok hnew hcreate
  cases herror : found.error with
  | none =>
    simp only [herror] at h
    obtain ⟨-, rfl⟩ := Prog.ret_ok h
    exact hlog
  | some error =>
    simp only [herror] at h
    obtain ⟨_, db₂, hupdate, h⟩ := Prog.bind_ok h
    obtain ⟨-, rfl⟩ := Prog.ret_ok h
    exact hlog.trans (updateEffect_ok hupdate).toGrown

/-- The counts after the `try` of a row. -/
def countBlocked (counts : ScanCounts) (found : Discovery) : ScanCounts :=
  if found.error.isSome then { counts with blocked := counts.blocked + 1 } else counts

/-- The part of the row loop that follows the `try`. -/
def settleFlow (counts : ScanCounts) (found : Discovery) : Option Effect → Tx ScanCounts
  | none => do
    createDiscovered found
    return { counts with added := counts.added + 1 }
  | some latest =>
    if latest.sourceHash = sourceHash found.source then
      if latest.state = .scheduled ∧ found.state = .pending then do
        let _ ← Store.updateEffect latest.id (fun c => { c with state := .pending })
          .scheduledActivated [.scheduled]
        return { counts with changed := counts.changed + 1 }
      else return counts
    else if latest.state = .compensationPending then do
      let deferred ← deferSourceChange latest found.source
      return if deferred then { counts with changed := counts.changed + 1 } else counts
    else do
      createDiscovered found
      return { counts with changed := counts.changed + 1 }

theorem scanFlow_eq (r : Remote) (cutover : Date) (account : Option String) (counts : ScanCounts)
    (flow : CashFlow) : scanFlow r cutover account counts flow = (do
      let latest ← Prog.reads fun db => db.effects.latest ⟨.cashFlow, flow.recordId⟩
      if outOfScope account flow latest then return counts
      else
        settleFlow (countBlocked counts (discover r cutover flow)) (discover r cutover flow) latest) :=
  rfl

theorem settleFlow_ok {counts counts' : ScanCounts} {found : Discovery} {latest : Option Effect}
    (hlatest : db.effects.latest ⟨.cashFlow, found.source.recordId⟩ = latest)
    (h : settleFlow counts found latest db = (.ok counts', db')) :
    ScanOutcome (SettledAgainst db found latest) counts.found counts'.found db db' ∧
      counts'.blocked = counts.blocked := by
  cases latest with
  | none =>
    obtain ⟨_, _, hcreate, h⟩ := Prog.bind_ok h
    obtain ⟨rfl, rfl⟩ := Prog.ret_ok h
    refine ⟨.logged id (createDiscovered_ok (fun l hl => ?_) hcreate) ?_, rfl⟩
    · rw [hlatest] at hl
      cases hl
    · simp only [ScanCounts.found]
      omega
  | some l =>
    unfold settleFlow at h
    unfold SettledAgainst
    dsimp only at h ⊢
    by_cases hsame : l.sourceHash = sourceHash found.source
    · rw [if_pos hsame] at h ⊢
      by_cases hactivate : l.state = .scheduled ∧ found.state = .pending
      · rw [if_pos hactivate] at h
        obtain ⟨_, _, hupdate, h⟩ := Prog.bind_ok h
        obtain ⟨rfl, rfl⟩ := Prog.ret_ok h
        refine ⟨.logged (fun hnot => hnot hactivate) (updateEffect_ok hupdate) ?_, rfl⟩
        simp only [ScanCounts.found]
        omega
      · rw [if_neg hactivate] at h
        obtain ⟨rfl, rfl⟩ := Prog.ret_ok h
        exact ⟨.idle hactivate db, rfl⟩
    · rw [if_neg hsame] at h ⊢
      by_cases hpending : l.state = .compensationPending
      · rw [if_pos hpending] at h
        obtain ⟨deferred, _, hdefer, h⟩ := Prog.bind_ok h
        obtain ⟨rfl, rfl⟩ := Prog.ret_ok h
        rcases deferSourceChange_ok hdefer with ⟨hknown, rfl, rfl⟩ | ⟨hunknown, rfl, hlog⟩
        · exact ⟨.idle ⟨hpending, hknown⟩ _, rfl⟩
        · refine ⟨.logged (fun hboth => hunknown hboth.2) hlog ?_, rfl⟩
          simp only [ScanCounts.found, if_true]
          omega
      · rw [if_neg hpending] at h
        obtain ⟨_, _, hcreate, h⟩ := Prog.bind_ok h
        obtain ⟨rfl, rfl⟩ := Prog.ret_ok h
        refine ⟨.logged (fun hboth => hpending hboth.1)
          (createDiscovered_ok (fun l' hl => ?_) hcreate) ?_, rfl⟩
        · rw [hlatest] at hl
          cases hl
          exact hsame
        · simp only [ScanCounts.found]
          omega

/-- One row of the scan. -/
theorem scanFlow_ok {r : Remote} {account : Option String} {counts counts' : ScanCounts}
    {flow : CashFlow} (h : scanFlow r db.cutover account counts flow db = (.ok counts', db')) :
    ScanOutcome (SettledFlow r account db flow) counts.found counts'.found db db' ∧
      (BlockedFlow r account db flow → counts'.blocked = counts.blocked + 1) ∧
      (¬ BlockedFlow r account db flow → counts'.blocked = counts.blocked) := by
  rw [scanFlow_eq] at h
  obtain ⟨_, _, hread, h⟩ := Prog.bind_ok h
  obtain ⟨rfl, rfl⟩ := Prog.reads_ok hread
  unfold SettledFlow BlockedFlow
  by_cases hscope : outOfScope account flow (db.effects.latest ⟨.cashFlow, flow.recordId⟩) = true
  · rw [if_pos hscope] at h
    obtain ⟨rfl, rfl⟩ := Prog.ret_ok h
    exact ⟨.idle (.inl hscope) db, fun hblocked => by simp [hscope] at hblocked, fun _ => rfl⟩
  · rw [if_neg hscope] at h
    have hrecord := recordId_discover r db.cutover flow
    obtain ⟨houtcome, hblocked⟩ := settleFlow_ok (by rw [hrecord]) h
    have hfound : (countBlocked counts (discover r db.cutover flow)).found = counts.found := by
      unfold countBlocked
      split <;> rfl
    rw [hfound] at houtcome
    rw [hblocked]
    refine ⟨houtcome.congr (by simp [hscope]), fun hboth => ?_, fun hnot => ?_⟩
    · rw [countBlocked, if_pos hboth.2]
    · rw [countBlocked, if_neg fun herror => hnot ⟨Bool.eq_false_iff.mpr hscope, herror⟩]

theorem Idle.deferralKnown (h : Idle db db') : deferralKnown db' = deferralKnown db := by
  unfold PortfolioManagement.deferralKnown Db.listEvents
  rw [h.events]

theorem Idle.settledFlow (h : Idle db db') (hcutover : db'.cutover = db.cutover) (r : Remote)
    (account : Option String) (flow : CashFlow) :
    SettledFlow r account db' flow ↔ SettledFlow r account db flow := by
  have hagainst : SettledAgainst db' = SettledAgainst db := by
    funext found latest
    cases latest with
    | none => rfl
    | some l => rw [SettledAgainst, SettledAgainst, h.deferralKnown]
  unfold SettledFlow
  rw [h.effects, hcutover, hagainst]

theorem Idle.blockedFlow (h : Idle db db') (hcutover : db'.cutover = db.cutover) (r : Remote)
    (account : Option String) (flow : CashFlow) :
    BlockedFlow r account db' flow ↔ BlockedFlow r account db flow := by
  unfold BlockedFlow
  rw [h.effects, hcutover]

/-- The row loop. -/
theorem foldFlows_ok {r : Remote} {account : Option String} {flows : List CashFlow}
    {counts counts' : ScanCounts}
    (h : Prog.fold flows counts (scanFlow r db.cutover account) db = (.ok counts', db')) :
    ScanOutcome (∀ flow ∈ flows, SettledFlow r account db flow) counts.found counts'.found db db' ∧
      counts.blocked ≤ counts'.blocked ∧
      (Idle db db' → (counts.blocked < counts'.blocked ↔
        ∃ flow ∈ flows, BlockedFlow r account db flow)) := by
  induction flows generalizing counts db with
  | nil =>
    obtain ⟨rfl, rfl⟩ := Prog.ret_ok h
    exact ⟨.idle (by simp) db, Nat.le_refl _, fun _ => by simp⟩
  | cons flow rest ih =>
    obtain ⟨counts₁, db₁, hstep, h⟩ := Prog.bind_ok h
    obtain ⟨houtcome, hblocked, hplain⟩ := scanFlow_ok hstep
    rw [← houtcome.grown.cutover] at h
    obtain ⟨hrest, hle, hiff⟩ := ih h
    have hmore : counts.blocked ≤ counts₁.blocked := by
      by_cases hb : BlockedFlow r account db flow
      · have := hblocked hb
        omega
      · exact Nat.le_of_eq (hplain hb).symm
    refine ⟨?_, Nat.le_trans hmore hle, fun hidle => ?_⟩
    · have hthen : Idle db db₁ → ScanOutcome (∀ flow ∈ rest, SettledFlow r account db flow)
          counts₁.found counts'.found db₁ db' := fun hidle => hrest.congr
        (forall₂_congr fun flow _ => hidle.settledFlow houtcome.grown.cutover r account flow)
      exact (houtcome.trans hrest.grown hrest.found_le hthen).congr List.forall_mem_cons.symm
    · -- a run that did nothing did nothing at its first row
      have hfirst : Idle db db₁ := by
        rcases houtcome.done with ⟨-, hfirst, -⟩ | ⟨-, hlog, -⟩
        · exact hfirst
        · exact absurd hidle (hlog.trans hrest.grown).not_idle
      have hsecond : Idle db₁ db' :=
        ⟨hidle.effects.trans hfirst.effects.symm, hidle.events.trans hfirst.events.symm⟩
      have hthen := hiff hsecond
      simp only [List.mem_cons, exists_eq_or_imp]
      rw [show (∃ flow ∈ rest, BlockedFlow r account db flow) ↔
        ∃ flow ∈ rest, BlockedFlow r account db₁ flow from exists_congr fun flow =>
          and_congr_right fun _ => (hfirst.blockedFlow houtcome.grown.cutover r account flow).symm,
        ← hthen]
      by_cases hb : BlockedFlow r account db flow
      · have := hblocked hb
        simp only [hb, true_or, iff_true]
        omega
      · rw [hplain hb]
        simp only [hb, false_or]

/-- One latest version of the deletion loop. -/
theorem scanDeletion_ok {seen : List String} {counts counts' : ScanCounts} {latest : Effect}
    (h : scanDeletion seen counts latest db = (.ok counts', db')) :
    Grown db db' ∧ counts.found ≤ counts'.found ∧ counts'.blocked = counts.blocked ∧
      (db.effects.latest latest.key = some latest →
        ScanOutcome (SettledVersion seen db latest) counts.found counts'.found db db') := by
  have hone : ∀ c : ScanCounts, ScanCounts.found { c with deleted := c.deleted + 1 } = c.found + 1 :=
    fun _ => rfl
  unfold scanDeletion at h
  by_cases hscope : latest.kind ≠ .cashFlow ∨ latest.recordId ∈ seen ∨ latest.source.isDeleted
  · rw [if_pos hscope] at h
    obtain ⟨rfl, rfl⟩ := Prog.ret_ok h
    exact ⟨.refl db, Nat.le_refl _, rfl, fun _ => .idle (.inl hscope) db⟩
  · rw [if_neg hscope] at h
    by_cases hpending : latest.state = .compensationPending
    · rw [if_pos hpending] at h
      obtain ⟨deferred, _, hdefer, h⟩ := Prog.bind_ok h
      obtain ⟨rfl, rfl⟩ := Prog.ret_ok h
      rcases deferSourceChange_ok hdefer with ⟨hknown, rfl, rfl⟩ | ⟨hunknown, rfl, hlog⟩
      · exact ⟨.refl _, Nat.le_refl _, rfl, fun _ => .idle (.inr ⟨hpending, hknown⟩) _⟩
      · refine ⟨hlog.toGrown, Nat.le_succ _, rfl, fun _ => .logged ?_ hlog (Nat.lt_succ_self _)⟩
        rintro (h | ⟨-, hknown⟩)
        · exact hscope h
        · exact hunknown hknown
    · rw [if_neg hpending] at h
      obtain ⟨_, _, hcreate, h⟩ := Prog.bind_ok h
      obtain ⟨rfl, rfl⟩ := Prog.ret_ok h
      refine ⟨createVersion_grown hcreate, Nat.le_succ _, rfl, fun hlatest => .logged ?_
        (createVersion_ok (fun l hl => ?_) hcreate) (Nat.lt_succ_self _)⟩
      · rintro (h | ⟨hpending', -⟩)
        · exact hscope h
        · exact hpending hpending'
      · simp only [not_or, Classical.not_not, Bool.not_eq_true] at hscope
        have hkey : (⟨.cashFlow, latest.source.deletion.recordId⟩ : EffectKey) = latest.key :=
          congrArg (EffectKey.mk · latest.recordId) hscope.1.symm
        rw [hkey, hlatest] at hl
        cases hl
        intro hsame
        have hdeleted := congrArg Source.isDeleted (sourceHash_inj.mp hsame)
        rw [hscope.2.2] at hdeleted
        cases hdeleted

/-- The deletion loop over latest versions. -/
theorem foldDeletions_ok {seen : List String} {es : List Effect} {counts counts' : ScanCounts}
    (h : Prog.fold es counts (scanDeletion seen) db = (.ok counts', db')) :
    Grown db db' ∧ counts.found ≤ counts'.found ∧ counts'.blocked = counts.blocked ∧
      (StillLatest es db.effects →
        ScanOutcome (∀ e ∈ es, SettledVersion seen db e) counts.found counts'.found db db') := by
  induction es generalizing counts db with
  | nil =>
    obtain ⟨rfl, rfl⟩ := Prog.ret_ok h
    exact ⟨.refl db, Nat.le_refl _, rfl, fun _ => .idle (by simp) db⟩
  | cons e rest ih =>
    obtain ⟨counts₁, db₁, hstep, h⟩ := Prog.bind_ok h
    obtain ⟨hgrown, hle, hblocked, houtcome⟩ := scanDeletion_ok hstep
    obtain ⟨hgrown', hle', hblocked', houtcome'⟩ := ih h
    refine ⟨hgrown.trans hgrown', Nat.le_trans hle hle', hblocked'.trans hblocked, fun hlatest => ?_⟩
    have hfirst := houtcome (hlatest e List.mem_cons_self)
    have hthen : Idle db db₁ → ScanOutcome (∀ a ∈ rest, SettledVersion seen db a) counts₁.found
        counts'.found db₁ db' := by
      intro hidle
      refine (houtcome' fun a ha => ?_).congr (forall₂_congr fun a _ => ?_)
      · rw [hidle.effects]
        exact hlatest a (List.mem_cons_of_mem _ ha)
      · rw [SettledVersion, SettledVersion, hidle.deferralKnown]
    exact (hfirst.trans hgrown' hle' hthen).congr List.forall_mem_cons.symm

/-- The ledger part of a scan. -/
theorem scanLedger_ok {r : Remote} {flows : List CashFlow} {account : Option String}
    {counts : ScanCounts}
    (h : scanLedger r db.cutover flows account db = (.ok counts, db')) :
    ScanOutcome ((∀ flow ∈ flows, SettledFlow r account db flow) ∧
        ∀ e ∈ db.effects.listLatest.filter (inAccount account),
          SettledVersion (seenRecords flows) db e) 0 counts.found db db' ∧
      (Idle db db' → (0 < counts.blocked ↔ ∃ flow ∈ flows, BlockedFlow r account db flow)) ∧
      db'.fingerprints = db.fingerprints := by
  have hfixed := (scanLedger_spec (s := ⟨r, none, flows, none, none, db⟩) account db ⟨rfl, rfl⟩).2
  rw [h] at hfixed
  unfold scanLedger at h
  obtain ⟨counts₁, db₁, hrows, h⟩ := Prog.bind_ok h
  obtain ⟨_, _, hread, h⟩ := Prog.bind_ok h
  obtain ⟨rfl, rfl⟩ := Prog.reads_ok hread
  obtain ⟨houtcome, hle, hblocked⟩ := foldFlows_ok hrows
  obtain ⟨hgrown, hle', hsame, hdeletions⟩ := foldDeletions_ok h
  have hthen : Idle db db₁ → ScanOutcome (∀ e ∈ db.effects.listLatest.filter (inAccount account),
      SettledVersion (seenRecords flows) db e) counts₁.found counts.found db₁ db' := by
    intro hidle
    rw [hidle.effects] at hdeletions
    refine (hdeletions fun e he => ?_).congr (forall₂_congr fun e _ => ?_)
    · exact EffectTable.mem_listLatest.mp (List.mem_of_mem_filter he)
    · rw [SettledVersion, SettledVersion, hidle.deferralKnown]
  refine ⟨houtcome.trans hgrown hle' hthen, fun hidle => ?_, hfixed.fingerprints⟩
  have hfirst : Idle db db₁ := by
    rcases houtcome.done with ⟨-, hfirst, -⟩ | ⟨-, hlog, -⟩
    · exact hfirst
    · exact absurd hidle (hlog.trans hgrown).not_idle
  rw [hsame]
  exact hblocked hfirst

/-! ## The fingerprint loop -/

/-- What the loop does about a decision. -/
theorem settleDrift_ok {ctx : DriftContext} {identity : String} {existing : Option Effect} {n : Nat}
    (hexisting : db.effects.latest (externalKey identity) = existing)
    (h : settleDrift ctx existing identity (drift ctx existing identity) db = (.ok n, db')) :
    ScanOutcome (SettledDrift db existing (drift ctx existing identity)) 0 n db db' := by
  have hconfirm : ∀ {db₁ db₂ : Db} {observed : Option Holding} {id : Option Nat} {u : Unit},
      confirmObserved identity observed id db₁ = (.ok u, db₂) → Grown db₁ db₂ := by
    intro db₁ db₂ observed id u hrun
    unfold confirmObserved Store.confirmFingerprint at hrun
    rw [← Prog.alter_ok hrun]
    exact ⟨rfl, rfl, Nat.le_refl _⟩
  cases hdrift : drift ctx existing identity with
  | compensationOwned =>
    rw [hdrift] at h
    obtain ⟨rfl, rfl⟩ := Prog.ret_ok h
    exact .idle trivial db
  | explainedByFlow =>
    rw [hdrift] at h
    obtain ⟨rfl, rfl⟩ := Prog.ret_ok h
    exact .idle trivial db
  | matchesBaseline =>
    rw [hdrift] at h
    cases existing with
    | none =>
      obtain ⟨rfl, rfl⟩ := Prog.ret_ok h
      exact .idle (fun e he => by cases he) db
    | some e =>
      unfold settleDrift at h
      dsimp only at h
      split at h
      · rename_i hresolvable
        obtain ⟨_, _, hupdate, h⟩ := Prog.bind_ok h
        obtain ⟨rfl, rfl⟩ := Prog.ret_ok h
        exact .logged (fun hnot => hnot e rfl hresolvable) (updateEffect_ok hupdate) Nat.one_pos
      · rename_i hresolvable
        obtain ⟨rfl, rfl⟩ := Prog.ret_ok h
        refine .idle ?_ db
        rintro _ ⟨⟩
        exact hresolvable
  | malformedIdentity =>
    rw [hdrift] at h
    cases h
  | acceptedDuringCompensation =>
    rw [hdrift] at h
    obtain ⟨rfl, rfl⟩ := Prog.ret_ok h
    exact .idle trivial db
  | acceptAgain e =>
    rw [hdrift] at h
    obtain ⟨_, _, hupdate, h⟩ := Prog.bind_ok h
    obtain ⟨_, _, hrun, h⟩ := Prog.bind_ok h
    obtain ⟨rfl, rfl⟩ := Prog.ret_ok h
    exact .logged id ((updateEffect_ok hupdate).trans (hconfirm hrun)) Nat.one_pos
  | accept change =>
    rw [hdrift] at h
    obtain ⟨_, _, hcreate, h⟩ := Prog.bind_ok h
    obtain ⟨_, _, hupdate, h⟩ := Prog.bind_ok h
    obtain ⟨_, _, hrun, h⟩ := Prog.bind_ok h
    obtain ⟨rfl, rfl⟩ := Prog.ret_ok h
    exact .logged id (((createVersion_grown hcreate).logged (updateEffect_ok hupdate)).trans
      (hconfirm hrun)) Nat.one_pos
  | unchanged =>
    rw [hdrift] at h
    obtain ⟨rfl, rfl⟩ := Prog.ret_ok h
    exact .idle trivial db
  | deferred e change =>
    rw [hdrift] at h
    obtain ⟨deferred, _, hdefer, h⟩ := Prog.bind_ok h
    obtain ⟨rfl, rfl⟩ := Prog.ret_ok h
    rcases deferSourceChange_ok hdefer with ⟨hknown, rfl, rfl⟩ | ⟨hunknown, rfl, hlog⟩
    · exact .idle hknown _
    · exact .logged hunknown hlog Nat.one_pos
  | discovered change =>
    rw [hdrift] at h
    obtain ⟨_, _, hcreate, h⟩ := Prog.bind_ok h
    obtain ⟨rfl, rfl⟩ := Prog.ret_ok h
    obtain ⟨-, hidentity, hlatest⟩ := drift_discovered hdrift
    refine .logged id (createVersion_ok (fun l hl hsame => ?_) hcreate) Nat.one_pos
    rw [show (⟨.externalChange, (Source.externalChange change).recordId⟩ : EffectKey) =
      externalKey identity by rw [← hidentity]; rfl, hexisting] at hl
    exact (hlatest l hl).2 (sourceHash_inj.mp hsame)

theorem Idle.settledIdentity (h : Idle db db') (ctx : DriftContext) (identity : String) :
    SettledIdentity ctx db' identity ↔ SettledIdentity ctx db identity := by
  have hdrift : SettledDrift db' = SettledDrift db := by
    funext existing d
    cases d with
    | deferred e change => simp only [SettledDrift, h.deferralKnown]
    | _ => rfl
  unfold SettledIdentity
  rw [h.effects, hdrift]

/-- The fingerprint loop over identities. -/
theorem foldIdentities_ok {ctx : DriftContext} {identities : List String} {n n' : Nat}
    (h : Prog.fold identities n (scanHolding ctx) db = (.ok n', db')) :
    ScanOutcome (∀ identity ∈ identities, SettledIdentity ctx db identity) n n' db db' := by
  induction identities generalizing n db with
  | nil =>
    obtain ⟨rfl, rfl⟩ := Prog.ret_ok h
    exact .idle (by simp) db
  | cons identity rest ih =>
    obtain ⟨_, _, hstep, h⟩ := Prog.bind_ok h
    obtain ⟨_, db₂, hobserve, hstep⟩ := Prog.bind_ok hstep
    obtain ⟨existing, _, hread, hstep⟩ := Prog.bind_ok hstep
    obtain ⟨hexisting, rfl⟩ := Prog.reads_ok hread
    obtain ⟨m, db₁, hsettle, hstep⟩ := Prog.bind_ok hstep
    obtain ⟨rfl, rfl⟩ := Prog.ret_ok hstep
    -- an observation changes no version and no event
    have hobserved : Grown db db₂ ∧ Idle db db₂ := by
      rw [← Prog.alter_ok hobserve]
      exact ⟨⟨rfl, rfl, Nat.le_refl _⟩, rfl, rfl⟩
    obtain ⟨hgrown, hidle⟩ := hobserved
    have hdecided := settleDrift_ok hexisting hsettle
    have hsettled : SettledDrift db₂ existing (drift ctx existing identity) ↔
        SettledIdentity ctx db identity := by
      rw [← hidle.settledIdentity, ← hexisting]
      exact Iff.rfl
    have hfirst : ScanOutcome (SettledIdentity ctx db identity) n (n + m) db db₁ := by
      refine ⟨hgrown.trans hdecided.grown, ?_⟩
      rcases hdecided.done with ⟨hyes, hidle', rfl⟩ | ⟨hno, hlog, hlt⟩
      · exact .inl ⟨hsettled.mp hyes, hidle.trans hidle', rfl⟩
      · exact .inr ⟨fun hyes => hno (hsettled.mpr hyes), hgrown.logged hlog, by omega⟩
    have hrest := ih h
    have hthen : Idle db db₁ → ScanOutcome (∀ identity ∈ rest, SettledIdentity ctx db identity)
        (n + m) n' db₁ db' := fun hidle =>
      hrest.congr (forall₂_congr fun identity _ => hidle.settledIdentity ctx identity)
    exact (hfirst.trans hrest.grown hrest.found_le hthen).congr List.forall_mem_cons.symm

end

end PortfolioManagement
