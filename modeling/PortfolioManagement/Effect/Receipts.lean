import PortfolioManagement.Effect.Announce
import PortfolioManagement.Effect.Runs

/-!
# Announced scans

`scan(enqueue_receipts=True)` commits its discoveries and their receipt in one transaction. A change
is announced exactly when the contents of the ledger and the CASH holdings have no receipt yet, or
one of this scope that is not sent.
-/

namespace PortfolioManagement

/-- A scan that enqueues receipts, with what it read before its transaction. -/
structure ScanCall where
  /-- the configuration, the calendar and the NAV history -/
  remote : Remote
  /-- the ledger -/
  flows : List CashFlow
  /-- the CASH holdings of the account -/
  holdings : List Holding
  /-- the account, or none for all -/
  account : Option String
  /-- `latest_scan(scope)` before the transaction -/
  previousScan : Option ScanRun

/-- `r.key` is `scan:` with this digest. -/
def Receipt.Announces (r : Receipt) (digest : ScanDigest) : Prop := r.key = .discovery digest

instance (r : Receipt) (digest : ScanDigest) : Decidable (r.Announces digest) :=
  inferInstanceAs (Decidable (_ = _))

/-- A status that `list_pending_receipts` lists. -/
def ReceiptStatus.unsent (s : ReceiptStatus) : Bool := s = .pending || s = .failed

namespace ScanCall

/-- The transaction of `scan(account, enqueue_receipts=True)`. -/
def transaction (c : ScanCall) : Tx ScanResult := do
  let runId ← Store.beginScan (scanScope c.account)
  let result ← commitScan c.remote c.flows c.holdings c.account runId true
  Prog.onlyIf (true ∧ c.previousScan.map ScanRun.status = some .failed)
    (Store.enqueueReceipt (.scanRecovered runId) (some (scanScope c.account)))
  return result

/-- A scan reads, and then commits that transaction. -/
theorem scanBody_eq (account : Option String) (dataset : Option CashFlowDataset)
    (previousScan : Option ScanRun) : scanBody account true dataset previousScan = (do
      let flows ← scanFlows account dataset
      let holdings ← Storage.getCashHoldingsFresh account
      let r ← Prog.reads fun w => w.remote
      M.commit (ScanCall.transaction ⟨r, flows, holdings, account, previousScan⟩)) := rfl

/-- The scan has nothing to do about any row, version or identity. -/
def Settled (c : ScanCall) (db : Db) : Prop :=
  ((∀ flow ∈ c.flows, SettledFlow c.remote c.account db flow) ∧
    ∀ e ∈ db.effects.listLatest.filter (inAccount c.account),
      SettledVersion (seenRecords c.flows) db e) ∧
  ∀ identity ∈ (driftContext db c.holdings c.account c.remote.today).identities,
    SettledIdentity (driftContext db c.holdings c.account c.remote.today) db identity

instance (c : ScanCall) (db : Db) : Decidable (c.Settled db) :=
  inferInstanceAs (Decidable ((_ ∧ _) ∧ _))

/-- Some row in scope does not complete. -/
def Blocked (c : ScanCall) (db : Db) : Prop :=
  ∃ flow ∈ c.flows, BlockedFlow c.remote c.account db flow

instance (c : ScanCall) (db : Db) : Decidable (c.Blocked db) :=
  inferInstanceAs (Decidable (∃ flow ∈ c.flows, _))

/-- The effects of the account that wait for somebody. -/
def actionable (c : ScanCall) (db : Db) : List Effect :=
  db.effects.listLatest.filter fun e =>
    inAccount c.account e && decide (e.state ∈ EffectState.unresolved)

/-- A receipt of this scope announces the digest and is not sent. -/
def Unsent (c : ScanCall) (digest : ScanDigest) (db : Db) : Prop :=
  ∃ r ∈ db.receipts, r.Announces digest ∧ r.scope = some (scanScope c.account) ∧
    r.status.unsent = true

instance (c : ScanCall) (digest : ScanDigest) (db : Db) : Decidable (c.Unsent digest db) :=
  inferInstanceAs (Decidable (∃ r ∈ db.receipts, _))

/-- A committed scan announced what it found, and only that. -/
structure Announced (c : ScanCall) (digest : ScanDigest) (db db' : Db) : Prop where
  /-- a change of the actionable set leaves a receipt to send -/
  changed : c.actionable db' ≠ c.actionable db → c.Unsent digest db'
  /-- so does any other change of a version or its audit trail -/
  found : ¬ Idle db db' → c.Unsent digest db'
  /-- without a change no digest is announced that was not -/
  idle : Idle db db' → ∀ r ∈ db'.receipts, ∀ d, r.Announces d → r ∈ db.receipts

/-- The receipts before a scan let it announce what it finds. -/
structure Fresh (c : ScanCall) (digest : ScanDigest) (db : Db) : Prop where
  /-- what is found has no receipt yet, or one to send -/
  found : ¬ c.Settled db → c.Unsent digest db ∨ ∀ r ∈ db.receipts, ¬ r.Announces digest
  /-- where nothing is found, no row is blocked or the contents have their receipt -/
  idle : c.Settled db → c.Blocked db → ∃ r ∈ db.receipts, r.Announces digest

end ScanCall

/-! ## What a transaction does -/

section
variable {db db' : Db}

/-- `INSERT OR IGNORE` into the receipts. -/
theorem mem_enqueueReceipt {key : ReceiptKey} {scope : Option String} {u : Unit}
    (h : Store.enqueueReceipt key scope db = (.ok u, db')) (r : Receipt) :
    r ∈ db'.receipts ↔ r ∈ db.receipts ∨
      (∀ r' ∈ db.receipts, r'.key ≠ key) ∧ r = ⟨key, scope, .pending⟩ := by
  have hrun := Prog.alter_ok h
  by_cases hknown : key ∈ db.receipts.map Receipt.key
  · rw [if_pos hknown] at hrun
    obtain ⟨r', hr', hkey⟩ := List.mem_map.mp hknown
    rw [← hrun]
    exact ⟨.inl, fun hor => hor.elim id fun hnew => absurd hkey (hnew.1 r' hr')⟩
  · rw [if_neg hknown] at hrun
    have hnew : ∀ r' ∈ db.receipts, r'.key ≠ key :=
      fun r' hr' hkey => hknown (List.mem_map.mpr ⟨r', hr', hkey⟩)
    rw [← hrun]
    simp only [List.mem_cons]
    exact ⟨fun hor => hor.elim (fun heq => .inr ⟨hnew, heq⟩) .inl,
      fun hor => hor.elim .inr fun hboth => .inl hboth.2⟩

theorem enqueueReceipt_idle {key : ReceiptKey} {scope : Option String} {u : Unit}
    (h : Store.enqueueReceipt key scope db = (.ok u, db')) : Idle db db' := by
  rw [← Prog.alter_ok h]
  split
  · exact .refl db
  · exact ⟨rfl, rfl⟩

theorem ScanCounts.ne_empty_iff (counts : ScanCounts) :
    counts ≠ {} ↔ 0 < counts.found ∨ 0 < counts.blocked := by
  obtain ⟨added, changed, deleted, blocked⟩ := counts
  simp only [ne_eq, ScanCounts.mk.injEq, ScanCounts.found]
  omega

/-- `_commit_scan`: its digest is that of what was read, it leaves the versions as they were exactly
when it had nothing to do, and it announces what it found and what is blocked. -/
theorem commitScan_ok {r : Remote} {flows : List CashFlow} {holdings : List Holding}
    {account : Option String} {runId : Nat} {result : ScanResult} (previousScan : Option ScanRun)
    (h : commitScan r flows holdings account runId true db = (.ok result, db')) :
    let c : ScanCall := ⟨r, flows, holdings, account, previousScan⟩
    scanDigest flows holdings = .ok result.sourceDigest ∧ (c.Settled db ↔ Idle db db') ∧
      ∀ receipt, receipt ∈ db'.receipts ↔ receipt ∈ db.receipts ∨
        ((¬ c.Settled db ∨ c.Blocked db) ∧ ∀ r' ∈ db.receipts, ¬ r'.Announces result.sourceDigest) ∧
          receipt = ⟨.discovery result.sourceDigest, some (scanScope account), .pending⟩ := by
  intro c
  unfold commitScan at h
  obtain ⟨_, _, hread, h⟩ := Prog.bind_ok h
  obtain ⟨rfl, rfl⟩ := Prog.reads_ok hread
  obtain ⟨cutover, _, hlift, h⟩ := Prog.bind_ok h
  obtain ⟨hcutover, rfl⟩ := Prog.lift_ok hlift
  obtain rfl : db.cutover = cutover := by
    unfold assertCutover at hcutover
    split at hcutover
    · cases hcutover
    · split_ifs at hcutover
      exact Except.ok.inj hcutover
  obtain ⟨counts, db₁, hledger, h⟩ := Prog.bind_ok h
  obtain ⟨changes, db₂, hidentities, h⟩ := Prog.bind_ok h
  obtain ⟨digest, _, hlift', h⟩ := Prog.bind_ok h
  obtain ⟨hdigest, rfl⟩ := Prog.lift_ok hlift'
  obtain ⟨scan, db₃, hfinish, h⟩ := Prog.bind_ok h
  obtain ⟨_, _, hreceipt, h⟩ := Prog.bind_ok h
  obtain ⟨rfl, hend⟩ := Prog.ret_ok h
  rw [hend] at hreceipt
  obtain ⟨houtcome, hblocked, hfingerprints⟩ := scanLedger_ok hledger
  unfold scanHoldingFingerprints at hidentities
  obtain ⟨_, _, hread', hidentities⟩ := Prog.bind_ok hidentities
  obtain ⟨rfl, rfl⟩ := Prog.reads_ok hread'
  have hloop := foldIdentities_ok hidentities
  have hthen : Idle db db₁ → ScanOutcome
      (∀ identity ∈ (driftContext db holdings account r.today).identities,
        SettledIdentity (driftContext db holdings account r.today) db identity)
      counts.found (counts.found + changes) db₁ db₂ := by
    intro hidle
    have hcontext : driftContext db₁ holdings account r.today =
        driftContext db holdings account r.today := by
      unfold driftContext Db.listFingerprints
      rw [hidle.effects, hfingerprints]
    rw [hcontext] at hloop
    have hloop' := hloop.congr (forall₂_congr fun identity _ => hidle.settledIdentity _ identity)
    refine ⟨hloop'.grown, ?_⟩
    rcases hloop'.done with ⟨hyes, hidle', rfl⟩ | ⟨hno, hlog, hlt⟩
    · exact .inl ⟨hyes, hidle', rfl⟩
    · exact .inr ⟨hno, hlog, by omega⟩
  have hwhole : ScanOutcome (c.Settled db) 0 (counts.found + changes) db db₂ :=
    houtcome.trans hloop.grown (Nat.le_add_right _ _) hthen
  -- the scan run and the receipts are no versions
  have hfinished : Idle db₂ db₃ ∧ db₃.receipts = db₂.receipts := by
    unfold Store.finishScan at hfinish
    split at hfinish
    · cases hfinish
    · cases hfinish
      exact ⟨⟨rfl, rfl⟩, rfl⟩
  have hlast : Idle db₃ db' := by
    rcases Prog.onlyIf_ok hreceipt with ⟨-, hrun⟩ | ⟨-, rfl⟩
    · exact enqueueReceipt_idle hrun
    · exact .refl _
  have hback : Idle db db' ↔ Idle db db₂ := by
    have htail := hfinished.1.trans hlast
    exact ⟨fun hidle => ⟨htail.effects.symm.trans hidle.effects, htail.events.symm.trans hidle.events⟩,
      fun hidle => hidle.trans htail⟩
  have hsettled : c.Settled db ↔ Idle db db₂ := by
    rcases hwhole.done with ⟨hyes, hidle, -⟩ | ⟨hno, hlog, -⟩
    · exact iff_of_true hyes hidle
    · exact iff_of_false hno hlog.not_idle
  -- the counts are empty exactly when nothing is found and no row is blocked
  have hcounts : (true = true ∧ { counts with changed := counts.changed + changes } ≠
      ({} : ScanCounts)) ↔ ¬ c.Settled db ∨ c.Blocked db := by
    rw [ScanCounts.ne_empty_iff]
    have hfound : ScanCounts.found { counts with changed := counts.changed + changes } =
        counts.found + changes := by
      simp only [ScanCounts.found]
      omega
    rw [hfound]
    rcases hwhole.done with ⟨hyes, hidle, hzero⟩ | ⟨hno, hlog, hlt⟩
    · have hfirst : Idle db db₁ := by
        rcases houtcome.done with ⟨-, hfirst, -⟩ | ⟨-, hlog, -⟩
        · exact hfirst
        · exact absurd hidle (hlog.trans hloop.grown).not_idle
      rw [hzero]
      simp only [true_and, Nat.lt_irrefl, false_or, hyes, not_true_eq_false]
      exact hblocked hfirst
    · simp only [hlt, hno, true_or, not_false_eq_true, and_self]
  refine ⟨hdigest, hsettled.trans hback.symm, fun receipt => ?_⟩
  have hreceipts : db₃.receipts = db.receipts := hfinished.2.trans hwhole.grown.receipts
  rcases Prog.onlyIf_ok hreceipt with ⟨hcond, hrun⟩ | ⟨hcond, rfl⟩
  · rw [mem_enqueueReceipt hrun, hreceipts]
    have := hcounts.mp hcond
    simp only [this, true_and]
    exact Iff.rfl
  · rw [hreceipts]
    have := fun hany => hcond (hcounts.mpr hany)
    exact ⟨.inl, fun hor => hor.elim id fun hnew => absurd hnew.1.1 this⟩

/-- The transaction of a scan: as `_commit_scan`, with a receipt of another key after a failure. -/
theorem ScanCall.transaction_ok {c : ScanCall} {result : ScanResult}
    (h : c.transaction db = (.ok result, db')) :
    scanDigest c.flows c.holdings = .ok result.sourceDigest ∧ (c.Settled db ↔ Idle db db') ∧
      ∀ receipt digest, receipt.Announces digest → (receipt ∈ db'.receipts ↔ receipt ∈ db.receipts ∨
        ((¬ c.Settled db ∨ c.Blocked db) ∧ ∀ r' ∈ db.receipts, ¬ r'.Announces result.sourceDigest) ∧
          receipt = ⟨.discovery result.sourceDigest, some (scanScope c.account), .pending⟩) := by
  unfold ScanCall.transaction at h
  obtain ⟨runId, db₁, hbegin, h⟩ := Prog.bind_ok h
  obtain ⟨_, db₂, hcommit, h⟩ := Prog.bind_ok h
  obtain ⟨_, _, hrecovered, h⟩ := Prog.bind_ok h
  obtain ⟨rfl, hend⟩ := Prog.ret_ok h
  rw [hend] at hrecovered
  -- a scan run that begins is no version and no receipt
  have hstart : ∃ runs, db₁ = { db with scanRuns := runs } := ⟨_, (Prod.mk.inj hbegin).2.symm⟩
  obtain ⟨runs, rfl⟩ := hstart
  obtain ⟨hdigest, hsettled, hreceipts⟩ := commitScan_ok c.previousScan hcommit
  have hlast : Idle db₂ db' ∧ ∀ receipt digest, receipt.Announces digest →
      (receipt ∈ db'.receipts ↔ receipt ∈ db₂.receipts) := by
    rcases Prog.onlyIf_ok hrecovered with ⟨-, hrun⟩ | ⟨-, rfl⟩
    · refine ⟨enqueueReceipt_idle hrun, fun receipt digest hannounces => ?_⟩
      rw [mem_enqueueReceipt hrun]
      refine ⟨fun hor => hor.elim id ?_, .inl⟩
      rintro ⟨-, rfl⟩
      exact absurd hannounces (by simp [Receipt.Announces])
    · exact ⟨.refl _, fun _ _ _ => Iff.rfl⟩
  refine ⟨hdigest, hsettled.trans ⟨fun hidle => ?_, fun hidle => ?_⟩, fun receipt digest hannounces => ?_⟩
  · exact ⟨hlast.1.effects.trans hidle.effects, hlast.1.events.trans hidle.events⟩
  · exact ⟨hlast.1.effects.symm.trans hidle.effects, hlast.1.events.symm.trans hidle.events⟩
  · rw [hlast.2 receipt digest hannounces]
    exact hreceipts receipt

/-- A committed scan announced what it found, and only that, exactly when the receipts before it let
it. -/
theorem ScanCall.announced_iff_fresh {c : ScanCall} {result : ScanResult}
    (h : c.transaction db = (.ok result, db')) :
    c.Announced result.sourceDigest db db' ↔ c.Fresh result.sourceDigest db := by
  obtain ⟨-, hsettled, hreceipts⟩ := ScanCall.transaction_ok h
  constructor
  · rintro ⟨-, hfound, hidle⟩
    refine ⟨fun hnot => ?_, fun hyes hblocked => ?_⟩
    · obtain ⟨r, hr, hannounces, hrest⟩ := hfound (mt hsettled.mpr hnot)
      rcases (hreceipts r _ hannounces).mp hr with hold | ⟨⟨-, hnew⟩, -⟩
      · exact .inl ⟨r, hold, hannounces, hrest⟩
      · exact .inr hnew
    · by_contra hnone
      have hnew : ∀ r' ∈ db.receipts, ¬ r'.Announces result.sourceDigest :=
        fun r' hr' hannounces => hnone ⟨r', hr', hannounces⟩
      have hmem := (hreceipts ⟨.discovery result.sourceDigest, some (scanScope c.account), .pending⟩
        result.sourceDigest rfl).mpr (.inr ⟨⟨.inr hblocked, hnew⟩, rfl⟩)
      exact hnew _ (hidle (hsettled.mp hyes) _ hmem _ rfl) rfl
  · rintro ⟨hfound, hidle⟩
    have hunsent : ¬ Idle db db' → c.Unsent result.sourceDigest db' := by
      intro hchanged
      have hnot := mt hsettled.mp hchanged
      rcases hfound hnot with ⟨r, hr, hannounces, hrest⟩ | hnew
      · exact ⟨r, (hreceipts r _ hannounces).mpr (.inl hr), hannounces, hrest⟩
      · exact ⟨_, (hreceipts ⟨.discovery result.sourceDigest, some (scanScope c.account), .pending⟩
          result.sourceDigest rfl).mpr (.inr ⟨⟨.inl hnot, hnew⟩, rfl⟩), rfl, rfl, rfl⟩
    refine ⟨fun hactionable => hunsent fun hsame => hactionable ?_, hunsent, fun hsame r hr d hd => ?_⟩
    · rw [ScanCall.actionable, ScanCall.actionable, hsame.effects]
    · rcases (hreceipts r d hd).mp hr with hold | ⟨⟨hcause, hnew⟩, -⟩
      · exact hold
      · rcases hcause with hnot | hblocked
        · exact absurd (hsettled.mpr hsame) hnot
        · obtain ⟨r', hr', hannounces⟩ := hidle (hsettled.mpr hsame) hblocked
          exact absurd hannounces (hnew r' hr')

end

/-! ## Sequences of scans -/

/-- A scan and the databases around its transaction. -/
structure CommittedScan where
  call : ScanCall
  before : Db
  after : Db
  result : ScanResult
  committed : call.transaction before = (.ok result, after)

/-- The digest of what the scan read. -/
def CommittedScan.digest (s : CommittedScan) : ScanDigest := s.result.sourceDigest

/-- What happens to a database over time: scans, receipts that are sent or fail, and transactions of
other commands, which only add receipts. -/
inductive History (start : Db) : List CommittedScan → Db → Prop
  | start : History start [] start
  | scan {scans : List CommittedScan} (s : CommittedScan) (earlier : History start scans s.before) :
    History start (s :: scans) s.after
  | mark {scans : List CommittedScan} {db db' : Db} (key : ReceiptKey) (success retryable : Bool)
    (earlier : History start scans db)
    (marked : Store.markReceipt key success retryable db = (.ok (), db')) : History start scans db'
  | other {scans : List CommittedScan} {db db' : Db} (earlier : History start scans db)
    (receipts : db.receipts <:+ db'.receipts) : History start scans db'

/-- A receipt of this key and scope is listed. -/
def Listed (r : Receipt) (db : Db) : Prop :=
  ∃ r' ∈ db.receipts, r'.key = r.key ∧ r'.scope = r.scope

/-- No transaction removes a receipt. -/
theorem CommittedScan.listed (s : CommittedScan) {r : Receipt} {digest : ScanDigest}
    (hr : r.Announces digest) (h : Listed r s.before) : Listed r s.after := by
  obtain ⟨r', hmem, hkey, hscope⟩ := h
  obtain ⟨-, -, hreceipts⟩ := ScanCall.transaction_ok s.committed
  exact ⟨r', (hreceipts r' digest (hkey.trans hr)).mpr (.inl hmem), hkey, hscope⟩

theorem Listed.mark {r : Receipt} {db db' : Db} {key : ReceiptKey} {success retryable : Bool}
    (h : Listed r db) (hmark : Store.markReceipt key success retryable db = (.ok (), db')) :
    Listed r db' := by
  obtain ⟨r', hmem, hkey, hscope⟩ := h
  unfold Store.markReceipt at hmark
  split at hmark
  · cases hmark
    refine ⟨_, List.mem_map.mpr ⟨r', hmem, rfl⟩, ?_⟩
    split
    · exact ⟨hkey, hscope⟩
    · exact ⟨hkey, hscope⟩
  · cases hmark

/-- What was there to announce a scan is there at the end of the history. -/
theorem History.listed {start finish : Db} {scans : List CommittedScan} (h : History start scans finish) :
    ∀ s ∈ scans, ∀ r ∈ s.after.receipts, r.Announces s.digest → Listed r finish := by
  induction h with
  | start => exact fun s hs => absurd hs List.not_mem_nil
  | scan t _ ih =>
    intro s hs r hr hannounces
    rcases List.mem_cons.mp hs with rfl | hs
    · exact ⟨r, hr, rfl, rfl⟩
    · exact t.listed hannounces (ih s hs r hr hannounces)
  | mark key success retryable _ hmark ih =>
    exact fun s hs r hr hannounces => (ih s hs r hr hannounces).mark hmark
  | other _ hreceipts ih =>
    intro s hs r hr hannounces
    obtain ⟨r', hmem, hsame⟩ := ih s hs r hr hannounces
    exact ⟨r', hreceipts.subset hmem, hsame⟩

/-- In every history whose scans find their contents without a receipt, or with one of their scope
that is not sent, or find nothing and no blocked row without a receipt, every scan announces what it
found and only that; and the receipt of a scan that found something is never removed. -/
theorem fresh_scans_are_announced {start finish : Db} {scans : List CommittedScan}
    (h : History start scans finish)
    (hfresh : ∀ s ∈ scans, s.call.Fresh s.digest s.before) :
    ∀ s ∈ scans, s.call.Announced s.digest s.before s.after ∧
      (¬ Idle s.before s.after → ∃ r ∈ finish.receipts, r.Announces s.digest ∧
        r.scope = some (scanScope s.call.account)) := by
  intro s hs
  have hannounced := (ScanCall.announced_iff_fresh s.committed).mpr (hfresh s hs)
  refine ⟨hannounced, fun hchanged => ?_⟩
  obtain ⟨r, hr, hannounces, hscope, -⟩ := hannounced.found hchanged
  obtain ⟨r', hmem, hkey, hscope'⟩ := h.listed s hs r hr hannounces
  exact ⟨r', hmem, hkey.trans hannounces, hscope'.trans hscope⟩

/-! ## A deposit that is changed and changed back -/

/-- A scan of all accounts that reads one deposit. -/
def depositScan (amount : Cents) : ScanCall :=
  ⟨smallRemote, [manualFlow "f1" "a" "b" 20 amount], [cnyCash 1 "a" "b" 50], none, none⟩

/-- Every receipt is sent. -/
def sendAll (db : Db) : Db :=
  db.receipts.foldl (fun db r => (Store.markReceipt r.key true true db).2) db

/-- The database after a deposit of 100 was announced and changed to 200, which was announced. -/
def announcedBoth : Db :=
  sendAll ((depositScan 20000).transaction (sendAll ((depositScan 10000).transaction (.init 10)).2)).2

/-- A first deposit is announced. -/
theorem first_deposit_is_announced :
    ∃ s : CommittedScan, s.call = depositScan 10000 ∧ s.before = .init 10 ∧
      s.call.actionable s.after ≠ s.call.actionable s.before ∧
      s.call.Announced s.digest s.before s.after := by
  have hok : ((depositScan 10000).transaction (.init 10)).1.toBool = true := by decide +kernel
  obtain ⟨result, hresult⟩ :
      ∃ result, ((depositScan 10000).transaction (.init 10)).1 = .ok result := by
    cases hrun : ((depositScan 10000).transaction (.init 10)).1 with
    | error e => rw [hrun] at hok; cases hok
    | ok result => exact ⟨result, rfl⟩
  have hunsettled : ¬ (depositScan 10000).Settled (.init 10) := by decide +kernel
  have hchanged : (depositScan 10000).actionable ((depositScan 10000).transaction (.init 10)).2 ≠
      (depositScan 10000).actionable (.init 10) := by decide +kernel
  let s : CommittedScan := ⟨depositScan 10000, .init 10, _, result, Prod.ext hresult rfl⟩
  have hfresh : s.call.Fresh s.digest s.before :=
    ⟨fun _ => .inr fun r hr => absurd hr List.not_mem_nil,
      fun hsettled => absurd hsettled hunsettled⟩
  have hhistory : History (.init 10) [s] s.after := .scan s .start
  exact ⟨s, rfl, rfl, hchanged,
    (fresh_scans_are_announced hhistory (List.forall_mem_singleton.mpr hfresh) s
      List.mem_cons_self).1⟩

/-- Back at 100, the change is found, and every receipt there is was sent before. -/
theorem returning_contents_are_not_announced :
    ((depositScan 10000).transaction announcedBoth).1.toBool = true ∧
    (depositScan 10000).actionable ((depositScan 10000).transaction announcedBoth).2 ≠
      (depositScan 10000).actionable announcedBoth ∧
    ∀ r ∈ ((depositScan 10000).transaction announcedBoth).2.receipts, r.status = .sent := by
  decide +kernel

end PortfolioManagement
