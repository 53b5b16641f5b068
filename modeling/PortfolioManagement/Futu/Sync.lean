import PortfolioManagement.Futu.Convergence

/-!
# A full sync and the changes it announces

`sync_portfolio` compares one snapshot of the positions with the holdings, writes the replacements,
writes the money market fund, reads the holdings back and saves its evidence. What the outside does is
an argument: the answer of the provider, whether the bulk write raises and which rows it had written by
then, and how the later stages end. The row of the money market fund is not among the holdings here.

`quantity_change_payload` takes the announced changes out of a result whose write was read back as
trusted. They are then exactly the quantities that differ in the holdings before and after the write
(`announces_iff`).
-/

namespace PortfolioManagement.Futu

/-- The broker of a sync. -/
def futuBroker : String := "富途"

/-- What the provider returns, as far as a sync uses it. -/
structure FutuPortfolioSnapshot where
  /-- `positions` -/
  positions : List FutuPositionSnapshot
  /-- `source` -/
  source : String
  /-- `source_snapshot_id` -/
  sourceSnapshotId : String
  /-- `observed_at_utc` -/
  observedAtUtc : String
  /-- what `_validate_authoritative_balances` says of the balances -/
  balances : Except String Unit

/-- The datasets of a read-back besides the quantities and the costs, as their statuses. -/
structure OtherDatasets where
  /-- `pm.cash_aggregate` -/
  cash : String
  /-- `pm.fund_mmf` -/
  fund : String

/-- What the outside does during a sync. -/
structure Outside where
  /-- the provider returns a snapshot or raises -/
  fetched : Except String FutuPortfolioSnapshot
  /-- the bulk write raises, having written some of the rows -/
  bulk : Option (String × (Replacement → Bool))
  /-- the write of the money market fund returns or raises -/
  fund : Except String Unit
  /-- the holdings can be read back, with these statuses of the other datasets -/
  readBack : Option OtherDatasets
  /-- the evidence can be saved -/
  saved : Bool
  /-- `sync_run_id` -/
  syncRunId : String
  /-- the ids of the rows that are created -/
  newId : HoldingIdentity → Nat
  /-- the day of the write -/
  today : Date

/-- The result of a sync, as far as it is settled and announced. -/
structure SyncResult where
  /-- `success` -/
  success : Bool
  /-- `status` -/
  status : String
  /-- `account` -/
  account : String
  /-- `dry_run` -/
  dryRun : Bool
  /-- `source` -/
  source : Option String
  /-- `sync_run_id` -/
  syncRunId : String
  /-- `source_snapshot_id` -/
  sourceSnapshotId : Option String
  /-- `source_metadata["observed_at_utc"]` -/
  observedAtUtc : Option String
  /-- `partial_write_possible` -/
  partialWritePossible : Bool
  /-- `positions` -/
  positions : List FutuHoldingSyncItem
  /-- the status of `reconciliation` -/
  reconciliation : Option String
  /-- `receipt_persisted` -/
  receiptPersisted : Option Bool
  /-- `error` -/
  error : Option String
deriving DecidableEq

/-- A sync that ends before anything is written. -/
def SyncResult.failure (account syncRunId error : String) (sourceSnapshotId : Option String)
    (receiptPersisted : Option Bool) : SyncResult where
  success := false
  status := "failed"
  account := account
  dryRun := false
  source := none
  syncRunId := syncRunId
  sourceSnapshotId := sourceSnapshotId
  observedAtUtc := none
  partialWritePossible := false
  positions := []
  reconciliation := none
  receiptPersisted := receiptPersisted
  error := some error

/-- `_overall_status`. -/
def overallStatus (statuses : List String) : String :=
  if "unavailable" ∈ statuses then "unavailable"
  else if statuses.all (· = "trusted") then "trusted"
  else "untrusted"

/-- The statuses of a read-back: quantities, costs, cash and fund. -/
def readBackStatuses (positions : List FutuPositionSnapshot) (holdings : List Holding)
    (account : String) : Option OtherDatasets → List String
  | none => ["unavailable", "unavailable", "unavailable", "unavailable"]
  | some others =>
    [(quantityVerdict positions holdings account futuBroker).status,
      (costVerdict positions holdings account futuBroker).status, others.cash, others.fund]

/-- `replica_untrusted`: a dataset other than the cash is not trusted. -/
def replicaUntrusted : List String → Bool
  | [quantity, cost, _, fund] => quantity ≠ "trusted" || cost ≠ "trusted" || fund ≠ "trusted"
  | _ => true

/-- `_attach_reconciliation` and `_persist_receipt_if_required`, which a manual source skips. -/
def SyncResult.verified (result : SyncResult) (snapshot : FutuPortfolioSnapshot)
    (holdings : List Holding) (outside : Outside) : SyncResult :=
  if snapshot.source ≠ "futu-openapi" then result
  else
    let statuses := readBackStatuses snapshot.positions holdings result.account outside.readBack
    let status := overallStatus statuses
    { result with
      reconciliation := some status
      success := result.success && !(status ≠ "trusted" && replicaUntrusted statuses) && outside.saved
      receiptPersisted := some outside.saved }

/-- What a sync reads and plans before it writes; an error comes with the id of the snapshot. -/
def planSync (account : String) (outside : Outside) (holdings : List Holding) :
    Except (String × Option String)
      (FutuPortfolioSnapshot × List FutuHoldingSyncItem × List Replacement) :=
  match outside.fetched with
  | .error error => .error (error, none)
  | .ok snapshot =>
    match snapshot.balances, validateAuthoritativePositions snapshot.positions,
        buildPositionDiff snapshot.positions holdings account futuBroker false with
    | .error error, _, _ => .error (error, some snapshot.sourceSnapshotId)
    | .ok _, .error error, _ => .error (error, some snapshot.sourceSnapshotId)
    | .ok _, .ok _, .error error => .error (error, some snapshot.sourceSnapshotId)
    | .ok _, .ok _, .ok (items, replacements) => .ok (snapshot, items, replacements)

/-- A result before its stages. -/
def SyncResult.started (account : String) (outside : Outside) (snapshot : FutuPortfolioSnapshot)
    (items : List FutuHoldingSyncItem) : SyncResult where
  success := true
  status := "written"
  account := account
  dryRun := false
  source := some snapshot.source
  syncRunId := outside.syncRunId
  sourceSnapshotId := some snapshot.sourceSnapshotId
  observedAtUtc := some snapshot.observedAtUtc
  partialWritePossible := false
  positions := items
  reconciliation := none
  receiptPersisted := none
  error := none

/-- `sync_portfolio` as the refresh worker calls it: confirmed, not a dry run, and without allowing an
empty snapshot. The result, and the holdings afterwards. -/
def syncPortfolio (account : String) (outside : Outside) (holdings : List Holding) :
    SyncResult × List Holding :=
  match planSync account outside holdings with
  | .error (error, sourceSnapshotId) =>
    (.failure account outside.syncRunId error sourceSnapshotId (some outside.saved), holdings)
  | .ok (snapshot, items, replacements) =>
    let result := SyncResult.started account outside snapshot items
    -- nothing is written when there is no replacement
    match (if replacements = [] then none else outside.bulk) with
    | some (error, kept) =>
      let holdings' := written outside.newId outside.today (replacements.filter kept) holdings
      (SyncResult.verified { result with
          success := false
          status := "failed"
          source := none
          partialWritePossible := true
          error := some error } snapshot holdings' outside, holdings')
    | none =>
      let holdings' := written outside.newId outside.today replacements holdings
      match outside.fund with
      | .error _ =>
        (SyncResult.verified { result with success := false, partialWritePossible := true }
          snapshot holdings' outside, holdings')
      | .ok _ => (SyncResult.verified result snapshot holdings' outside, holdings')

/-- The holdings when the process dies during a sync, having written some of the replacements. -/
def interruptedSync (account : String) (outside : Outside) (kept : Replacement → Bool)
    (holdings : List Holding) : List Holding :=
  match planSync account outside holdings with
  | .error _ => holdings
  | .ok (_, _, replacements) =>
    written outside.newId outside.today (replacements.filter kept) holdings

/-! ## The announcement -/

/-- An announced change. -/
structure QuantityChange where
  /-- `asset_id` -/
  assetId : String
  /-- `before` -/
  before : Rat
  /-- `after` -/
  after : Rat
deriving DecidableEq

/-- The payload of a quantity receipt. -/
structure QuantityPayload where
  /-- `account` -/
  account : String
  /-- `sync_run_id` -/
  syncRunId : String
  /-- `source_snapshot_id` -/
  sourceSnapshotId : Option String
  /-- `observed_at_utc` -/
  observedAtUtc : Option String
  /-- `changes` -/
  changes : List QuantityChange
deriving DecidableEq

/-- `item.get("security_type") in {"STOCK", "ETF"} and item.get("quantity_changed") is True`. -/
def FutuHoldingSyncItem.announced (item : FutuHoldingSyncItem) : Bool :=
  (item.securityType = "STOCK" || item.securityType = "ETF") && item.quantityChanged

/-- The change of an item. -/
def FutuHoldingSyncItem.change (item : FutuHoldingSyncItem) : QuantityChange :=
  ⟨item.assetId, item.currentQuantity, item.targetQuantity⟩

/-- The result of a write that was read back as trusted. -/
def SyncResult.proven (result : SyncResult) : Bool :=
  result.success && result.status = "written" && !result.dryRun &&
    result.source = some "futu-openapi" && !result.partialWritePossible &&
    result.receiptPersisted = some true && result.reconciliation = some "trusted"

/-- The changes of a result. -/
def SyncResult.changes (result : SyncResult) : List QuantityChange :=
  (result.positions.filter FutuHoldingSyncItem.announced).map FutuHoldingSyncItem.change

/-- `quantity_change_payload`. -/
def quantityChangePayload (result : SyncResult) : Option QuantityPayload :=
  if !result.proven then none
  else if result.changes = [] then none
  else some
    ⟨result.account, result.syncRunId, result.sourceSnapshotId, result.observedAtUtc, result.changes⟩

/-- The quantity of an asset: of the stock, ETF or fund row of the broker. -/
def stockQuantity (holdings : List Holding) (account assetId : String) : Rat :=
  actualQuantity (current holdings account futuBroker assetId)

/-- A change of the holdings. -/
def Changed (account : String) (before after : List Holding) (c : QuantityChange) : Prop :=
  c.before = stockQuantity before account c.assetId ∧ c.after = stockQuantity after account c.assetId ∧
    c.before ≠ c.after

/-! ## What a plan and a result say -/

section
variable {account : String} {outside : Outside} {holdings holdings' : List Holding}
  {snapshot : FutuPortfolioSnapshot} {items : List FutuHoldingSyncItem}
  {replacements : List Replacement} {result : SyncResult}

theorem planSync_ok (h : planSync account outside holdings = .ok (snapshot, items, replacements)) :
    DiffRun snapshot.positions holdings account futuBroker false items replacements := by
  unfold planSync at h
  split at h
  · cases h
  · split at h
    · cases h
    · cases h
    · cases h
    · next hdiff =>
      cases h
      exact buildPositionDiff_ok hdiff

/-- Writing some of the replacements keeps a slice a slice. -/
theorem slice_filter (hslice : Slice account holdings)
    (hrun : DiffRun snapshot.positions holdings account futuBroker false items replacements)
    (kept : Replacement → Bool) (newId : HoldingIdentity → Nat) (today : Date) :
    Slice account (written newId today (replacements.filter kept) holdings) where
  nodup := (replacing newId today).nodup_writeAll hslice.nodup _
  account_eq := by
    have hkept : ((replacements.filter kept).map Replacement.identity).Nodup :=
      (List.filter_sublist.map _).nodup (nodup_replacements hslice hrun)
    intro h hh
    have hnodup := (replacing newId today).nodup_writeAll hslice.nodup (replacements.filter kept)
    have hrow := (replacing newId today).rowWith_writeAll hkept holdings h.identity
    have hself : rowWith (fun h : Holding => h.identity) h.identity
        (written newId today (replacements.filter kept) holdings) = some h := rowWith_of_mem hnodup hh
    have hrow := hself.symm.trans hrow
    cases hr : rowWith Replacement.identity h.identity (replacements.filter kept) with
    | some r =>
      obtain ⟨hmem, hid⟩ := mem_of_rowWith hr
      rw [← hid, account_of_mem hrun (List.mem_filter.mp hmem).1]
    | none =>
      have hold : rowWith (fun h : Holding => h.identity) h.identity holdings = some h := by
        rw [show rowWith (replacing newId today).target h.identity (replacements.filter kept) = none
          from hr] at hrow
        exact hrow.symm
      exact hslice.account_eq h (mem_of_rowWith hold).1

/-- A sync keeps the slice of its account. -/
theorem slice_syncPortfolio (hslice : Slice account holdings) (outside : Outside) :
    Slice account (syncPortfolio account outside holdings).2 := by
  unfold syncPortfolio
  cases hplan : planSync account outside holdings with
  | error e => exact hslice
  | ok plan =>
    obtain ⟨snapshot, items, replacements⟩ := plan
    have hrun := planSync_ok hplan
    simp only
    split
    · exact slice_filter hslice hrun _ _ _
    · split
      · exact slice_written _ _ hslice hrun
      · exact slice_written _ _ hslice hrun

theorem slice_interruptedSync (hslice : Slice account holdings) (outside : Outside)
    (kept : Replacement → Bool) : Slice account (interruptedSync account outside kept holdings) := by
  unfold interruptedSync
  cases hplan : planSync account outside holdings with
  | error e => exact hslice
  | ok plan => exact slice_filter hslice (planSync_ok hplan) kept _ _

/-! ### What a verification adds -/

theorem verified_fields (result : SyncResult) (snapshot : FutuPortfolioSnapshot)
    (holdings : List Holding) (outside : Outside) :
    (result.verified snapshot holdings outside).account = result.account ∧
      (result.verified snapshot holdings outside).positions = result.positions ∧
      (result.success = false → (result.verified snapshot holdings outside).success = false) := by
  unfold SyncResult.verified
  split
  · exact ⟨rfl, rfl, id⟩
  · exact ⟨rfl, rfl, fun h => by simp only [h, Bool.false_and]⟩

theorem overallStatus_trusted {statuses : List String} (h : overallStatus statuses = "trusted") :
    ∀ status ∈ statuses, status = "trusted" := by
  unfold overallStatus at h
  split at h
  · simp at h
  · split at h
    · next hall =>
      intro status hmem
      simpa using List.all_eq_true.mp hall status hmem
    · simp at h

/-- A trusted verification read the positions back. -/
theorem verified_trusted
    (h : (result.verified snapshot holdings outside).reconciliation = some "trusted")
    (hnone : result.reconciliation = none) :
    (quantityVerdict snapshot.positions holdings result.account futuBroker).status = "trusted" ∧
      (costVerdict snapshot.positions holdings result.account futuBroker).status = "trusted" := by
  unfold SyncResult.verified at h
  split at h
  · rw [hnone] at h
    cases h
  · have hall := overallStatus_trusted (Option.some.inj h)
    cases hread : outside.readBack with
    | none =>
      rw [hread] at hall
      have hunavailable := hall "unavailable" List.mem_cons_self
      simp at hunavailable
    | some others =>
      rw [hread] at hall
      exact ⟨hall _ List.mem_cons_self, hall _ (List.mem_cons_of_mem _ List.mem_cons_self)⟩

/-- The account of a result. -/
theorem syncPortfolio_account (account : String) (outside : Outside) (holdings : List Holding) :
    (syncPortfolio account outside holdings).1.account = account := by
  unfold syncPortfolio
  split
  · rfl
  · simp only
    split
    · exact (verified_fields ..).1
    · split <;> exact (verified_fields ..).1

/-- A proven result wrote all its replacements, and they were read back as trusted. -/
theorem proven_sync (h : syncPortfolio account outside holdings = (result, holdings'))
    (hproven : result.proven = true) :
    ∃ snapshot items replacements, planSync account outside holdings =
        .ok (snapshot, items, replacements) ∧
      result.positions = items ∧
      holdings' = written outside.newId outside.today replacements holdings ∧
      (quantityVerdict snapshot.positions holdings' account futuBroker).status = "trusted" ∧
      (costVerdict snapshot.positions holdings' account futuBroker).status = "trusted" := by
  unfold SyncResult.proven at hproven
  simp only [Bool.and_eq_true, decide_eq_true_eq] at hproven
  obtain ⟨⟨⟨⟨⟨⟨hsuccess, -⟩, -⟩, -⟩, -⟩, -⟩, htrusted⟩ := hproven
  unfold syncPortfolio at h
  cases hplan : planSync account outside holdings with
  | error e =>
    obtain ⟨error, sourceSnapshotId⟩ := e
    rw [hplan] at h
    cases h
    cases hsuccess
  | ok plan =>
    obtain ⟨snapshot, items, replacements⟩ := plan
    rw [hplan] at h
    simp only at h
    split at h
    · cases h
      rw [(verified_fields ..).2.2 rfl] at hsuccess
      cases hsuccess
    · split at h
      · cases h
        rw [(verified_fields ..).2.2 rfl] at hsuccess
        cases hsuccess
      · cases h
        exact ⟨snapshot, items, replacements, rfl, (verified_fields ..).2.1, rfl,
          verified_trusted htrusted rfl⟩

/-- The fields of an item. -/
theorem appendItem_fields {broker : String} {pair : SyncPair} {item : FutuHoldingSyncItem}
    {replacement : Option Replacement} (h : appendItem account broker pair = .ok (item, replacement)) :
    item.assetId = pair.assetId ∧ item.currentQuantity = actualQuantity pair.current ∧
      targetQuantity pair.target = .ok item.targetQuantity ∧
      item.quantityChanged = decide (item.currentQuantity ≠ item.targetQuantity) ∧
      ∃ action description, describe pair action = .ok description ∧
        item.securityType = description.securityType := by
  unfold appendItem at h
  obtain ⟨quantity, hquantity, h⟩ := except_bind_ok h
  simp only at h
  split at h
  · cases h
  · obtain ⟨description, hdescribe, h⟩ := except_bind_ok h
    cases h
    exact ⟨rfl, rfl, hquantity, rfl, _, description, hdescribe, rfl⟩

theorem expectedQuantity_of_target {target : Option FutuPositionSnapshot} {quantity : Rat}
    (h : targetQuantity target = .ok quantity) : expectedQuantity target = quantity := by
  unfold targetQuantity at h
  unfold expectedQuantity
  split at h
  · cases h
    rfl
  · next p =>
    split at h
    · next hvalue =>
      cases h
      rw [Option.bind_some, hvalue]
      rfl
    · cases h

/-- The security type of a described pair is announced. -/
theorem securityType_of_describe {pair : SyncPair} {action : SyncAction} {description : SyncDescription}
    (h : describe pair action = .ok description)
    (heligible : ∀ p, pair.target = some p → p.eligible = true) :
    description.securityType = "STOCK" ∨ description.securityType = "ETF" := by
  unfold describe at h
  cases htarget : pair.target with
  | some p =>
    rw [htarget] at h
    simp only at h
    split at h
    · cases h
    · split at h
      · cases h
      · cases h
        have hp := heligible p htarget
        unfold FutuPositionSnapshot.eligible at hp
        simpa using hp
  | none =>
    rw [htarget] at h
    cases hcurrent : pair.current with
    | none =>
      rw [hcurrent] at h
      cases h
    | some row =>
      rw [hcurrent] at h
      cases h
      show (if row.values.assetType = .exchangeFund then "ETF" else "STOCK") = _ ∨
        (if row.values.assetType = .exchangeFund then "ETF" else "STOCK") = _
      split
      · exact .inr rfl
      · exact .inl rfl

/-- The changes of a proven result are those of the holdings. -/
theorem changes_iff (hslice : Slice account holdings)
    (h : syncPortfolio account outside holdings = (result, holdings'))
    (hproven : result.proven = true) (c : QuantityChange) :
    c ∈ result.changes ↔ Changed account holdings holdings' c := by
  obtain ⟨snapshot, items, replacements, hplan, hitems, rfl, hquantity, hcost⟩ := proven_sync h hproven
  have hrun := planSync_ok hplan
  obtain ⟨results, hresults, hitemsEq, -⟩ := hrun.results
  have hafter : ∀ assetId, expectedQuantity (target snapshot.positions assetId) =
      stockQuantity (written outside.newId outside.today replacements holdings) account assetId :=
    fun assetId => (agrees_of_trusted hslice hrun hquantity hcost assetId).1
  -- the item of a listed asset carries its quantities before and after
  have hitem : ∀ pair ∈ pairs snapshot.positions holdings futuBroker, ∀ item replacement,
      appendItem account futuBroker pair = .ok (item, replacement) →
        item.change.before = stockQuantity holdings account item.assetId ∧
          item.change.after = stockQuantity (written outside.newId outside.today replacements holdings)
            account item.assetId ∧ item.assetId = pair.assetId ∧
          (item.announced = true ↔ item.change.before ≠ item.change.after) := by
    intro pair hpair item replacement hok
    obtain ⟨hpairOf, -⟩ := (mem_pairs hslice).mp hpair
    obtain ⟨hasset, hcurrent, htarget, hchanged, action, description, hdescribe, htype⟩ :=
      appendItem_fields hok
    have hpairCurrent : pair.current = current holdings account futuBroker pair.assetId := by
      rw [hpairOf]
      rfl
    have hpairTarget : pair.target = target snapshot.positions pair.assetId := by
      rw [hpairOf]
      rfl
    refine ⟨?_, ?_, hasset, ?_⟩
    · show item.currentQuantity = _
      rw [hcurrent, hpairCurrent, hasset]
      rfl
    · show item.targetQuantity = _
      rw [← hafter, hasset, ← hpairTarget, expectedQuantity_of_target htarget]
    · have hstock : item.securityType = "STOCK" ∨ item.securityType = "ETF" := by
        rw [htype]
        refine securityType_of_describe hdescribe fun p hp => ?_
        rw [hpairTarget] at hp
        exact (target_mem hp).2.1
      unfold FutuHoldingSyncItem.announced
      rw [hchanged]
      simp only [Bool.and_eq_true, Bool.or_eq_true, decide_eq_true_eq]
      exact and_iff_right hstock
  unfold SyncResult.changes
  rw [hitems, hitemsEq, List.mem_map]
  constructor
  · rintro ⟨item, hmem, rfl⟩
    obtain ⟨hmem, hannounced⟩ := List.mem_filter.mp hmem
    obtain ⟨⟨item, replacement⟩, hresult, rfl⟩ := List.mem_map.mp hmem
    obtain ⟨pair, hpair, hok⟩ := forall₂_mem_right hresults hresult
    obtain ⟨hbefore, hafter, -, hiff⟩ := hitem pair hpair item replacement hok
    exact ⟨hbefore, hafter, hiff.mp hannounced⟩
  · rintro ⟨hbefore, hafter', hne⟩
    have hlisted : Listed snapshot.positions holdings account futuBroker c.assetId := by
      by_contra hlisted
      refine hne ?_
      rw [hbefore, hafter']
      unfold stockQuantity current
      rw [stored_written_of_not_listed hslice hrun hlisted]
    have hpair : pairOf snapshot.positions holdings account futuBroker c.assetId ∈
        pairs snapshot.positions holdings futuBroker := (mem_pairs hslice).mpr ⟨rfl, hlisted⟩
    obtain ⟨⟨item, replacement⟩, hresult, hok⟩ := forall₂_mem_left hresults hpair
    obtain ⟨hitemBefore, hitemAfter, hasset, hiff⟩ := hitem _ hpair item replacement hok
    have hassetId : item.assetId = c.assetId := hasset
    have hchange : item.change = c := by
      obtain ⟨assetId, before, after⟩ := c
      show QuantityChange.mk item.assetId item.change.before item.change.after = _
      rw [hitemBefore, hitemAfter, hassetId, ← hbefore, ← hafter']
    refine ⟨item, List.mem_filter.mpr ⟨List.mem_map.mpr ⟨_, hresult, rfl⟩, hiff.mpr ?_⟩, hchange⟩
    rw [hchange]
    exact hne

/-- A payload announces exactly what the sync changed. -/
theorem announces_iff (hslice : Slice account holdings)
    (h : syncPortfolio account outside holdings = (result, holdings')) {payload : QuantityPayload}
    (hpayload : quantityChangePayload result = some payload) (c : QuantityChange) :
    c ∈ payload.changes ↔ Changed account holdings holdings' c := by
  unfold quantityChangePayload at hpayload
  split at hpayload
  · cases hpayload
  · next hproven =>
    split at hpayload
    · cases hpayload
    · cases hpayload
      exact changes_iff hslice h (by simpa using hproven) c

/-- A proven result is silent when the sync changed nothing. -/
theorem silent_iff (hslice : Slice account holdings)
    (h : syncPortfolio account outside holdings = (result, holdings')) :
    quantityChangePayload result = none ↔
      result.proven = false ∨ ∀ c, ¬ Changed account holdings holdings' c := by
  unfold quantityChangePayload
  cases hproven : result.proven with
  | false => simp
  | true =>
    have hiff := changes_iff hslice h hproven
    rw [Bool.not_true, if_neg Bool.false_ne_true]
    constructor
    · intro hnone
      refine .inr fun c hc => ?_
      split at hnone
      · next hempty =>
        have hmem := (hiff c).mpr hc
        rw [hempty] at hmem
        cases hmem
      · cases hnone
    · rintro (hfalse | hnone)
      · cases hfalse
      · rw [if_pos]
        exact List.eq_nil_iff_forall_not_mem.mpr fun c hc => hnone c ((hiff c).mp hc)

end

end PortfolioManagement.Futu
