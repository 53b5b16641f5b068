import PortfolioManagement.Lib.Lists
import PortfolioManagement.Futu.Reconciler

/-!
# The holdings after a sync

Each compared asset has at most one replacement (`replacement_iff`), which describes an existing row as
it was and carries the quantity and the cost of the position (`appendItem_ok`). What a written slice
holds under an asset follows (`stored_written`).
-/

namespace PortfolioManagement.Futu

/-- The values of a holding besides the numbers. -/
structure SameDescription (v w : HoldingValues) : Prop where
  /-- the name -/
  assetName : v.assetName = w.assetName
  /-- the type -/
  assetType : v.assetType = w.assetType
  /-- the currency -/
  currency : v.currency = w.currency
  /-- the class -/
  assetClass : v.assetClass = w.assetClass
  /-- the industry -/
  industry : v.industry = w.industry
  /-- the tags -/
  tag : v.tag = w.tag

theorem SameDescription.rfl (v : HoldingValues) : SameDescription v v :=
  ⟨Eq.refl _, Eq.refl _, Eq.refl _, Eq.refl _, Eq.refl _, Eq.refl _⟩

/-! ## One comparison -/

/-- The quantity or the cost differs. -/
def changed (pair : SyncPair) (quantity : Rat) : Bool :=
  decide ((pair.current.map (·.values.quantity)).getD 0 ≠ quantity) ||
    decide (pair.current.bind (·.values.avgCost) ≠ targetCost pair.target quantity)

theorem changed_eq_false {pair : SyncPair} {quantity : Rat} :
    changed pair quantity = false ↔ (pair.current.map (·.values.quantity)).getD 0 = quantity ∧
      pair.current.bind (·.values.avgCost) = targetCost pair.target quantity := by
  unfold changed
  simp only [Bool.or_eq_false_iff, decide_eq_false_iff_not, ne_eq, not_not]

theorem syncAction_unchanged_iff {present isChanged : Bool} {quantity : Rat} :
    syncAction present quantity isChanged = .unchanged ↔
      if present then isChanged = false else quantity = 0 := by
  unfold syncAction
  cases present with
  | false =>
    rw [if_pos rfl, if_neg Bool.false_ne_true]
    split
    · next h => exact iff_of_true rfl h
    · next h => exact iff_of_false (fun h => by cases h) h
  | true =>
    rw [if_neg (by simp), if_pos rfl]
    cases isChanged with
    | false => simp
    | true =>
      simp only [and_true, if_true]
      split <;> exact iff_of_false (fun h => by cases h) (by simp)

/-- What a comparison that does not raise returns. -/
structure Compared (account broker : String) (pair : SyncPair) (item : FutuHoldingSyncItem)
    (replacement : Option Replacement) (quantity : Rat) : Prop where
  /-- the quantity of the position -/
  quantity_eq : targetQuantity pair.target = .ok quantity
  /-- the currency of the holding is known -/
  currency : ∀ h, pair.current = some h → validCurrency h.values.currency = true
  /-- the action -/
  action : item.action = syncAction pair.current.isSome quantity (changed pair quantity)
  /-- what did not change is not replaced -/
  unchanged : item.action = .unchanged → replacement = none
  /-- what changed is -/
  replaced : item.action ≠ .unchanged → ∃ r, replacement = some r
  /-- the asset of the replacement -/
  identity : ∀ r, replacement = some r → r.identity = ⟨pair.assetId, account, broker⟩
  /-- its numbers -/
  numbers : ∀ r, replacement = some r → r.values.quantity = quantity ∧
    r.values.avgCost = targetCost pair.target quantity
  /-- an existing row keeps its description -/
  kept : ∀ r h, replacement = some r → pair.current = some h → SameDescription r.values h.values
  /-- a new row is described by the position -/
  described : ∀ r p, replacement = some r → pair.current = none → pair.target = some p →
    p.currencyExplicit = true ∧
      ∃ assetClass, targetDescriptor p = .ok (r.values.assetType, r.values.currency, assetClass)

theorem describe_current {pair : SyncPair} {action : SyncAction} {d : SyncDescription} {h : Holding}
    (hok : describe pair action = .ok d) (hcurrent : pair.current = some h) :
    d.assetName = h.values.assetName ∧ d.assetType = h.values.assetType ∧
      d.currency = h.values.currency ∧ d.assetClass = h.values.assetClass := by
  unfold describe at hok
  rw [hcurrent] at hok
  cases htarget : pair.target with
  | none =>
    rw [htarget] at hok
    cases hok
    exact ⟨rfl, rfl, rfl, rfl⟩
  | some p =>
    rw [htarget] at hok
    simp only at hok
    split at hok
    · cases hok
    · split at hok
      · cases hok
      · cases hok
        exact ⟨rfl, rfl, rfl, rfl⟩

theorem describe_new {pair : SyncPair} {d : SyncDescription} {p : FutuPositionSnapshot}
    (hok : describe pair .create = .ok d) (hcurrent : pair.current = none)
    (htarget : pair.target = some p) :
    p.currencyExplicit = true ∧ targetDescriptor p = .ok (d.assetType, d.currency, d.assetClass) := by
  unfold describe at hok
  rw [hcurrent, htarget] at hok
  simp only at hok
  split at hok
  · cases hok
  · next targetType targetCurrency targetAssetClass hdescriptor =>
    cases hexplicit : p.currencyExplicit with
    | false =>
      rw [hexplicit, if_pos (by simp)] at hok
      cases hok
    | true =>
      rw [hexplicit, if_neg (by simp)] at hok
      cases hok
      exact ⟨rfl, hdescriptor⟩

theorem appendItem_ok {account broker : String} {pair : SyncPair} {item : FutuHoldingSyncItem}
    {replacement : Option Replacement} (h : appendItem account broker pair = .ok (item, replacement)) :
    ∃ quantity, Compared account broker pair item replacement quantity := by
  unfold appendItem at h
  obtain ⟨quantity, hquantity, h⟩ := except_bind_ok h
  refine ⟨quantity, ?_⟩
  simp only at h
  split at h
  · cases h
  · next hcurrency =>
    obtain ⟨description, hdescribe, h⟩ := except_bind_ok h
    cases h
    refine ⟨hquantity, ?_, rfl, fun hunchanged => if_pos hunchanged,
      fun hchanged => ⟨_, if_neg hchanged⟩, ?_, ?_, ?_, ?_⟩
    · intro row hrow
      rw [hrow] at hcurrency
      simpa using hcurrency
    · intro r hr
      split at hr
      · cases hr
      · cases hr
        rfl
    · intro r hr
      split at hr
      · cases hr
      · cases hr
        exact ⟨rfl, rfl⟩
    · intro r row hr hrow
      obtain ⟨hname, htype, hcur, hclass⟩ := describe_current hdescribe hrow
      split at hr
      · cases hr
      · cases hr
        refine ⟨hname, htype, hcur, hclass, ?_, ?_⟩
        · rw [hrow]
          rfl
        · rw [hrow]
          rfl
    · intro r p hr hnone htarget
      split at hr
      · cases hr
      · next haction =>
        cases hr
        have hcreate : syncAction pair.current.isSome quantity (changed pair quantity) = .create := by
          rw [hnone]
          unfold syncAction
          rw [Option.isSome_none, if_pos rfl]
          split
          · next hzero =>
            refine absurd ?_ haction
            rw [hnone, hzero]
            rfl
          · rfl
        obtain ⟨hexplicit, hdescriptor⟩ := describe_new (hcreate ▸ hdescribe) hnone htarget
        exact ⟨hexplicit, description.assetClass, hdescriptor⟩

/-! ## The comparisons of a slice -/

section
variable {positions : List FutuPositionSnapshot} {holdings : List Holding} {account broker : String}
  {allowEmpty : Bool} {items : List FutuHoldingSyncItem} {replacements : List Replacement}

/-- What is compared under an asset. -/
def pairOf (positions : List FutuPositionSnapshot) (holdings : List Holding) (account broker : String)
    (assetId : String) : SyncPair :=
  ⟨assetId, current holdings account broker assetId, target positions assetId⟩

/-- An asset is compared when it has a position, or a holding of a stock type. -/
def Listed (positions : List FutuPositionSnapshot) (holdings : List Holding) (account broker : String)
    (assetId : String) : Prop :=
  (∃ p, target positions assetId = some p) ∨
    ∃ h, current holdings account broker assetId = some h ∧ stockSyncType h.values.assetType = true

/-- The comparisons of a slice. -/
def pairs (positions : List FutuPositionSnapshot) (holdings : List Holding) (broker : String) :
    List SyncPair :=
  syncPairs ((positions.filter FutuPositionSnapshot.eligible).map fun p => (p.assetId, p))
    ((holdings.filter (matchable broker)).map fun h => (assetOf h, h))

theorem lookup_eligible (assetId : String) :
    List.lookup assetId ((positions.filter FutuPositionSnapshot.eligible).map fun p => (p.assetId, p)) =
      target positions assetId :=
  lookup_keyed (f := FutuPositionSnapshot.assetId) _ assetId

variable (broker) in
theorem lookup_existing (hslice : Slice account holdings) (assetId : String) :
    List.lookup assetId ((holdings.filter (matchable broker)).map fun h => (assetOf h, h)) =
      current holdings account broker assetId :=
  (lookup_keyed (f := assetOf) _ assetId).trans (rowWith_matchable hslice assetId)

theorem mem_pairs (hslice : Slice account holdings) {pair : SyncPair} :
    pair ∈ pairs positions holdings broker ↔
      pair = pairOf positions holdings account broker pair.assetId ∧
        Listed positions holdings account broker pair.assetId := by
  unfold pairs syncPairs
  rw [List.mem_append, List.mem_map, List.mem_filterMap]
  simp only [mem_sortedKeys, lookup_eligible, lookup_existing _ hslice]
  have hposition : ∀ assetId, assetId ∈ ((positions.filter FutuPositionSnapshot.eligible).map
      fun p => (p.assetId, p)).map Prod.fst ↔ ∃ p, target positions assetId = some p := by
    intro assetId
    rw [← isSome_lookup_iff, lookup_eligible, Option.isSome_iff_exists]
  constructor
  · rintro (⟨assetId, hmem, rfl⟩ | ⟨assetId, hmem, hpair⟩)
    · exact ⟨rfl, .inl ((hposition assetId).mp hmem)⟩
    · obtain ⟨⟨key, row⟩, hrow, rfl⟩ := List.mem_map.mp hmem
      have hnone : target positions key = none := by
        have htest := (List.mem_filter.mp hrow).2
        simpa using htest
      cases hcurrent : current holdings account broker key with
      | none =>
        rw [hcurrent] at hpair
        cases hpair
      | some h =>
        rw [hcurrent] at hpair
        simp only at hpair
        split at hpair
        · next hstock =>
          cases hpair
          refine ⟨?_, .inr ⟨h, hcurrent, hstock⟩⟩
          unfold pairOf
          rw [hcurrent, hnone]
        · cases hpair
  · rintro ⟨hpair, hlisted⟩
    cases htarget : target positions pair.assetId with
    | some p => exact .inl ⟨pair.assetId, (hposition _).mpr ⟨p, htarget⟩, hpair.symm⟩
    | none =>
      rcases hlisted with ⟨p, hp⟩ | ⟨h, hcurrent, hstock⟩
      · rw [htarget] at hp
        cases hp
      · refine .inr ⟨pair.assetId, ?_, ?_⟩
        · have hlookup := (lookup_existing broker hslice pair.assetId).trans hcurrent
          have hmem := Items.mem_of_lookup hlookup
          refine List.mem_map.mpr ⟨(pair.assetId, h), List.mem_filter.mpr ⟨hmem, ?_⟩, rfl⟩
          rw [htarget]
          rfl
        · rw [hcurrent]
          simp only [hstock, if_true, Option.some.injEq]
          rw [hpair]
          unfold pairOf
          simp only [hcurrent, htarget]

/-- The assets of pairs that are made for assets. -/
theorem sublist_assetIds {f : String → Option SyncPair}
    (h : ∀ assetId pair, f assetId = some pair → pair.assetId = assetId) (assetIds : List String) :
    List.Sublist ((assetIds.filterMap f).map SyncPair.assetId) assetIds := by
  induction assetIds with
  | nil => exact .slnil
  | cons assetId rest ih =>
    rw [List.filterMap_cons]
    cases hpair : f assetId with
    | none => exact .cons _ ih
    | some pair =>
      rw [List.map_cons, h assetId pair hpair]
      exact .cons_cons _ ih

theorem syncPairs_eq (eligible : Items String FutuPositionSnapshot) (existing : Items String Holding) :
    ∃ f : String → Option SyncPair, (∀ assetId pair, f assetId = some pair → pair.assetId = assetId) ∧
      syncPairs eligible existing = (sortedKeys (eligible.map Prod.fst)).map (fun assetId =>
          ⟨assetId, existing.lookup assetId, eligible.lookup assetId⟩) ++
        (sortedKeys ((existing.filter fun row => (eligible.lookup row.1).isNone).map
          Prod.fst)).filterMap f := by
  refine ⟨_, ?_, rfl⟩
  intro assetId pair hpair
  cases hrow : existing.lookup assetId with
  | none =>
    rw [hrow] at hpair
    cases hpair
  | some h =>
    simp only [hrow] at hpair
    cases hstock : stockSyncType h.values.assetType with
    | true =>
      rw [hstock, if_pos rfl] at hpair
      cases hpair
      rfl
    | false =>
      rw [hstock, if_neg Bool.false_ne_true] at hpair
      cases hpair

variable (broker) in
theorem nodup_pairs (hslice : Slice account holdings)
    (hpositions : ((positions.filter FutuPositionSnapshot.eligible).map
      FutuPositionSnapshot.assetId).Nodup) :
    ((pairs positions holdings broker).map SyncPair.assetId).Nodup := by
  unfold pairs
  set eligible := (positions.filter FutuPositionSnapshot.eligible).map fun p => (p.assetId, p)
    with heligible
  set existing := (holdings.filter (matchable broker)).map fun h => (assetOf h, h) with hexisting
  have hfirst : (eligible.map Prod.fst).Nodup := by
    rw [heligible, List.map_map]
    exact hpositions
  have hsecond : ((existing.filter fun row => (eligible.lookup row.1).isNone).map Prod.fst).Nodup := by
    refine (List.Sublist.map _ List.filter_sublist).nodup ?_
    rw [hexisting, List.map_map]
    exact nodup_matchable hslice
  obtain ⟨f, hasset, hpairs⟩ := syncPairs_eq eligible existing
  rw [hpairs, List.map_append, List.map_map]
  refine List.Nodup.append ?_ ((sublist_assetIds hasset _).nodup (nodup_sortedKeys hsecond)) ?_
  · have hid : (sortedKeys (eligible.map Prod.fst)).map (SyncPair.assetId ∘ fun assetId =>
        ⟨assetId, existing.lookup assetId, eligible.lookup assetId⟩) =
          sortedKeys (eligible.map Prod.fst) := List.map_id' _
    rw [hid]
    exact nodup_sortedKeys hfirst
  · intro key hkey hother
    obtain ⟨key', hmem, rfl⟩ := List.mem_map.mp hkey
    have hsome : (eligible.lookup key').isSome := isSome_lookup_iff.mpr (mem_sortedKeys.mp hmem)
    have hunmatched := mem_sortedKeys.mp ((sublist_assetIds hasset _).subset hother)
    obtain ⟨row, hrow, hrowkey⟩ := List.mem_map.mp hunmatched
    have hnone := (List.mem_filter.mp hrow).2
    rw [hrowkey] at hnone
    have hnone' : (eligible.lookup key').isNone = true := hnone
    rw [Option.isSome_iff_exists] at hsome
    obtain ⟨_, hsome⟩ := hsome
    rw [hsome] at hnone'
    cases hnone'

/-- What a comparison of a whole slice is made of. -/
structure DiffRun (positions : List FutuPositionSnapshot) (holdings : List Holding)
    (account broker : String) (allowEmpty : Bool) (items : List FutuHoldingSyncItem)
    (replacements : List Replacement) : Prop where
  /-- the eligible positions have distinct assets -/
  nodup : ((positions.filter FutuPositionSnapshot.eligible).map FutuPositionSnapshot.assetId).Nodup
  /-- an empty snapshot zeroes nothing unless that is allowed -/
  allowed : ¬ (((positions.filter FutuPositionSnapshot.eligible).map fun p => (p.assetId, p)).isEmpty &&
    !allowEmpty && ((holdings.filter (matchable broker)).map fun h => (assetOf h, h)).any fun row =>
      stockSyncType row.2.values.assetType && row.2.values.quantity ≠ 0) = true
  /-- the results of the comparisons -/
  results : ∃ results, List.Forall₂ (fun pair result => appendItem account broker pair = .ok result)
    (pairs positions holdings broker) results ∧ items = results.map Prod.fst ∧
      replacements = results.filterMap Prod.snd

theorem buildPositionDiff_ok
    (h : buildPositionDiff positions holdings account broker allowEmpty = .ok (items, replacements)) :
    DiffRun positions holdings account broker allowEmpty items replacements := by
  unfold buildPositionDiff at h
  obtain ⟨eligible, heligible, h⟩ := except_bind_ok h
  obtain ⟨existing, hexisting, h⟩ := except_bind_ok h
  obtain ⟨rfl, hnodup⟩ := keyedBy_ok heligible
  obtain ⟨rfl, -⟩ := keyedBy_ok hexisting
  simp only at h
  split at h
  · cases h
  · next hallowed =>
    obtain ⟨results, hresults, h⟩ := except_bind_ok h
    cases h
    exact ⟨hnodup, hallowed, results, forall₂_of_mapM_ok hresults, rfl, rfl⟩

theorem nodup_replacements (hslice : Slice account holdings)
    (hrun : DiffRun positions holdings account broker allowEmpty items replacements) :
    (replacements.map Replacement.identity).Nodup := by
  obtain ⟨results, hresults, -, rfl⟩ := hrun.results
  have hpairs := nodup_pairs broker hslice hrun.nodup
  have hassets : ∀ (ps : List SyncPair) (rs : List (FutuHoldingSyncItem × Option Replacement)),
      List.Forall₂ (fun pair result => appendItem account broker pair = .ok result) ps rs →
      List.Sublist ((rs.filterMap Prod.snd).map fun r => r.identity.assetId)
        (ps.map SyncPair.assetId) := by
    intro ps rs hforall
    induction hforall with
    | nil => exact .slnil
    | @cons pair result _ _ hok _ ih =>
      obtain ⟨item, replacement⟩ := result
      obtain ⟨quantity, hcompared⟩ := appendItem_ok hok
      rw [List.filterMap_cons]
      cases replacement with
      | none => exact .cons _ ih
      | some r =>
        have hid : r.identity.assetId = pair.assetId := by rw [hcompared.identity r rfl]
        show List.Sublist (r.identity.assetId :: _) (pair.assetId :: _)
        rw [hid]
        exact .cons_cons _ ih
  refine List.Nodup.of_map HoldingIdentity.assetId ?_
  rw [List.map_map]
  exact (hassets _ _ hresults).nodup hpairs

/-- The replacement of an asset is the one its comparison returns. -/
theorem replacement_iff (hslice : Slice account holdings)
    (hrun : DiffRun positions holdings account broker allowEmpty items replacements)
    (assetId : String) (r : Replacement) :
    rowWith Replacement.identity ⟨assetId, account, broker⟩ replacements = some r ↔
      Listed positions holdings account broker assetId ∧ ∃ item,
        appendItem account broker (pairOf positions holdings account broker assetId) =
          .ok (item, some r) := by
  have hnodup := nodup_replacements hslice hrun
  obtain ⟨results, hresults, -, hreplacements⟩ := hrun.results
  constructor
  · intro hrow
    obtain ⟨hmem, hid⟩ := mem_of_rowWith hrow
    rw [hreplacements] at hmem
    obtain ⟨⟨item, replacement⟩, hresult, hsome⟩ := List.mem_filterMap.mp hmem
    have hsome : replacement = some r := hsome
    subst hsome
    obtain ⟨pair, hpair, hok⟩ := forall₂_mem_right hresults hresult
    obtain ⟨hpairOf, hlisted⟩ := (mem_pairs hslice).mp hpair
    obtain ⟨quantity, hcompared⟩ := appendItem_ok hok
    have hasset : pair.assetId = assetId := by
      rw [hcompared.identity r rfl] at hid
      exact congrArg HoldingIdentity.assetId hid
    rw [hasset] at hpairOf hlisted
    exact ⟨hlisted, item, hpairOf ▸ hok⟩
  · rintro ⟨hlisted, item, hok⟩
    have hpair : pairOf positions holdings account broker assetId ∈ pairs positions holdings broker :=
      (mem_pairs hslice).mpr ⟨rfl, hlisted⟩
    obtain ⟨result, hresult, hok'⟩ := forall₂_mem_left hresults hpair
    have hsame : result = (item, some r) := Except.ok.inj (hok'.symm.trans hok)
    have hmem : r ∈ replacements := by
      rw [hreplacements]
      exact List.mem_filterMap.mpr ⟨result, hresult, by rw [hsame]⟩
    obtain ⟨quantity, hcompared⟩ := appendItem_ok hok
    have hrow := rowWith_of_mem hnodup hmem
    rw [hcompared.identity r rfl] at hrow
    exact hrow

/-- Every listed asset was compared. -/
theorem compared_of_listed (hslice : Slice account holdings)
    (hrun : DiffRun positions holdings account broker allowEmpty items replacements) {assetId : String}
    (hlisted : Listed positions holdings account broker assetId) :
    ∃ item replacement quantity,
      appendItem account broker (pairOf positions holdings account broker assetId) =
          .ok (item, replacement) ∧
        Compared account broker (pairOf positions holdings account broker assetId) item replacement
          quantity := by
  obtain ⟨results, hresults, -, -⟩ := hrun.results
  have hpair : pairOf positions holdings account broker assetId ∈ pairs positions holdings broker :=
    (mem_pairs hslice).mpr ⟨rfl, hlisted⟩
  obtain ⟨⟨item, replacement⟩, -, hok⟩ := forall₂_mem_left hresults hpair
  obtain ⟨quantity, hcompared⟩ := appendItem_ok hok
  exact ⟨item, replacement, quantity, hok, hcompared⟩

/-! ## The written slice -/

/-- The slice after the write. -/
def written (newId : HoldingIdentity → Nat) (today : Date) (replacements : List Replacement)
    (holdings : List Holding) : List Holding :=
  (replacing newId today).writeAll replacements holdings

variable {newId : HoldingIdentity → Nat} {today : Date}

variable (newId today) in
/-- What is stored under an identity after the write. -/
theorem stored_written (hslice : Slice account holdings)
    (hrun : DiffRun positions holdings account broker allowEmpty items replacements)
    (identity : HoldingIdentity) :
    rowWith (·.identity) identity (written newId today replacements holdings) =
      (rowWith Replacement.identity identity replacements).elim (rowWith (·.identity) identity holdings)
        fun r => some ((replacing newId today).outcome r (rowWith (·.identity) identity holdings)) :=
  (replacing newId today).rowWith_writeAll (nodup_replacements hslice hrun) holdings identity

theorem account_of_mem
    (hrun : DiffRun positions holdings account broker allowEmpty items replacements) {r : Replacement}
    (hr : r ∈ replacements) :
    r.identity = ⟨r.identity.assetId, account, broker⟩ := by
  obtain ⟨results, hresults, -, rfl⟩ := hrun.results
  obtain ⟨⟨item, replacement⟩, hresult, hsome⟩ := List.mem_filterMap.mp hr
  have hsome : replacement = some r := hsome
  subst hsome
  obtain ⟨pair, -, hok⟩ := forall₂_mem_right hresults hresult
  obtain ⟨quantity, hcompared⟩ := appendItem_ok hok
  rw [hcompared.identity r rfl]

variable (newId today) in
theorem slice_written (hslice : Slice account holdings)
    (hrun : DiffRun positions holdings account broker allowEmpty items replacements) :
    Slice account (written newId today replacements holdings) where
  nodup := (replacing newId today).nodup_writeAll hslice.nodup replacements
  account_eq := by
    intro h hh
    have hnodup := (replacing newId today).nodup_writeAll hslice.nodup replacements
    have hrow := (stored_written newId today hslice hrun h.identity).symm.trans
      (rowWith_of_mem (f := fun h : Holding => h.identity) hnodup hh)
    cases hr : rowWith Replacement.identity h.identity replacements with
    | some r =>
      obtain ⟨hmem, hid⟩ := mem_of_rowWith hr
      rw [← hid, account_of_mem hrun hmem]
    | none =>
      rw [hr] at hrow
      exact hslice.account_eq h (mem_of_rowWith hrow).1

end

end PortfolioManagement.Futu
