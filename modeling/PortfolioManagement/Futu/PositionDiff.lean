import PortfolioManagement.Lib.Unique
import PortfolioManagement.Futu.Positions

/-!
# The comparison of Futu positions with the holdings

The planner takes the holdings of the broker whose type is one of the stock types or one of the legacy
fund types, compares each with the eligible position of its asset, and returns what replaces the rows
that differ. A holding without a position is set to zero when its type is a stock type; a legacy fund
without one is left alone.
-/

namespace PortfolioManagement.Futu

/-- `holding.asset_type in STOCK_SYNC_ASSET_TYPES`. -/
def stockSyncType : AssetType → Bool
  | .aStock | .hkStock | .usStock | .exchangeFund => true
  | _ => false

/-- `holding.asset_type in LEGACY_ETF_ASSET_TYPES`. -/
def legacyEtfType : AssetType → Bool
  | .cnFund | .hkFund | .usFund => true
  | _ => false

/-- `holding.asset_type in matchable_types`. -/
def matchableType (t : AssetType) : Bool := stockSyncType t || legacyEtfType t

/-- `quantize_money`. -/
def quantizeMoney (value : Option Rat) : Rat := (money (value.getD 0)).toDecimal

/-- `action`. -/
inductive SyncAction
  | unchanged | create | zero | update
deriving DecidableEq

/-- `FutuHoldingSyncItem`. -/
structure FutuHoldingSyncItem where
  /-- `asset_id` -/
  assetId : String
  /-- `asset_name` -/
  assetName : String
  /-- `security_type` -/
  securityType : String
  /-- `action` -/
  action : SyncAction
  /-- `current_quantity` -/
  currentQuantity : Rat
  /-- `target_quantity` -/
  targetQuantity : Rat
  /-- `quantity_changed` -/
  quantityChanged : Bool
  /-- `current_avg_cost` -/
  currentAvgCost : Option Rat
  /-- `target_avg_cost` -/
  targetAvgCost : Option Rat
  /-- `cost_changed` -/
  costChanged : Bool
  /-- `cost_source` -/
  costSource : String
  /-- `currency` -/
  currency : String
deriving DecidableEq

/-- A holding that the planner returns; a new one has no record id. -/
structure Replacement where
  /-- `record_id` -/
  recordId : Option Nat
  /-- the business identity -/
  identity : HoldingIdentity
  /-- the business values -/
  values : HoldingValues
  /-- `created_at` -/
  createdAt : Option Date
  /-- `updated_at` -/
  updatedAt : Option Date
deriving DecidableEq

/-- A position or a holding to be compared. -/
structure SyncPair where
  /-- the asset -/
  assetId : String
  /-- the holding -/
  current : Option Holding
  /-- the position -/
  target : Option FutuPositionSnapshot

/-- `float(target.quantity if target else 0)`; a position without a number cannot be compared. -/
def targetQuantity : Option FutuPositionSnapshot → Except String Rat
  | none => .ok 0
  | some p =>
    match p.quantity.value with
    | some quantity => .ok quantity
    | none => .error "float() argument must be a string or a real number, not 'NoneType'"

/-- `target_cost`. -/
def targetCost (target : Option FutuPositionSnapshot) (quantity : Rat) : Option Rat :=
  match target with
  | some p => if quantity ≠ 0 then some (quantizeMoney p.averageCost.value) else none
  | none => none

/-- `action` of a comparison. -/
def syncAction (present : Bool) (quantity : Rat) (changed : Bool) : SyncAction :=
  if present = false then if quantity = 0 then .unchanged else .create
  else if quantity = 0 ∧ changed then .zero
  else if changed then .update
  else .unchanged

/-- What an item shows besides the numbers: name, type, currency, class and security type. -/
structure SyncDescription where
  /-- `asset_name` -/
  assetName : String
  /-- `asset_type` -/
  assetType : AssetType
  /-- `currency` -/
  currency : String
  /-- `asset_class` -/
  assetClass : Option AssetClass
  /-- `security_type` -/
  securityType : String

/-- The description of a pair. -/
def describe (pair : SyncPair) (action : SyncAction) : Except String SyncDescription :=
  match pair.target, pair.current with
  | some p, current =>
    match targetDescriptor p with
    | .error error => .error error
    | .ok (targetType, targetCurrency, targetAssetClass) =>
      if current.isNone && action = .create && !p.currencyExplicit then
        .error ("explicit Futu currency required for new holding: " ++
          if p.rawCode ≠ "" then p.rawCode else p.assetId)
      else .ok
        { assetName := (current.map (·.values.assetName)).getD p.assetName
          assetType := (current.map (·.values.assetType)).getD targetType
          currency := (current.map (·.values.currency)).getD targetCurrency
          assetClass := (current.map (·.values.assetClass)).getD targetAssetClass
          securityType := p.securityType }
  | none, some h => .ok
      { assetName := h.values.assetName
        assetType := h.values.assetType
        currency := h.values.currency
        assetClass := h.values.assetClass
        securityType := if h.values.assetType = .exchangeFund then "ETF" else "STOCK" }
  | none, none => .error "'NoneType' object has no attribute 'asset_type'"

/-- `append_item`: the item, and what replaces the holding. -/
def appendItem (account broker : String) (pair : SyncPair) :
    Except String (FutuHoldingSyncItem × Option Replacement) := do
  let currentQuantity := (pair.current.map (·.values.quantity)).getD 0
  let quantity ← targetQuantity pair.target
  let currentCost := pair.current.bind (·.values.avgCost)
  let cost := targetCost pair.target quantity
  let quantityChanged := decide (currentQuantity ≠ quantity)
  let costChanged := decide (currentCost ≠ cost)
  let action := syncAction pair.current.isSome quantity (quantityChanged || costChanged)
  if pair.current.any fun h => !validCurrency h.values.currency then
    throw ("existing holding currency is invalid: " ++ pair.assetId)
  let description ← describe pair action
  let item : FutuHoldingSyncItem :=
    { assetId := pair.assetId
      assetName := description.assetName
      securityType := description.securityType
      action := action
      currentQuantity := currentQuantity
      targetQuantity := quantity
      quantityChanged := quantityChanged
      currentAvgCost := currentCost
      targetAvgCost := cost
      costChanged := costChanged
      costSource := "average_cost"
      currency := description.currency }
  let replacement : Replacement :=
    { recordId := pair.current.map (·.recordId)
      identity := ⟨pair.assetId, account, broker⟩
      values :=
        { assetName := description.assetName
          assetType := description.assetType
          quantity := quantity
          avgCost := cost
          currency := description.currency
          assetClass := description.assetClass
          industry := pair.current.bind (·.values.industry)
          tag := (pair.current.map (·.values.tag)).getD [] }
      createdAt := pair.current.bind (·.createdAt)
      updatedAt := pair.current.bind (·.updatedAt) }
  return (item, if action = .unchanged then none else some replacement)

/-- The holdings of the broker that can be matched with a position. -/
def matchable (broker : String) (h : Holding) : Bool :=
  h.identity.broker = broker && matchableType h.values.assetType

/-- The asset of a holding. -/
def assetOf (h : Holding) : String := h.identity.assetId

/-- `sorted(keys)`. -/
def sortedKeys (keys : List String) : List String := keys.insertionSort (· ≤ ·)

/-- The comparisons: the eligible positions by asset, then the stock holdings without one. -/
def syncPairs (eligible : Items String FutuPositionSnapshot) (existing : Items String Holding) :
    List SyncPair :=
  (sortedKeys (eligible.map Prod.fst)).map (fun assetId =>
      ⟨assetId, existing.lookup assetId, eligible.lookup assetId⟩) ++
    (sortedKeys ((existing.filter fun row => (eligible.lookup row.1).isNone).map Prod.fst)).filterMap
      fun assetId =>
        match existing.lookup assetId with
        | some h => if stockSyncType h.values.assetType then some ⟨assetId, some h, none⟩ else none
        | none => none

/-- `_build_position_diff`: the items and the replacements. -/
def buildPositionDiff (positions : List FutuPositionSnapshot) (holdings : List Holding)
    (account broker : String) (allowEmptyStockSnapshot : Bool) :
    Except String (List FutuHoldingSyncItem × List Replacement) := do
  let eligible ← keyedBy FutuPositionSnapshot.assetId
    (fun assetId => "duplicate normalized Futu position: " ++ assetId)
    (positions.filter FutuPositionSnapshot.eligible) []
  let existing ← keyedBy assetOf (fun assetId => "duplicate existing Futu holding: " ++ assetId)
    (holdings.filter (matchable broker)) []
  if eligible.isEmpty && !allowEmptyStockSnapshot && existing.any fun row =>
      stockSyncType row.2.values.assetType && row.2.values.quantity ≠ 0 then
    throw ("empty eligible Futu stock snapshot would zero existing positions; " ++
      "re-run with allow_empty_stock_snapshot=True and confirm=True after manual verification")
  let results ← (syncPairs eligible existing).mapM (appendItem account broker)
  return (results.map Prod.fst, results.filterMap Prod.snd)

/-! ## Writing the replacements -/

/-- `upsert_holdings_bulk` in its replacing mode: the quantity and the cost of an existing row, and its
name when one is given; `newId` numbers the rows that are created. -/
def replacing (newId : HoldingIdentity → Nat) (today : Date) :
    Upsert Holding Replacement HoldingIdentity where
  key h := h.identity
  target r := r.identity
  merge r h :=
    { h with
      values := { h.values with
        quantity := r.values.quantity
        avgCost := r.values.avgCost
        assetName := if r.values.assetName = "" then h.values.assetName else r.values.assetName }
      updatedAt := some today }
  create r := ⟨newId r.identity, r.identity, r.values, some today, some today⟩
  key_merge _ _ := rfl
  key_create _ := rfl

end PortfolioManagement.Futu
