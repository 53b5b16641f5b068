import Mathlib.Data.List.Dedup
import PortfolioManagement.Futu.PositionDiff

/-!
# The verdicts on the positions

After a sync the reconciler reads the holdings again and compares the quantities and the costs of the
broker's holdings of a position type, the legacy fund types among them, with the snapshot. A verdict is
trusted when nothing differs (`quantity_trusted_iff`, `cost_trusted_iff`).
-/

namespace PortfolioManagement.Futu

/-- `item.asset_type in _POSITION_TYPES`. -/
def positionType : AssetType → Bool
  | .aStock | .hkStock | .usStock | .exchangeFund | .cnFund | .hkFund | .usFund => true
  | _ => false

/-- `_field_difference`. -/
structure FieldDifference where
  /-- the identity -/
  identity : HoldingIdentity
  /-- the field -/
  field : String
  /-- what is stored -/
  actual : Option Rat
  /-- what the snapshot asks for -/
  requested : Option Rat
  /-- the stored row -/
  recordId : Option Nat
deriving DecidableEq

/-- A verdict. -/
structure Verdict where
  /-- `status` -/
  status : String
  /-- `reason_code` -/
  reasonCode : String
  /-- `diff_count` -/
  diffCount : Nat
  /-- `diff_subjects` -/
  diffSubjects : List String
  /-- `differences` -/
  differences : List FieldDifference
deriving DecidableEq

/-- `_verdict`. -/
def verdict (diff : List FieldDifference) (reasonCode : String) : Verdict where
  status := if diff = [] then "trusted" else "untrusted"
  reasonCode := if diff = [] then "REPLICA_MATCHED" else reasonCode
  diffCount := diff.length
  diffSubjects := diff.map (·.identity.assetId)
  differences := diff

/-- `_money`. -/
def moneyOf (value : Option Rat) : Option Cents := value.map money

/-- `_decimal(x.quantity if x else 0)` of a position. -/
def expectedQuantity (expected : Option FutuPositionSnapshot) : Rat :=
  (expected.bind (·.quantity.value)).getD 0

/-- `_decimal(x.quantity if x else 0)` of a holding. -/
def actualQuantity (stored : Option Holding) : Rat := (stored.map (·.values.quantity)).getD 0

/-- `expected_cost`. -/
def expectedCost (expected : Option FutuPositionSnapshot) : Option Cents :=
  if expectedQuantity expected ≠ 0 then moneyOf (expected.bind (·.averageCost.value)) else none

/-- `actual_cost`. -/
def actualCost (stored : Option Holding) : Option Cents := moneyOf (stored.bind (·.values.avgCost))

/-- What is compared: the positions of the snapshot and the holdings of the broker, by asset. -/
structure Comparison where
  /-- `expected_positions` -/
  expected : Items String FutuPositionSnapshot
  /-- `actual` -/
  actual : Items String Holding

/-- The two dicts. -/
def comparison (positions : List FutuPositionSnapshot) (holdings : List Holding) (broker : String) :
    Comparison where
  expected := gather FutuPositionSnapshot.assetId
    (positions.filter fun p => p.securityType = "STOCK" || p.securityType = "ETF")
  actual := gather assetOf
    (holdings.filter fun h => h.identity.broker = broker && positionType h.values.assetType)

/-- `sorted(set(expected_positions) | set(actual))`. -/
def Comparison.assets (c : Comparison) : List String :=
  sortedKeys (c.expected.map Prod.fst ++ c.actual.map Prod.fst).dedup

/-- `quantity_diff`. -/
def Comparison.quantityDiff (c : Comparison) (account broker : String) : List FieldDifference :=
  c.assets.filterMap fun assetId =>
    let expected := expectedQuantity (c.expected.lookup assetId)
    let actual := actualQuantity (c.actual.lookup assetId)
    if expected ≠ actual then
      some ⟨⟨assetId, account, broker⟩, "quantity", some actual, some expected,
        (c.actual.lookup assetId).map (·.recordId)⟩
    else none

/-- `cost_diff`. -/
def Comparison.costDiff (c : Comparison) (account broker : String) : List FieldDifference :=
  c.assets.filterMap fun assetId =>
    let expected := expectedCost (c.expected.lookup assetId)
    let actual := actualCost (c.actual.lookup assetId)
    if expected ≠ actual then
      some ⟨⟨assetId, account, broker⟩, "avg_cost", actual.map Cents.toDecimal,
        expected.map Cents.toDecimal, (c.actual.lookup assetId).map (·.recordId)⟩
    else none

/-- `pm.holdings_quantity` of `_read_and_compare`. -/
def quantityVerdict (positions : List FutuPositionSnapshot) (holdings : List Holding)
    (account broker : String) : Verdict :=
  verdict ((comparison positions holdings broker).quantityDiff account broker)
    "HOLDINGS_QUANTITY_MISMATCH"

/-- `pm.cost_basis` of `_read_and_compare`. -/
def costVerdict (positions : List FutuPositionSnapshot) (holdings : List Holding)
    (account broker : String) : Verdict :=
  verdict ((comparison positions holdings broker).costDiff account broker) "COST_BASIS_MISMATCH"

/-! ## When a verdict is trusted -/

/-- The types the reconciler compares are those the planner matches. -/
theorem positionType_eq (t : AssetType) : positionType t = matchableType t := by
  cases t <;> rfl

theorem trusted_iff (diff : List FieldDifference) (reasonCode : String) :
    (verdict diff reasonCode).status = "trusted" ↔ diff = [] := by
  unfold verdict
  by_cases h : diff = []
  · simp [h]
  · simp [h]

theorem mem_sortedKeys {keys : List String} {key : String} : key ∈ sortedKeys keys ↔ key ∈ keys := by
  unfold sortedKeys
  exact List.mem_insertionSort _

theorem nodup_sortedKeys {keys : List String} (h : keys.Nodup) : (sortedKeys keys).Nodup :=
  (List.perm_insertionSort _ keys).nodup_iff.mpr h

/-- An asset that is not compared has neither a position nor a holding. -/
theorem Comparison.lookup_none (c : Comparison) {assetId : String} (h : assetId ∉ c.assets) :
    c.expected.lookup assetId = none ∧ c.actual.lookup assetId = none := by
  unfold Comparison.assets at h
  rw [mem_sortedKeys, List.mem_dedup, List.mem_append, not_or] at h
  exact ⟨Items.lookup_eq_none h.1, Items.lookup_eq_none h.2⟩

theorem quantity_trusted_iff (positions : List FutuPositionSnapshot) (holdings : List Holding)
    (account broker : String) :
    (quantityVerdict positions holdings account broker).status = "trusted" ↔
      ∀ assetId, expectedQuantity ((comparison positions holdings broker).expected.lookup assetId) =
        actualQuantity ((comparison positions holdings broker).actual.lookup assetId) := by
  unfold quantityVerdict Comparison.quantityDiff
  rw [trusted_iff, List.filterMap_eq_nil_iff]
  constructor
  · intro h assetId
    by_cases hmem : assetId ∈ (comparison positions holdings broker).assets
    · by_contra hne
      have hnone := h assetId hmem
      simp only [if_pos hne] at hnone
      cases hnone
    · obtain ⟨hexpected, hactual⟩ := Comparison.lookup_none _ hmem
      rw [hexpected, hactual]
      rfl
  · intro h assetId _
    simp only [h assetId, ne_eq, not_true_eq_false, if_false]

theorem cost_trusted_iff (positions : List FutuPositionSnapshot) (holdings : List Holding)
    (account broker : String) :
    (costVerdict positions holdings account broker).status = "trusted" ↔
      ∀ assetId, expectedCost ((comparison positions holdings broker).expected.lookup assetId) =
        actualCost ((comparison positions holdings broker).actual.lookup assetId) := by
  unfold costVerdict Comparison.costDiff
  rw [trusted_iff, List.filterMap_eq_nil_iff]
  constructor
  · intro h assetId
    by_cases hmem : assetId ∈ (comparison positions holdings broker).assets
    · by_contra hne
      have hnone := h assetId hmem
      simp only [if_pos hne] at hnone
      cases hnone
    · obtain ⟨hexpected, hactual⟩ := Comparison.lookup_none _ hmem
      rw [hexpected, hactual]
      rfl
  · intro h assetId _
    simp only [h assetId, ne_eq, not_true_eq_false, if_false]

/-! ## The compared rows -/

/-- A holdings slice of one account without a repeated identity. -/
structure Slice (account : String) (holdings : List Holding) : Prop where
  /-- an identity has one row -/
  nodup : (holdings.map (·.identity)).Nodup
  /-- the rows are of the account -/
  account_eq : ∀ h ∈ holdings, h.identity.account = account

/-- The eligible position of an asset. -/
def target (positions : List FutuPositionSnapshot) (assetId : String) : Option FutuPositionSnapshot :=
  rowWith FutuPositionSnapshot.assetId assetId (positions.filter FutuPositionSnapshot.eligible)

/-- The row of an asset of the broker, of any type. -/
def stored (holdings : List Holding) (account broker assetId : String) : Option Holding :=
  rowWith (·.identity) ⟨assetId, account, broker⟩ holdings

/-- The matchable row of an asset of the broker. -/
def current (holdings : List Holding) (account broker assetId : String) : Option Holding :=
  (stored holdings account broker assetId).filter fun h => matchableType h.values.assetType

variable {holdings : List Holding} {account broker : String}

theorem nodup_matchable (h : Slice account holdings) :
    ((holdings.filter (matchable broker)).map assetOf).Nodup := by
  have hids : ((holdings.filter (matchable broker)).map (·.identity)).Nodup :=
    (List.Sublist.map _ List.filter_sublist).nodup h.nodup
  refine List.Nodup.of_map (fun assetId => (⟨assetId, account, broker⟩ : HoldingIdentity)) ?_
  rw [List.map_map]
  have hsame : (holdings.filter (matchable broker)).map ((fun assetId =>
      (⟨assetId, account, broker⟩ : HoldingIdentity)) ∘ assetOf) =
        (holdings.filter (matchable broker)).map (·.identity) := by
    refine List.map_congr_left fun row hrow => ?_
    obtain ⟨hmem, htest⟩ := List.mem_filter.mp hrow
    obtain ⟨hbroker, -⟩ := (Bool.and_eq_true _ _).mp htest
    show (⟨row.identity.assetId, account, broker⟩ : HoldingIdentity) = row.identity
    rw [← h.account_eq row hmem, ← of_decide_eq_true hbroker]
  rwa [hsame]

/-- The matchable rows of the broker, by asset. -/
theorem rowWith_matchable (h : Slice account holdings) (assetId : String) :
    rowWith assetOf assetId (holdings.filter (matchable broker)) =
      current holdings account broker assetId := by
  unfold current stored
  rw [← rowWith_filter h.nodup]
  have hsplit : holdings.filter (matchable broker) =
      (holdings.filter fun row => matchableType row.values.assetType).filter
        fun row => row.identity.broker = broker := by
    rw [List.filter_filter]
    rfl
  have hnodup : ((holdings.filter fun row => matchableType row.values.assetType).map
      (·.identity)).Nodup := (List.Sublist.map _ List.filter_sublist).nodup h.nodup
  have hkey : ∀ row ∈ holdings.filter (matchable broker),
      assetOf row = assetId ↔ row.identity = ⟨assetId, account, broker⟩ := by
    intro row hrow
    obtain ⟨hmem, htest⟩ := List.mem_filter.mp hrow
    obtain ⟨hbroker, -⟩ := (Bool.and_eq_true _ _).mp htest
    constructor
    · intro hasset
      rw [← hasset, ← h.account_eq row hmem, ← of_decide_eq_true hbroker]
      rfl
    · intro hid
      exact congrArg HoldingIdentity.assetId hid
  rw [rowWith_congr (g := fun row : Holding => row.identity) hkey, hsplit, rowWith_filter hnodup]
  cases hrow : rowWith (fun row : Holding => row.identity) ⟨assetId, account, broker⟩
      (holdings.filter fun row => matchableType row.values.assetType) with
  | none => rfl
  | some row =>
    have hid := (mem_of_rowWith hrow).2
    rw [Option.filter_some, hid, if_pos (decide_eq_true rfl)]

variable (broker) in
/-- The reconciler compares the position of an asset with its matchable row. -/
theorem comparison_lookup (h : Slice account holdings) {positions : List FutuPositionSnapshot}
    (hpositions : ((positions.filter FutuPositionSnapshot.eligible).map
      FutuPositionSnapshot.assetId).Nodup) (assetId : String) :
    (comparison positions holdings broker).expected.lookup assetId = target positions assetId ∧
      (comparison positions holdings broker).actual.lookup assetId =
        current holdings account broker assetId := by
  have hsame : (fun row : Holding => decide (row.identity.broker = broker) &&
      positionType row.values.assetType) = matchable broker := by
    funext row
    rw [positionType_eq]
    rfl
  unfold comparison
  refine ⟨lookup_gather_of_nodup hpositions assetId, ?_⟩
  rw [hsame, lookup_gather_of_nodup (nodup_matchable h), rowWith_matchable h]

end PortfolioManagement.Futu
