import PortfolioManagement.Domain.Holding

/-!
# Futu positions

One snapshot of a Futu account lists its positions. A slice is validated as a whole before any holding
is compared with it: every eligible position has a quantity and, unless it is zero, a cost, a currency
the service knows when Futu states one, and a market it can place.
-/

namespace PortfolioManagement.Futu

/-- `ProviderNumericFact`: a finite number, or none. -/
inductive ProviderNumericFact
  | valid (value : Rat)
  | missing
  | invalid
deriving DecidableEq

namespace ProviderNumericFact

/-- `state.value`. -/
def state : ProviderNumericFact → String
  | .valid _ => "valid"
  | .missing => "missing"
  | .invalid => "invalid"

/-- `value`. -/
def value : ProviderNumericFact → Option Rat
  | .valid value => some value
  | _ => none

end ProviderNumericFact

/-- `_valid_currency`. -/
def validCurrency (value : String) : Bool := (Currency.ofText (upper (strip value))).isSome

/-- `_normalize_currency`. -/
def normalizeCurrency (value market : String) : String :=
  let currency := upper (strip value)
  if currency = "CNH" then "CNY"
  else if currency ≠ "" ∧ currency ≠ "N/A" then currency
  else if market = "HK" then "HKD"
  else if market = "US" then "USD"
  else "CNY"

/-- `FutuPositionSnapshot`, as its constructor leaves it. -/
structure FutuPositionSnapshot where
  /-- `asset_id` -/
  assetId : String
  /-- `asset_name` -/
  assetName : String
  /-- `security_type` -/
  securityType : String
  /-- `quantity_fact` -/
  quantity : ProviderNumericFact
  /-- `average_cost_fact` -/
  averageCost : ProviderNumericFact
  /-- `currency` -/
  currency : String
  /-- `market` -/
  market : String
  /-- `position_side` -/
  positionSide : String
  /-- `raw_code` -/
  rawCode : String
  /-- `currency_explicit` -/
  currencyExplicit : Bool
  /-- `currency_valid` -/
  currencyValid : Bool
  /-- a currency is valid when it is stated and known -/
  currencyValid_eq : currencyValid = (currencyExplicit && validCurrency currency)

/-- `security_type in ELIGIBLE_SECURITY_TYPES`. -/
def FutuPositionSnapshot.eligible (p : FutuPositionSnapshot) : Bool :=
  p.securityType = "STOCK" || p.securityType = "ETF"

/-- `asset_class_for_economic_exposure`. -/
def assetClassForEconomicExposure : AssetType → Option AssetClass
  | .aStock => some .cnAsset
  | .cash | .mmf => some .cash
  | _ => none

/-- `_target_descriptor`: the type, the currency and the class of a new holding. -/
def targetDescriptor (p : FutuPositionSnapshot) :
    Except String (AssetType × String × Option AssetClass) :=
  let market := upper p.market
  let descriptor (assetType : AssetType) :=
    (assetType, normalizeCurrency p.currency market, assetClassForEconomicExposure assetType)
  if p.securityType = "ETF" then .ok (descriptor .exchangeFund)
  else if market = "HK" then .ok (descriptor .hkStock)
  else if market = "US" then .ok (descriptor .usStock)
  else if market = "SH" ∨ market = "SZ" ∨ market = "CN" then .ok (descriptor .aStock)
  else .error ("unsupported Futu market for stock sync: " ++ market)

/-! ## Validation -/

namespace FutuPositionSnapshot

variable (p : FutuPositionSnapshot)

/-- The name of a position in the error texts. -/
def subject (index : Nat) : String :=
  if p.rawCode ≠ "" then p.rawCode
  else if p.assetId ≠ "" then p.assetId
  else "row[" ++ toString index ++ "]"

/-- The identity of a position is there and new. -/
def identityErrors (seen : List String) : List String :=
  if p.assetId = "" ∨ p.rawCode = "" then ["identity_missing"]
  else if p.assetId ∈ seen then ["duplicate_normalized_identity"]
  else []

/-- An eligible position is a long one. -/
def sideErrors (quantity : Rat) : List String :=
  if p.positionSide = "SHORT" ∨ quantity < 0 then ["short stock/ETF position"]
  else if p.positionSide ≠ "LONG" then ["position_side_unknown"]
  else []

/-- An eligible position that is not empty has a cost. -/
def costErrors (quantity : Rat) : List String :=
  match p.averageCost with
  | .invalid => ["average_cost_invalid"]
  | .missing => if quantity ≠ 0 then ["average_cost_missing"] else []
  | .valid cost => if quantity ≠ 0 ∧ cost < 0 then ["average_cost_negative"] else []

/-- A stated currency is known. -/
def currencyErrors : List String :=
  if p.currencyExplicit && !p.currencyValid then ["currency_invalid"] else []

/-- A stated market is one of those the service places. -/
def marketErrors : List String :=
  if p.market = "" then [] else
    match targetDescriptor p with
    | .ok _ => []
    | .error _ => ["market_unsupported"]

/-- The errors of a position. -/
def errors (seen : List String) : List String :=
  p.identityErrors seen ++
    match p.quantity with
    | .valid quantity =>
      (if p.market = "" then ["market_missing"] else []) ++
        if p.securityType = "" ∨ p.securityType = "N/A" then ["security_type_missing"]
        else if p.eligible then
          p.sideErrors quantity ++ p.costErrors quantity ++ p.currencyErrors ++ p.marketErrors
        else []
    | fact => ["quantity_" ++ fact.state]

end FutuPositionSnapshot

/-- The errors of a slice from a row on. -/
def sliceErrors : List FutuPositionSnapshot → Nat → List String → List String
  | [], _, _ => []
  | p :: positions, index, seen =>
    (p.errors seen).map (fun error => p.subject index ++ ":" ++ error) ++
      sliceErrors positions (index + 1)
        (if p.assetId = "" ∨ p.rawCode = "" then seen else p.assetId :: seen)

/-- `_validate_authoritative_positions`. -/
def validateAuthoritativePositions (positions : List FutuPositionSnapshot) : Except String Unit :=
  if sliceErrors positions 0 [] = [] then .ok ()
  else .error ("invalid authoritative Futu position slice: " ++
    "; ".intercalate (sliceErrors positions 0 []))

/-! ## What a validated slice holds -/

/-- What the comparison with the holdings relies on. -/
structure FutuPositionSnapshot.Sound (p : FutuPositionSnapshot) : Prop where
  /-- there is a quantity, and a cost unless it is zero -/
  numbers : ∃ quantity, p.quantity = .valid quantity ∧
    (quantity ≠ 0 → ∃ cost, p.averageCost = .valid cost)
  /-- a stated currency is known -/
  currency : p.currencyExplicit = true → validCurrency p.currency = true
  /-- the position can be placed -/
  placed : ∃ descriptor, targetDescriptor p = .ok descriptor

theorem sound_of_no_errors {p : FutuPositionSnapshot} {seen : List String} (h : p.errors seen = [])
    (heligible : p.eligible = true) : p.Sound := by
  unfold FutuPositionSnapshot.errors at h
  obtain ⟨-, h⟩ := List.append_eq_nil_iff.mp h
  cases hquantity : p.quantity with
  | missing | invalid =>
    rw [hquantity] at h
    cases h
  | valid quantity =>
    rw [hquantity] at h
    obtain ⟨hmarket, h⟩ := List.append_eq_nil_iff.mp h
    have hnonblank : p.market ≠ "" := fun hblank => by
      rw [if_pos hblank] at hmarket
      cases hmarket
    have htype : ¬ (p.securityType = "" ∨ p.securityType = "N/A") := fun hmissing => by
      rw [if_pos hmissing] at h
      cases h
    rw [if_neg htype, if_pos heligible] at h
    obtain ⟨h, hplaced⟩ := List.append_eq_nil_iff.mp h
    obtain ⟨h, hcurrency⟩ := List.append_eq_nil_iff.mp h
    obtain ⟨-, hcost⟩ := List.append_eq_nil_iff.mp h
    refine ⟨⟨quantity, hquantity, fun hne => ?_⟩, fun hexplicit => ?_, ?_⟩
    · unfold FutuPositionSnapshot.costErrors at hcost
      cases hfact : p.averageCost with
      | valid cost => exact ⟨cost, rfl⟩
      | missing =>
        rw [hfact] at hcost
        simp only [if_pos hne] at hcost
        cases hcost
      | invalid =>
        rw [hfact] at hcost
        cases hcost
    · unfold FutuPositionSnapshot.currencyErrors at hcurrency
      rw [p.currencyValid_eq, hexplicit] at hcurrency
      by_contra hinvalid
      rw [Bool.not_eq_true] at hinvalid
      rw [hinvalid] at hcurrency
      cases hcurrency
    · unfold FutuPositionSnapshot.marketErrors at hplaced
      rw [if_neg hnonblank] at hplaced
      cases hdescriptor : targetDescriptor p with
      | ok descriptor => exact ⟨descriptor, rfl⟩
      | error error =>
        rw [hdescriptor] at hplaced
        cases hplaced

theorem sound_of_sliceErrors {positions : List FutuPositionSnapshot} {index : Nat} {seen : List String}
    (h : sliceErrors positions index seen = []) {p : FutuPositionSnapshot} (hp : p ∈ positions)
    (heligible : p.eligible = true) : p.Sound := by
  induction positions generalizing index seen with
  | nil => cases hp
  | cons q positions ih =>
    obtain ⟨hfirst, hrest⟩ := List.append_eq_nil_iff.mp h
    rcases List.mem_cons.mp hp with rfl | hp
    · exact sound_of_no_errors (List.map_eq_nil_iff.mp hfirst) heligible
    · exact ih hrest hp

/-- The eligible positions of a validated slice are sound. -/
theorem sound_of_validated {positions : List FutuPositionSnapshot}
    (h : validateAuthoritativePositions positions = .ok ()) {p : FutuPositionSnapshot}
    (hp : p ∈ positions) (heligible : p.eligible = true) : p.Sound := by
  unfold validateAuthoritativePositions at h
  split at h
  · next hnone => exact sound_of_sliceErrors hnone hp heligible
  · cases h

end PortfolioManagement.Futu
