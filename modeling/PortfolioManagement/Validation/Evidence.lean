import PortfolioManagement.Monitor.Projection

/-!
# Evidence for raw holdings

A validation judges the rows of the holdings table against what Futu, the fund quotes and the Hong
Kong quotes say. `futu_position` finds the position of a row: it applies to the rows whose broker has
the Futu scope, and names why there is none.
-/

namespace PortfolioManagement.Validation

open Ledger (Cell)
open Monitor (ValueRuntime RawHoldingRecord holdingText holdingBrokerScope nonblank)

/-- The letters of a lower-case name: a small ASCII letter or an underscore. -/
def isSmall (c : Char) : Bool := ('a' ≤ c && c ≤ 'z') || c = '_'

/-- `[A-Z]`. -/
def isCapital (c : Char) : Bool := 'A' ≤ c && c ≤ 'Z'

/-- Characters without case: the blanks and the wide brackets that a broker's name drops, and those that
stand in every text of a list, of a mapping and of a date. -/
def caseless : List Char := [' ', '　', '（', '）', '[', '\x7b', '-']

/-- The standard library's text functions, with the documented behaviour the results rest on. -/
structure TextRuntime extends ValueRuntime where
  /-- a text in lower case stays as it is -/
  lower_small : ∀ s : String, s.toList.all isSmall → lower s = s
  /-- a text in upper case stays as it is -/
  upper_capital : ∀ s : String, s.toList.all isCapital → upper s = s
  /-- a character without case stays -/
  lower_caseless : ∀ (s : String) (c : Char), c ∈ caseless → c ∈ s.toList → c ∈ (lower s).toList
  /-- small letters and ideographs are alphanumeric -/
  isAlnum_letter : ∀ c ∈ ['f', 'm', '富'], isAlnum c

section
variable (rt : TextRuntime)

/-- `_FUTU_MARKETS`. -/
def futuMarkets : List String := ["US", "HK", "SH", "SZ", "CN"]

/-- `text.split(sep, 1)` of a text that has the separator. -/
def splitFirst (c : Char) (s : String) : String × String :=
  (String.ofList (s.toList.takeWhile (· ≠ c)), String.ofList (s.toList.dropWhile (· ≠ c)).tail)

/-- `text.rsplit(sep, 1)` of a text that has the separator. -/
def splitLast (c : Char) (s : String) : String × String :=
  (String.ofList ((s.toList.reverse.dropWhile (· ≠ c)).tail).reverse,
    String.ofList (s.toList.reverse.takeWhile (· ≠ c)).reverse)

/-- `_futu_asset_identity`: a symbol and its market, if the text names one. -/
def futuAssetIdentity (value : String) : String × Option String :=
  let normalized := rt.upper (strip value)
  if normalized = "" then ("", none)
  else if '.' ∈ normalized.toList then
    let (first, remainder) := splitFirst '.' normalized
    if first ∈ futuMarkets ∧ remainder ≠ "" then (remainder, some first)
    else
      let (remainder, last) := splitLast '.' normalized
      if last ∈ futuMarkets ∧ remainder ≠ "" then (remainder, some last) else (normalized, none)
  else (normalized, none)

/-- `FutuPositionEvidence`. -/
structure FutuPositionEvidence where
  /-- `asset_id` -/
  assetId : String
  /-- `raw_code` -/
  rawCode : String
  /-- `asset_name` -/
  assetName : String
  /-- `security_type` -/
  securityType : String
  /-- `market` -/
  market : String
  /-- `currency` -/
  currency : Option String
  /-- `currency_explicit` -/
  currencyExplicit : Bool
deriving DecidableEq

namespace FutuPositionEvidence

/-- The market of a position: that of its code, or the one it states. -/
def symbolAndMarket (position : FutuPositionEvidence) : String × Option String :=
  let (symbol, market) :=
    futuAssetIdentity rt (if position.rawCode = "" then position.assetId else position.rawCode)
  match market with
  | some market => (symbol, some market)
  | none =>
    let explicit := rt.upper (strip position.market)
    (symbol, if explicit ∈ futuMarkets then some explicit else none)

/-- `matches`. -/
def matchesAsset (position : FutuPositionEvidence) (rawAssetId : String) : Bool :=
  let (targetSymbol, targetMarket) := futuAssetIdentity rt rawAssetId
  let (evidenceSymbol, evidenceMarket) := position.symbolAndMarket rt
  if targetSymbol = "" ∨ targetSymbol ≠ evidenceSymbol then false
  else match targetMarket, evidenceMarket with
    | some target, some evidence => target = evidence
    | _, _ => true

/-- `authority_identity`. -/
def authorityIdentity (position : FutuPositionEvidence) : String :=
  let (symbol, market) := position.symbolAndMarket rt
  market.getD "UNQUALIFIED" ++ ":" ++ symbol

end FutuPositionEvidence

/-- `FutuAccountEvidence`. -/
structure FutuAccountEvidence where
  /-- `account` -/
  account : String
  /-- `source` -/
  source : String
  /-- `source_snapshot_id` -/
  sourceSnapshotId : String
  /-- `source_as_of` -/
  sourceAsOf : String
  /-- `positions` -/
  positions : List FutuPositionEvidence
  /-- `profile_fingerprint` -/
  profileFingerprint : String
  /-- `account_fingerprint` -/
  accountFingerprint : String
deriving DecidableEq

/-- Why a row has a position or has none. -/
inductive FutuReason
  | notApplicable
  | observationFailed
  | notObserved
  | positionNotFound
  | positionAmbiguous
  | positionExact
deriving DecidableEq, Repr

/-- `exact_position`. -/
def FutuAccountEvidence.exactPosition (evidence : FutuAccountEvidence) (assetId : String) :
    Option FutuPositionEvidence × FutuReason :=
  match evidence.positions.filter fun position => position.matchesAsset rt assetId with
  | [] => (none, .positionNotFound)
  | [position] => (some position, .positionExact)
  | _ :: _ :: _ => (none, .positionAmbiguous)

/-- A verified fund quote that names a fund: its name is a text, stripped. -/
structure FundName where
  /-- `name` -/
  name : String
  /-- `code` -/
  code : String
  /-- `source` -/
  source : String
  /-- the whole mapping -/
  payload : Items String Cell
  /-- the name is there -/
  nonblank : strip name ≠ ""
  /-- the mapping names it -/
  named : payload.lookup "name" = some (.text name)
deriving DecidableEq

/-- `HoldingsEvidenceBundle`. -/
structure HoldingsEvidenceBundle where
  /-- `futu_by_account` -/
  futuByAccount : Items String FutuAccountEvidence
  /-- `source_errors` -/
  sourceErrors : Items String String
  /-- `fund_names` -/
  fundNames : Items String FundName
  /-- `hk_stock_names` -/
  hkStockNames : Items String (Items String Cell)
deriving DecidableEq

/-- `_is_futu_broker`. -/
def isFutuBroker (broker : Option String) : Bool := holdingBrokerScope rt.toValueRuntime broker = .futu

/-- `futu_position`. -/
def HoldingsEvidenceBundle.futuPosition (bundle : HoldingsEvidenceBundle)
    (account broker assetId : Option String) :
    Option FutuPositionEvidence × Option FutuAccountEvidence × FutuReason :=
  match account, assetId with
  | some account, some assetId =>
    if ¬ isFutuBroker rt broker then (none, none, .notApplicable)
    else match bundle.futuByAccount.lookup account with
      | none =>
        let observed := (bundle.sourceErrors.lookup account).isSome
        (none, none, if observed then .observationFailed else .notObserved)
      | some evidence =>
        let (position, reason) := evidence.exactPosition rt assetId
        (position, some evidence, reason)
  | _, _ => (none, none, .notApplicable)

end

end PortfolioManagement.Validation
