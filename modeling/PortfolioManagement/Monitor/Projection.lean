import PortfolioManagement.Lib.Dict
import PortfolioManagement.Ledger.Raw

/-!
# Rows of a holdings observation

`project_record` reads a raw row of the holdings table for the change monitor: the snapshot it
compares, whether the row is outside what is monitored, and what keeps it from being compared.
Numbers are kept by value, where the code keeps their canonical texts.
-/

namespace PortfolioManagement.Monitor

open Ledger (Cell)

/-- What the readers of a row take from the standard library. Nothing is assumed about it. -/
structure ValueRuntime where
  /-- `str` of a float, a `Decimal`, a NaN or an infinity -/
  numberText : Cell → String
  /-- `str.lower` -/
  lower : String → String
  /-- `str.upper` -/
  upper : String → String
  /-- `str.isalnum` of a character -/
  isAlnum : Char → Bool

/-- `RawHoldingRecord`: one untyped source row. -/
structure RawHoldingRecord where
  /-- `record_id` -/
  recordId : String
  /-- `raw_fields` -/
  rawFields : Items String Cell
deriving DecidableEq

/-- `raw_fields.get(name)`. -/
def RawHoldingRecord.get (record : RawHoldingRecord) (name : String) : Cell :=
  (record.rawFields.lookup name).getD .null

/-! ## Values -/

/-- `s.replace(c, "")` of one character. -/
def without (c : Char) (s : String) : String := String.ofList (s.toList.filter (· ≠ c))

/-- `s.startswith(start)`. -/
def startsWith (s start : String) : Bool := start.toList.isPrefixOf s.toList

/-- `normalized or None`. -/
def nonblank (s : String) : Option String := if strip s = "" then none else some (strip s)

/-- `holding_text`. -/
def holdingText (rt : ValueRuntime) : Cell → Option String
  | .text s => nonblank s
  | .int n => nonblank (toString n)
  | .bool b => some (if b then "True" else "False")
  | .float x => nonblank (rt.numberText (.float x))
  | .decimal x => nonblank (rt.numberText (.decimal x))
  | .nonFinite => nonblank (rt.numberText .nonFinite)
  | .null | .date _ | .datetime .. | .other .. => none

/-- `holding_decimal`. -/
def holdingDecimal : Cell → Option Decimal
  | .text s => if strip s = "" then none else Decimal.ofText (strip (without ',' s))
  | .int n => some (.ofInt n)
  | .float x => some x
  | .decimal x => some x
  | .null | .bool _ | .nonFinite | .date _ | .datetime .. | .other .. => none

/-- The exact value of a decimal, which `canonical_holding_number` writes out. -/
def canonicalHoldingNumber (x : Decimal) : Rat :=
  if 0 ≤ x.exponent then (x.coefficient * 10 ^ x.exponent.toNat : Int)
  else mkRat x.coefficient (10 ^ (-x.exponent).toNat)

/-- The answers of `holding_broker_scope`. -/
inductive BrokerScope
  | unknown | futu | nonFutu
deriving DecidableEq

/-- The starts of the names that are no broker. -/
def unknownBrokerStarts : List String :=
  ["unknown", "未知", "其他", "其它", "other", "manual", "手动", "未指定", "待确认"]

/-- `holding_broker_scope`. -/
def holdingBrokerScope (rt : ValueRuntime) : Option String → BrokerScope
  | none => .unknown
  | some value =>
    let narrow := (strip value).toList.map fun c => if c = '（' then '(' else if c = '）' then ')' else c
    let compact := rt.lower (without '　' (without ' ' (String.ofList narrow)))
    if compact = "" ∨ compact ∈ ["n/a", "na", "none", "null"] ∨
        unknownBrokerStarts.any (startsWith compact) ∨
        ¬ compact.toList.any rt.isAlnum then .unknown
    else if ["moomoo", "富途", "futu"].any (startsWith compact) then .futu
    else .nonFutu

/-- The values of `AssetType`. -/
def assetTypeValues : List String :=
  ["a_stock", "hk_stock", "us_stock", "fund", "exchange_fund", "otc_fund", "cn_fund", "us_fund",
    "hk_fund", "cash", "mmf", "crypto", "bond", "other"]

/-- `SUPPORTED_TYPES`. -/
def supportedTypes : List String :=
  ["a_stock", "hk_stock", "us_stock", "exchange_fund", "otc_fund", "us_fund", "cn_fund", "hk_fund",
    "fund"]

/-- `HOLDING_CURRENCIES`. -/
def holdingCurrencies : List String :=
  ["ADP", "AED", "AFA", "AFN", "ALK", "ALL", "AMD", "ANG", "AOA", "AOK", "AON", "AOR", "ARA",
    "ARL", "ARM", "ARP", "ARS", "ATS", "AUD", "AWG", "AZM", "AZN", "BAD", "BAM", "BAN", "BBD",
    "BDT", "BEC", "BEF", "BEL", "BGL", "BGM", "BGN", "BGO", "BHD", "BIF", "BMD", "BND", "BOB",
    "BOL", "BOP", "BOV", "BRB", "BRC", "BRE", "BRL", "BRN", "BRR", "BRZ", "BSD", "BTN", "BUK",
    "BWP", "BYB", "BYN", "BYR", "BZD", "CAD", "CDF", "CHE", "CHF", "CHW", "CLE", "CLF", "CLP",
    "CNH", "CNX", "CNY", "COP", "COU", "CRC", "CSD", "CSK", "CUC", "CUP", "CVE", "CYP", "CZK",
    "DDM", "DEM", "DJF", "DKK", "DOP", "DZD", "ECS", "ECV", "EEK", "EGP", "ERN", "ESA", "ESB",
    "ESP", "ETB", "EUR", "FIM", "FJD", "FKP", "FRF", "GBP", "GEK", "GEL", "GHC", "GHS", "GIP",
    "GMD", "GNF", "GNS", "GQE", "GRD", "GTQ", "GWE", "GWP", "GYD", "HKD", "HNL", "HRD", "HRK",
    "HTG", "HUF", "IDR", "IEP", "ILP", "ILR", "ILS", "INR", "IQD", "IRR", "ISJ", "ISK", "ITL",
    "JMD", "JOD", "JPY", "KES", "KGS", "KHR", "KMF", "KPW", "KRH", "KRO", "KRW", "KWD", "KYD",
    "KZT", "LAK", "LBP", "LKR", "LRD", "LSL", "LSM", "LTL", "LTT", "LUC", "LUF", "LUL", "LVL",
    "LVR", "LYD", "MAD", "MAF", "MCF", "MDC", "MDL", "MGA", "MGF", "MKD", "MKN", "MLF", "MMK",
    "MNT", "MOP", "MRO", "MRU", "MTL", "MTP", "MUR", "MVP", "MVR", "MWK", "MXN", "MXP", "MXV",
    "MYR", "MZE", "MZM", "MZN", "NAD", "NGN", "NIC", "NIO", "NLG", "NOK", "NPR", "NZD", "OMR",
    "PAB", "PEI", "PEN", "PES", "PGK", "PHP", "PKR", "PLN", "PLZ", "PTE", "PYG", "QAR", "RHD",
    "ROL", "RON", "RSD", "RUB", "RUR", "RWF", "SAR", "SBD", "SCR", "SDD", "SDG", "SDP", "SEK",
    "SGD", "SHP", "SIT", "SKK", "SLE", "SLL", "SOS", "SRD", "SRG", "SSP", "STD", "STN", "SUR",
    "SVC", "SYP", "SZL", "THB", "TJR", "TJS", "TMM", "TMT", "TND", "TOP", "TPE", "TRL", "TRY",
    "TTD", "TWD", "TZS", "UAH", "UAK", "UGS", "UGX", "USD", "USN", "USS", "UYI", "UYP", "UYU",
    "UYW", "UZS", "VEB", "VED", "VEF", "VES", "VND", "VNN", "VUV", "WST", "XAF", "XAG", "XAU",
    "XBA", "XBB", "XBC", "XBD", "XCD", "XCG", "XDR", "XEU", "XFO", "XFU", "XOF", "XPD", "XPF",
    "XPT", "XRE", "XSU", "XUA", "YDD", "YER", "YUD", "YUM", "YUN", "YUR", "ZAL", "ZAR", "ZMK",
    "ZMW", "ZRN", "ZRZ", "ZWD", "ZWG", "ZWL", "ZWR"]

/-- `is_known_holding_currency`. -/
def isKnownHoldingCurrency (rt : ValueRuntime) (value : String) : Bool :=
  rt.upper (strip value) ∈ holdingCurrencies

/-! ## Snapshots -/

/-- What the monitor keeps of a row. -/
structure HoldingSnapshot where
  /-- `asset_id` -/
  assetId : Option String
  /-- `account` -/
  account : Option String
  /-- `broker` -/
  broker : Option String
  /-- `asset_type`, in lower case -/
  assetType : String
  /-- `currency`, in upper case -/
  currency : String
  /-- `asset_name` -/
  assetName : Option String
  /-- `quantity` -/
  quantity : Option Rat
  /-- `avg_cost` -/
  avgCost : Option Rat
deriving DecidableEq

/-- The business identity of a row: its asset, account and broker. -/
abbrev Identity := String × String × String

/-- `identity(snapshot)`; the empty mapping is `none`. -/
def identity : Option HoldingSnapshot → Identity
  | some s => (s.assetId.getD "", s.account.getD "", s.broker.getD "")
  | none => ("", "", "")

/-- All identity fields are there. -/
def HoldingSnapshot.identified (s : HoldingSnapshot) : Bool :=
  s.assetId.isSome && s.account.isSome && s.broker.isSome

/-- `_positive`. -/
def positive : Option HoldingSnapshot → Bool
  | some s => match s.quantity with
    | some q => 0 < q
    | none => false
  | none => false

/-- What `project_record` returns. -/
structure Projection where
  /-- `snapshot` -/
  snapshot : HoldingSnapshot
  /-- `excluded` -/
  excluded : Bool
  /-- `reason` -/
  reason : Option String

/-- `eligible`. -/
def Projection.eligible (item : Projection) : Bool := !item.excluded && item.reason.isNone

section
variable (rt : ValueRuntime) (accounts : List String)

/-- The snapshot of `project_record`. -/
def projectSnapshot (record : RawHoldingRecord) : HoldingSnapshot where
  assetId := holdingText rt (record.get "asset_id")
  account := holdingText rt (record.get "account")
  broker := holdingText rt (record.get "broker")
  assetType := rt.lower ((holdingText rt (record.get "asset_type")).getD "")
  currency := rt.upper ((holdingText rt (record.get "currency")).getD "")
  assetName := holdingText rt (record.get "asset_name")
  quantity := (holdingDecimal (record.get "quantity")).map canonicalHoldingNumber
  avgCost := (holdingDecimal (record.get "avg_cost")).map canonicalHoldingNumber

/-- The row is outside what is monitored. -/
def excludedSnapshot (s : HoldingSnapshot) : Bool :=
  (match s.account with
    | some account => account ∉ accounts
    | none => false) ||
  holdingBrokerScope rt s.broker = .futu ||
  (s.assetType ∈ assetTypeValues && s.assetType ∉ supportedTypes)

/-- What keeps a monitored row from being compared. -/
def snapshotProblem (s : HoldingSnapshot) : Option String :=
  if ¬ s.identified ∨ s.assetType = "" ∨ s.currency = "" ∨ holdingBrokerScope rt s.broker ≠ .nonFutu then
    some "incomplete_identity"
  else if s.assetType ∉ supportedTypes then some "invalid_asset_type"
  else if ¬ isKnownHoldingCurrency rt s.currency then some "invalid_currency"
  else match s.quantity with
    | none => some "invalid_quantity"
    | some q => if q < 0 then some "invalid_quantity" else none

/-- `project_record`. -/
def projectRecord (record : RawHoldingRecord) : Projection :=
  let s := projectSnapshot rt record
  let excluded := excludedSnapshot rt accounts s
  ⟨s, excluded, if excluded then none else snapshotProblem rt s⟩

end

/-- The identity of a row for `duplicate_holding_groups`. -/
def groupIdentity (rt : ValueRuntime) (record : RawHoldingRecord) : Option Identity :=
  match holdingText rt (record.get "asset_id"), holdingText rt (record.get "account"),
    holdingText rt (record.get "broker") with
  | some assetId, some account, some broker => some (assetId, account, broker)
  | _, _, _ => none

/-- `duplicate_holding_groups`. -/
def duplicateHoldingGroups (rt : ValueRuntime) (records : List RawHoldingRecord) :
    Items Identity (List RawHoldingRecord) :=
  let grouped := records.foldl (fun grouped record =>
    match groupIdentity rt record with
    | some key => Items.update (· ++ [record]) [] key grouped
    | none => grouped) []
  grouped.filter fun group => 1 < group.2.length

end PortfolioManagement.Monitor
