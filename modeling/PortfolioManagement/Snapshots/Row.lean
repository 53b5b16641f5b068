import Mathlib.Data.List.Lex
import Mathlib.Data.String.Basic
import Mathlib.Tactic.Ring
import PortfolioManagement.Lib.FixedPoint
import PortfolioManagement.Lib.Keyed
import PortfolioManagement.Lib.Lists
import PortfolioManagement.Domain.Keys

/-!
# Rows of a holdings snapshot

A snapshot row carries floats; its canonical payload carries their canonical decimal texts. A float is
modelled by the decimal that `str` writes of it. The text determines the float, and an integral float
from `10 ^ 28` on has none: `quantize` refuses more digits than the context has.
-/

namespace PortfolioManagement

namespace Decimal

/-- `x == x.to_integral()`. -/
def IsIntegral (x : Decimal) : Prop :=
  0 ≤ x.exponent ∨ x.coefficient % 10 ^ (-x.exponent).toNat = 0

instance (x : Decimal) : Decidable x.IsIntegral :=
  inferInstanceAs (Decidable (0 ≤ x.exponent ∨ x.coefficient % 10 ^ (-x.exponent).toNat = 0))

/-- A decimal without trailing zeros. -/
def Stripped (x : Decimal) : Prop := x = ⟨0, 0⟩ ∨ x.coefficient % 10 ≠ 0

instance (x : Decimal) : Decidable x.Stripped :=
  inferInstanceAs (Decidable (x = ⟨0, 0⟩ ∨ x.coefficient % 10 ≠ 0))

variable {x y : Decimal}

/-- A stripped decimal that is an integer has no digits behind the point. -/
theorem Stripped.isIntegral_iff (h : x.Stripped) : x.IsIntegral ↔ 0 ≤ x.exponent := by
  refine ⟨fun hint => ?_, .inl⟩
  by_contra hexp
  have hdvd := hint.resolve_left hexp
  rcases h with rfl | hmod
  · exact hexp le_rfl
  · obtain ⟨k, hk⟩ : ∃ k, (-x.exponent).toNat = k + 1 := ⟨(-x.exponent).toNat - 1, by omega⟩
    rw [hk, pow_succ] at hdvd
    exact hmod (Int.emod_eq_zero_of_dvd
      ((Dvd.intro_left _ rfl).trans (Int.dvd_of_emod_eq_zero hdvd)))

/-- Normalizing keeps a stripped decimal that fits the precision. -/
theorem Stripped.normalize_eq (h : x.Stripped) (hfits : x.coefficient.natAbs < 10 ^ precision) :
    normalize x = x := by
  unfold normalize
  simp only [fix_of_lt hfits]
  rcases h with rfl | hmod
  · rfl
  · rw [if_neg (by rintro hzero; exact hmod (by rw [hzero]; rfl))]
    unfold precision strippedZeros
    rw [if_neg hmod]

theorem Stripped.exponent_le (hx : x.Stripped) (hy : y.coefficient ≠ 0)
    (h : x.coefficient * 10 ^ x.exponent.toNat = y.coefficient * 10 ^ y.exponent.toNat) :
    y.exponent.toNat ≤ x.exponent.toNat := by
  by_contra hlt
  obtain ⟨k, hk⟩ : ∃ k, y.exponent.toNat = x.exponent.toNat + (k + 1) :=
    ⟨y.exponent.toNat - x.exponent.toNat - 1, by omega⟩
  have hpos : (10 : Int) ^ x.exponent.toNat ≠ 0 := pow_ne_zero _ (by decide)
  have hcoefficient : x.coefficient = y.coefficient * 10 ^ k * 10 := by
    refine mul_right_cancel₀ hpos ?_
    rw [h, hk, pow_add, pow_succ]
    ring
  rcases hx with rfl | hmod
  · have hzero : y.coefficient * 10 ^ k = 0 := by
      have hprod : (0 : Int) = y.coefficient * 10 ^ k * 10 := hcoefficient
      omega
    rcases mul_eq_zero.mp hzero with hzero | hzero
    · exact hy hzero
    · exact absurd hzero (pow_ne_zero _ (by decide))
  · exact hmod (by rw [hcoefficient, Int.mul_emod_left])

/-- What a fixed-point text denotes determines a stripped decimal. -/
theorem expanded_injective (hx : x.Stripped) (hy : y.Stripped) (h : expanded x = expanded y) :
    x = y := by
  unfold expanded at h
  by_cases hxe : 0 ≤ x.exponent <;> by_cases hye : 0 ≤ y.exponent
  · rw [if_pos hxe, if_pos hye] at h
    have hvalue := congrArg Decimal.coefficient h
    simp only at hvalue
    have hpow : ∀ n : Nat, (10 : Int) ^ n ≠ 0 := fun n => pow_ne_zero _ (by decide)
    by_cases hzero : x.coefficient = 0
    · have hyzero : y.coefficient = 0 := by
        rw [hzero, zero_mul] at hvalue
        exact (mul_eq_zero.mp hvalue.symm).resolve_right (hpow _)
      have heq : ∀ z : Decimal, z.Stripped → z.coefficient = 0 → z = ⟨0, 0⟩ := fun z hz hcoefficient =>
        hz.resolve_right fun hmod => hmod (by rw [hcoefficient]; rfl)
      rw [heq x hx hzero, heq y hy hyzero]
    · have hyzero : y.coefficient ≠ 0 := by
        intro hyzero
        rw [hyzero, zero_mul] at hvalue
        exact hzero ((mul_eq_zero.mp hvalue).resolve_right (hpow _))
      have hle := hx.exponent_le hyzero hvalue
      have hge := hy.exponent_le hzero hvalue.symm
      have hexp : x.exponent.toNat = y.exponent.toNat := le_antisymm hge hle
      rw [hexp] at hvalue
      have hcoefficient := mul_right_cancel₀ (hpow _) hvalue
      cases x
      cases y
      simp only [Decimal.mk.injEq] at hcoefficient hexp hxe hye ⊢
      exact ⟨hcoefficient, by omega⟩
  · rw [if_pos hxe, if_neg hye] at h
    exact absurd (by rw [← h]) hye
  · rw [if_neg hxe, if_pos hye] at h
    exact absurd (by rw [h]) hxe
  · rwa [if_neg hxe, if_neg hye] at h

end Decimal

namespace Snapshots

/-! ## Errors -/

/-- The sets whose rows are validated. -/
inductive SetLabel
  | before | desired | current
deriving DecidableEq, Repr

/-- `snapshot_business_key`. -/
structure BusinessKey where
  /-- `as_of` -/
  asOf : String
  /-- `account` -/
  account : String
  /-- `asset_id` -/
  assetId : String
  /-- `broker` -/
  broker : String
deriving DecidableEq, Repr

/-- What the contracts raise. -/
inductive SnapshotError
  /-- `decimal.InvalidOperation` of a canonical text -/
  | invalidOperation
  /-- holdings snapshot row scope mismatch -/
  | scopeMismatch (key : BusinessKey)
  /-- `snapshot_dedup_key` refuses the fields -/
  | dedupKeyFields (error : Error)
  /-- holdings snapshot dedup_key mismatch -/
  | dedupKeyMismatch (expected actual : String)
  /-- snapshot plan row requires record_id -/
  | recordIdRequired (label : SetLabel)
  /-- snapshot plan set contains duplicate business keys -/
  | duplicateKeys (label : SetLabel)
  /-- snapshot plan set contains duplicate record_ids -/
  | duplicateRecordIds (label : SetLabel)
  /-- snapshot remote set contains unbound keys -/
  | unboundKeys (keys : List BusinessKey)
  /-- bound snapshot row disappeared before target completion -/
  | disappeared (key : BusinessKey)
  /-- bound snapshot record_id changed -/
  | recordIdChanged (key : BusinessKey)
  /-- bound snapshot row matches neither before nor target -/
  | matchesNeither (key : BusinessKey)
  /-- new snapshot row does not match the bound target -/
  | newRowDiffers (key : BusinessKey)
  /-- obsolete snapshot row changed before deletion -/
  | obsoleteChanged (key : BusinessKey)
deriving DecidableEq, Repr

/-! ## Canonical numbers -/

/-- `canonical_decimal` of a number. -/
def canonicalDecimal (x : Decimal) : Except SnapshotError String :=
  if x.coefficient = 0 then .ok "0"
  else if x.IsIntegral then
    match x.quantize 0 with
    | some c => .ok (Decimal.fixedPoint ⟨c, 0⟩)
    | none => .error .invalidOperation
  else .ok (Decimal.fixedPoint x.normalize)

/-- `canonical_decimal` of an optional number. -/
def canonicalOptional : Option Decimal → Except SnapshotError (Option String)
  | none => .ok none
  | some x => (canonicalDecimal x).map some

/-- A finite float, as the decimal that `str` writes of it: at most 17 digits and no trailing zeros. -/
structure FloatValue where
  /-- the decimal -/
  decimal : Decimal
  /-- no trailing zeros -/
  stripped : decimal.Stripped
  /-- at most 17 digits -/
  short : decimal.coefficient.natAbs < 10 ^ 17
deriving DecidableEq

namespace FloatValue

theorem ext {x y : FloatValue} (h : x.decimal = y.decimal) : x = y := by
  cases x
  cases y
  cases h
  rfl

/-- A float with a canonical text: not an integer of more than 28 digits. -/
def Encodable (x : FloatValue) : Prop := x.decimal.expanded.coefficient.natAbs < 10 ^ Decimal.precision

instance (x : FloatValue) : Decidable x.Encodable :=
  inferInstanceAs (Decidable (x.decimal.expanded.coefficient.natAbs < 10 ^ Decimal.precision))

variable {x y : FloatValue}

theorem fits : x.decimal.coefficient.natAbs < 10 ^ Decimal.precision :=
  x.short.trans (by decide)

theorem encodable_of_nonneg (hexp : 0 ≤ x.decimal.exponent) : x.Encodable ↔
    (x.decimal.coefficient * 10 ^ x.decimal.exponent.toNat).natAbs < 10 ^ Decimal.precision := by
  unfold Encodable Decimal.expanded
  rw [if_pos hexp]

theorem expanded_of_neg (hexp : ¬ 0 ≤ x.decimal.exponent) : x.decimal.expanded = x.decimal :=
  if_neg hexp

theorem encodable_of_neg (hexp : ¬ 0 ≤ x.decimal.exponent) : x.Encodable := by
  unfold Encodable
  rw [expanded_of_neg hexp]
  exact fits

/-- The canonical text is the fixed-point text. -/
theorem canonicalDecimal_eq : canonicalDecimal x.decimal =
    if x.Encodable then .ok (Decimal.fixedPoint x.decimal.expanded) else .error .invalidOperation := by
  unfold canonicalDecimal
  by_cases hzero : x.decimal.coefficient = 0
  · have heq : x.decimal = ⟨0, 0⟩ :=
      x.stripped.resolve_right fun hmod => hmod (by rw [hzero]; rfl)
    have hx : x.Encodable := by
      unfold Encodable
      rw [heq]
      decide
    rw [if_pos hzero, if_pos hx, heq]
    decide +kernel
  rw [if_neg hzero]
  by_cases hexp : 0 ≤ x.decimal.exponent
  · have hquantize : x.decimal.quantize 0 = if x.Encodable then
        some (x.decimal.coefficient * 10 ^ x.decimal.exponent.toNat) else none := by
      unfold Decimal.quantize
      simp only [if_pos hexp, sub_zero, Decimal.digitCount_le (by decide : Decimal.precision ≠ 0),
        encodable_of_nonneg hexp]
    rw [if_pos (x.stripped.isIntegral_iff.mpr hexp), hquantize, Decimal.expanded, if_pos hexp]
    by_cases hx : x.Encodable
    · rw [if_pos hx, if_pos hx]
    · rw [if_neg hx, if_neg hx]
  · rw [if_neg fun hint => hexp (x.stripped.isIntegral_iff.mp hint), x.stripped.normalize_eq fits,
      if_pos (encodable_of_neg hexp), expanded_of_neg hexp]

theorem canonicalDecimal_ok {text : String} (h : canonicalDecimal x.decimal = .ok text) :
    text = Decimal.fixedPoint x.decimal.expanded := by
  rw [canonicalDecimal_eq] at h
  by_cases hx : x.Encodable
  · rw [if_pos hx] at h
    exact (Except.ok.inj h).symm
  · rw [if_neg hx] at h
    cases h

theorem expanded_expanded (x : Decimal) : x.expanded.expanded = x.expanded := by
  unfold Decimal.expanded
  by_cases hexp : 0 ≤ x.exponent
  · rw [if_pos hexp, if_pos le_rfl]
    simp
  · rw [if_neg hexp, if_neg hexp]

/-- A canonical text is read back. -/
theorem ofText_canonicalDecimal {text : String} (h : canonicalDecimal x.decimal = .ok text) :
    Decimal.ofText text = some x.decimal.expanded := by
  rw [canonicalDecimal_ok h, Decimal.ofText_fixedPoint, expanded_expanded]

/-- A canonical text determines the float. -/
theorem canonicalDecimal_inj {text : String} (hx : canonicalDecimal x.decimal = .ok text)
    (hy : canonicalDecimal y.decimal = .ok text) : x = y := by
  have hexpanded := Option.some.inj
    ((ofText_canonicalDecimal hx).symm.trans (ofText_canonicalDecimal hy))
  exact ext (Decimal.expanded_injective x.stripped y.stripped hexpanded)

end FloatValue

/-! ## Rows -/

/-- The decimal has no digit behind an exponent, and quantizing to it is possible. -/
def atPrecision (exponent : Int) (x : Decimal) : Bool :=
  match x.quantize exponent with
  | some c => x.equal ⟨c, exponent⟩
  | none => false

/-- `HoldingSnapshot`: a row as its validators leave it. -/
structure HoldingSnapshot where
  /-- `record_id` -/
  recordId : Option String
  /-- `as_of` -/
  asOf : String
  /-- `account` -/
  account : String
  /-- `asset_id` -/
  assetId : String
  /-- `broker` -/
  broker : String
  /-- `quantity` -/
  quantity : FloatValue
  /-- `currency` -/
  currency : String
  /-- `price` -/
  price : FloatValue
  /-- `cny_price` -/
  cnyPrice : FloatValue
  /-- `market_value_cny` -/
  marketValueCny : FloatValue
  /-- `dedup_key` -/
  dedupKey : String
  /-- `asset_name` -/
  assetName : Option String
  /-- `avg_cost` -/
  avgCost : Option FloatValue
  /-- `source` -/
  source : Option String
  /-- `remark` -/
  remark : Option String
  /-- `_require_nonblank_text` -/
  texts : ∀ text ∈ [asOf, account, assetId, broker, currency, dedupKey], ValidName text
  /-- `_quantize_quantity` -/
  quantized : quantity.decimal.coefficient ≠ 0 ∧ atPrecision (-8) quantity.decimal
  /-- `_preserve_unit_price_precision` -/
  positive : 0 < price.decimal.coefficient ∧ 0 < cnyPrice.decimal.coefficient
  /-- `_quantize_market_value` and `_quantize_avg_cost` -/
  atMoney : atPrecision (-2) marketValueCny.decimal ∧ ∀ cost ∈ avgCost, atPrecision (-2) cost.decimal
  /-- `_assert_replayable_market_value` -/
  replayed : ∃ c, (quantity.decimal.mul cnyPrice.decimal).quantize (-2) = some c ∧
    marketValueCny.decimal.quantize (-2) = some c
deriving DecidableEq

/-- `snapshot_row_payload`: the row without its record id, its numbers as canonical texts. -/
structure RowPayload where
  /-- `as_of` -/
  asOf : String
  /-- `account` -/
  account : String
  /-- `asset_id` -/
  assetId : String
  /-- `broker` -/
  broker : String
  /-- `quantity` -/
  quantity : String
  /-- `currency` -/
  currency : String
  /-- `price` -/
  price : String
  /-- `cny_price` -/
  cnyPrice : String
  /-- `market_value_cny` -/
  marketValueCny : String
  /-- `dedup_key` -/
  dedupKey : String
  /-- `asset_name` -/
  assetName : Option String
  /-- `avg_cost` -/
  avgCost : Option String
  /-- `source` -/
  source : Option String
  /-- `remark` -/
  remark : Option String
deriving DecidableEq, Repr

namespace HoldingSnapshot

/-- `snapshot_business_key(row)`. -/
def key (row : HoldingSnapshot) : BusinessKey := ⟨row.asOf, row.account, row.assetId, row.broker⟩

/-- `str(row.record_id or "")`. -/
def id (row : HoldingSnapshot) : String := row.recordId.getD ""

/-- The order of `sort_key`. -/
def sortKey (row : HoldingSnapshot) : List String :=
  [row.asOf, row.account, row.assetId, row.broker, row.id]

/-- `snapshot_row_payload(row)`. -/
def payload (row : HoldingSnapshot) : Except SnapshotError RowPayload := do
  let quantity ← canonicalDecimal row.quantity.decimal
  let price ← canonicalDecimal row.price.decimal
  let cnyPrice ← canonicalDecimal row.cnyPrice.decimal
  let marketValueCny ← canonicalDecimal row.marketValueCny.decimal
  let avgCost ← canonicalOptional (row.avgCost.map FloatValue.decimal)
  return {
    asOf := row.asOf
    account := row.account
    assetId := row.assetId
    broker := row.broker
    quantity := quantity
    currency := row.currency
    price := price
    cnyPrice := cnyPrice
    marketValueCny := marketValueCny
    dedupKey := row.dedupKey
    assetName := row.assetName
    avgCost := avgCost
    source := row.source
    remark := row.remark }

/-- The same row under a record id. -/
def withRecordId (row : HoldingSnapshot) (recordId : Option String) : HoldingSnapshot :=
  { row with recordId := recordId }

variable {row other : HoldingSnapshot} {recordId : Option String}

@[simp] theorem recordId_withRecordId : (row.withRecordId recordId).recordId = recordId := rfl

@[simp] theorem key_withRecordId : (row.withRecordId recordId).key = row.key := rfl

@[simp] theorem payload_withRecordId : (row.withRecordId recordId).payload = row.payload := rfl

@[simp] theorem withRecordId_withRecordId {recordId' : Option String} :
    (row.withRecordId recordId).withRecordId recordId' = row.withRecordId recordId' := rfl

theorem key_of_eq (h : row = other.withRecordId recordId) : row.key = other.key := by
  rw [h, key_withRecordId]

theorem withRecordId_self : row.withRecordId row.recordId = row := rfl

/-- The row has a payload: none of its numbers is an integer of more than 28 digits. -/
def Encodable (row : HoldingSnapshot) : Prop :=
  row.quantity.Encodable ∧ row.price.Encodable ∧ row.cnyPrice.Encodable ∧
    row.marketValueCny.Encodable ∧ ∀ cost ∈ row.avgCost, cost.Encodable

instance (row : HoldingSnapshot) : Decidable row.Encodable := by
  unfold Encodable
  infer_instance

end HoldingSnapshot

theorem canonicalOptional_ok {x : Option FloatValue} {text : Option String}
    (h : canonicalOptional (x.map FloatValue.decimal) = .ok text) :
    (x = none ∧ text = none) ∨ ∃ y t, x = some y ∧ text = some t ∧ canonicalDecimal y.decimal = .ok t := by
  cases x with
  | none =>
    cases h
    exact .inl ⟨rfl, rfl⟩
  | some y =>
    simp only [Option.map_some, canonicalOptional] at h
    cases hy : canonicalDecimal y.decimal with
    | error e =>
      rw [hy] at h
      cases h
    | ok t =>
      rw [hy] at h
      cases h
      exact .inr ⟨y, t, rfl, rfl, hy⟩

theorem FloatValue.encodable_iff {x : FloatValue} :
    x.Encodable ↔ ∃ text, canonicalDecimal x.decimal = .ok text := by
  rw [canonicalDecimal_eq]
  by_cases hx : x.Encodable
  · rw [if_pos hx]
    exact iff_of_true hx ⟨_, rfl⟩
  · rw [if_neg hx]
    exact iff_of_false hx fun ⟨_, h⟩ => by cases h

namespace HoldingSnapshot

variable {row other : HoldingSnapshot}

/-- The texts of a payload are the canonical texts of the numbers. -/
theorem payload_ok {p : RowPayload} (h : row.payload = .ok p) :
    canonicalDecimal row.quantity.decimal = .ok p.quantity ∧
    canonicalDecimal row.price.decimal = .ok p.price ∧
    canonicalDecimal row.cnyPrice.decimal = .ok p.cnyPrice ∧
    canonicalDecimal row.marketValueCny.decimal = .ok p.marketValueCny ∧
    canonicalOptional (row.avgCost.map FloatValue.decimal) = .ok p.avgCost ∧
    p.asOf = row.asOf ∧ p.account = row.account ∧ p.assetId = row.assetId ∧ p.broker = row.broker ∧
    p.currency = row.currency ∧ p.dedupKey = row.dedupKey ∧ p.assetName = row.assetName ∧
    p.source = row.source ∧ p.remark = row.remark := by
  unfold payload at h
  obtain ⟨quantity, hquantity, h⟩ := except_bind_ok h
  obtain ⟨price, hprice, h⟩ := except_bind_ok h
  obtain ⟨cnyPrice, hcnyPrice, h⟩ := except_bind_ok h
  obtain ⟨marketValueCny, hmarketValueCny, h⟩ := except_bind_ok h
  obtain ⟨avgCost, havgCost, h⟩ := except_bind_ok h
  cases h
  exact ⟨hquantity, hprice, hcnyPrice, hmarketValueCny, havgCost, rfl, rfl, rfl, rfl, rfl, rfl, rfl, rfl,
    rfl⟩

theorem encodable_iff : row.Encodable ↔ ∃ p, row.payload = .ok p := by
  constructor
  · rintro ⟨hquantity, hprice, hcnyPrice, hmarketValueCny, hcost⟩
    obtain ⟨quantity, hquantity⟩ := FloatValue.encodable_iff.mp hquantity
    obtain ⟨price, hprice⟩ := FloatValue.encodable_iff.mp hprice
    obtain ⟨cnyPrice, hcnyPrice⟩ := FloatValue.encodable_iff.mp hcnyPrice
    obtain ⟨marketValueCny, hmarketValueCny⟩ := FloatValue.encodable_iff.mp hmarketValueCny
    obtain ⟨avgCost, havgCost⟩ :
        ∃ text, canonicalOptional (row.avgCost.map FloatValue.decimal) = .ok text := by
      cases hcosts : row.avgCost with
      | none => exact ⟨none, rfl⟩
      | some cost =>
        obtain ⟨text, htext⟩ := FloatValue.encodable_iff.mp (hcost cost hcosts)
        exact ⟨some text, by rw [Option.map_some, canonicalOptional, htext]; rfl⟩
    unfold payload
    rw [hquantity, hprice, hcnyPrice, hmarketValueCny, havgCost]
    exact ⟨_, rfl⟩
  · rintro ⟨p, h⟩
    obtain ⟨hquantity, hprice, hcnyPrice, hmarketValueCny, havgCost, -⟩ := payload_ok h
    refine ⟨FloatValue.encodable_iff.mpr ⟨_, hquantity⟩, FloatValue.encodable_iff.mpr ⟨_, hprice⟩,
      FloatValue.encodable_iff.mpr ⟨_, hcnyPrice⟩, FloatValue.encodable_iff.mpr ⟨_, hmarketValueCny⟩,
      fun cost hcost => ?_⟩
    rcases canonicalOptional_ok havgCost with ⟨hnone, -⟩ | ⟨y, t, hsome, -, htext⟩
    · rw [hnone] at hcost
      cases hcost
    · rw [hsome] at hcost
      cases hcost
      exact FloatValue.encodable_iff.mpr ⟨t, htext⟩

/-- Rows with one payload are the same row up to the record id. -/
theorem eq_of_payload {p : RowPayload} (h : row.payload = .ok p) (hother : other.payload = .ok p) :
    row = other.withRecordId row.recordId := by
  obtain ⟨hquantity, hprice, hcnyPrice, hmarketValueCny, havgCost, hasOf, haccount, hassetId, hbroker,
    hcurrency, hdedupKey, hassetName, hsource, hremark⟩ := payload_ok h
  obtain ⟨hquantity', hprice', hcnyPrice', hmarketValueCny', havgCost', hasOf', haccount', hassetId',
    hbroker', hcurrency', hdedupKey', hassetName', hsource', hremark'⟩ := payload_ok hother
  have hcost : row.avgCost = other.avgCost := by
    rcases canonicalOptional_ok havgCost with ⟨hnone, htext⟩ | ⟨y, t, hsome, htext, hy⟩
    · rcases canonicalOptional_ok havgCost' with ⟨hnone', -⟩ | ⟨y', t', -, htext', -⟩
      · rw [hnone, hnone']
      · rw [htext] at htext'
        cases htext'
    · rcases canonicalOptional_ok havgCost' with ⟨-, htext'⟩ | ⟨y', t', hsome', htext', hy'⟩
      · rw [htext] at htext'
        cases htext'
      · rw [htext] at htext'
        cases htext'
        rw [hsome, hsome', FloatValue.canonicalDecimal_inj hy hy']
  have hquantities := FloatValue.canonicalDecimal_inj hquantity hquantity'
  have hprices := FloatValue.canonicalDecimal_inj hprice hprice'
  have hcnyPrices := FloatValue.canonicalDecimal_inj hcnyPrice hcnyPrice'
  have hmarketValues := FloatValue.canonicalDecimal_inj hmarketValueCny hmarketValueCny'
  cases row
  cases other
  simp only [withRecordId, mk.injEq] at *
  exact ⟨trivial, hasOf.symm.trans hasOf', haccount.symm.trans haccount', hassetId.symm.trans hassetId',
    hbroker.symm.trans hbroker', hquantities, hcurrency.symm.trans hcurrency', hprices, hcnyPrices,
    hmarketValues, hdedupKey.symm.trans hdedupKey', hassetName.symm.trans hassetName', hcost,
    hsource.symm.trans hsource', hremark.symm.trans hremark'⟩

end HoldingSnapshot

end Snapshots

end PortfolioManagement
