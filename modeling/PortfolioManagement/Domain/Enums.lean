import PortfolioManagement.Domain.Holding

/-!
# The texts of the enumerations

A `str` enumeration is stored by its value, and its constructor reads the value back.
-/

namespace PortfolioManagement

section
variable {α : Type} {all : List α} {value : α → String}

/-- `EnumType(text)`, where it does not raise. -/
def enumOfValue (all : List α) (value : α → String) (text : String) : Option α :=
  all.find? fun x => value x = text

theorem enumOfValue_value (hvalue : Function.Injective value) {x : α} (h : x ∈ all) :
    enumOfValue all value (value x) = some x := by
  unfold enumOfValue
  cases hfound : all.find? fun y => value y = value x with
  | none =>
    have hnot := List.find?_eq_none.mp hfound x h
    exact absurd (decide_eq_true rfl) hnot
  | some y =>
    have hsame := List.find?_some (p := fun y => decide (value y = value x)) hfound
    rw [hvalue (of_decide_eq_true hsame)]

end

namespace AssetType

/-- The types, in the order of their declaration. -/
def all : List AssetType :=
  [.aStock, .hkStock, .usStock, .fund, .exchangeFund, .otcFund, .cnFund, .usFund, .hkFund, .cash,
    .mmf, .crypto, .bond, .other]

/-- `asset_type.value`. -/
def value : AssetType → String
  | .aStock => "a_stock"
  | .hkStock => "hk_stock"
  | .usStock => "us_stock"
  | .fund => "fund"
  | .exchangeFund => "exchange_fund"
  | .otcFund => "otc_fund"
  | .cnFund => "cn_fund"
  | .usFund => "us_fund"
  | .hkFund => "hk_fund"
  | .cash => "cash"
  | .mmf => "mmf"
  | .crypto => "crypto"
  | .bond => "bond"
  | .other => "other"

/-- `AssetType(text)`. -/
def ofValue (text : String) : Option AssetType := enumOfValue all value text

theorem value_injective : Function.Injective value := by
  intro x y h
  cases x <;> cases y <;> first | rfl | exact absurd h (by decide)

@[simp] theorem ofValue_value (x : AssetType) : ofValue x.value = some x :=
  enumOfValue_value value_injective (by cases x <;> decide)

end AssetType

namespace AssetClass

/-- The classes, in the order of their declaration. -/
def all : List AssetClass := [.cnAsset, .usAsset, .hkAsset, .cash, .alternative]

/-- `asset_class.value`. -/
def value : AssetClass → String
  | .cnAsset => "中国资产"
  | .usAsset => "美国资产"
  | .hkAsset => "港股资产"
  | .cash => "现金"
  | .alternative => "另类资产"

/-- `AssetClass(text)`. -/
def ofValue (text : String) : Option AssetClass := enumOfValue all value text

theorem value_injective : Function.Injective value := by
  intro x y h
  cases x <;> cases y <;> first | rfl | exact absurd h (by decide)

@[simp] theorem ofValue_value (x : AssetClass) : ofValue x.value = some x :=
  enumOfValue_value value_injective (by cases x <;> decide)

end AssetClass

namespace Industry

/-- The industries, in the order of their declaration. -/
def all : List Industry :=
  [.ai, .zhonggai, .consumption, .energy, .semiconductor, .finance, .internet, .tech, .healthcare,
    .realEstate, .entertainment, .index, .cash, .blockchain, .other]

/-- `industry.value`. -/
def value : Industry → String
  | .ai => "AI"
  | .zhonggai => "中概"
  | .consumption => "消费"
  | .energy => "能源"
  | .semiconductor => "半导体"
  | .finance => "金融"
  | .internet => "互联网"
  | .tech => "科技"
  | .healthcare => "医疗"
  | .realEstate => "房地产"
  | .entertainment => "文体娱乐"
  | .index => "非行业指数"
  | .cash => "现金"
  | .blockchain => "区块链"
  | .other => "其他"

/-- `Industry(text)`. -/
def ofValue (text : String) : Option Industry := enumOfValue all value text

theorem value_injective : Function.Injective value := by
  intro x y h
  cases x <;> cases y <;> first | rfl | exact absurd h (by decide)

@[simp] theorem ofValue_value (x : Industry) : ofValue x.value = some x :=
  enumOfValue_value value_injective (by cases x <;> decide)

end Industry

end PortfolioManagement
