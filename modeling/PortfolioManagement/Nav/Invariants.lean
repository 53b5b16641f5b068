import PortfolioManagement.Nav.Calculator

/-!
# The self-check of a NAV record

`assert_nav_invariants` recomputes every stored number of a record from the inputs of the
calculation and the record's own numbers, and collects the texts of the checks that fail.
-/

namespace PortfolioManagement.Nav

/-! ## Comparisons -/

/-- `approx_equal` of two numbers. -/
def approxEqual (a b tolerance : ℚ) : Bool := |a - b| ≤ tolerance

/-- `money_equal` -/
def moneyEqual : Option ℚ → Option ℚ → Bool
  | some a, some b => money a = money b
  | none, none => true
  | _, _ => false

/-- `nav_equal`; also `approx_equal_quantized` with `quantize_nav` and no tolerance. -/
def navEqual : Option ℚ → Option ℚ → Bool
  | some a, some b => quantizeNav a = quantizeNav b
  | none, none => true
  | _, _ => false

/-- The value of a stored amount. -/
abbrev centsValue (c : Option Cents) : Option ℚ := c.map Cents.toDecimal

/-- The value of a stored NAV or change. -/
abbrev microValue (m : Option Micro) : Option ℚ := m.map Micro.toDecimal

theorem moneyEqual_map_money (a : Option ℚ) : moneyEqual (centsValue (a.map money)) a = true := by
  cases a <;> simp [moneyEqual]

theorem moneyEqual_self (a : Option ℚ) : moneyEqual a a = true := by
  cases a <;> simp [moneyEqual]

theorem navEqual_map_quantizeNav (a : Option ℚ) :
    navEqual (microValue (a.map quantizeNav)) a = true := by
  cases a <;> simp [navEqual]

/-! ## The checks -/

/-- `require_reference_value`, given the value of the field if there is a reference. -/
def requireReferenceValue (reference : Option (Option ℚ)) (field label : String)
    (positive nonnegative : Bool) : List String :=
  match reference with
  | none => []
  | some none => [label ++ "." ++ field ++ " 缺失"]
  | some (some parsed) =>
    (if positive ∧ parsed ≤ 0 then [label ++ "." ++ field ++ " 必须 > 0"] else []) ++
      if nonnegative ∧ parsed < 0 then [label ++ "." ++ field ++ " 必须 >= 0"] else []

/-- The checks of the base records. -/
def referenceErrors (x : PeriodInputs) : List String :=
  requireReferenceValue (x.lastNav.map fun n => some n.totalValue.toDecimal) "total_value"
      "last_nav" false false ++
    requireReferenceValue (x.lastNav.map fun n => microValue n.nav) "nav" "last_nav" true false ++
    requireReferenceValue (x.lastNav.map fun n => centsValue n.shares) "shares" "last_nav"
      false true ++
    requireReferenceValue (x.prevMonthEndNav.map fun n => some n.totalValue.toDecimal)
      "total_value" "prev_month_end_nav" false false ++
    requireReferenceValue (x.prevYearEndNav.map fun n => some n.totalValue.toDecimal)
      "total_value" "prev_year_end_nav" false false ++
    requireReferenceValue (x.mtdReturnBaseNav.map fun n => microValue n.nav) "nav"
      "mtd_return_base_nav" true false ++
    requireReferenceValue (x.ytdReturnBaseNav.map fun n => microValue n.nav) "nav"
      "ytd_return_base_nav" true false

/-- `details.get("status")` -/
def statusOf (r : NAVHistory) : Option String := r.details.bind (·.status)

/-- `is_closed` -/
def isClosed (r : NAVHistory) : Bool := upper (textOr (statusOf r)) = "CLOSED"

section
variable (rt : Runtime)

/-- The text of an optional float. -/
def pyText (x : Option ℚ) : String := x.elim "None" rt.floatText

/-- `a != b` at the end of a text. -/
def unequal (label : String) (a b : Option ℚ) : String :=
  label ++ ": " ++ pyText rt a ++ " != " ++ pyText rt b

/-- The texts of a check that fails. -/
def failing (ok : Bool) (text : String) : List String := if ok then [] else [text]

/-- The checks of the total. -/
def totalErrors (r : NAVHistory) : List String :=
  match r.cashValue, r.stockValue with
  | some cash, some stock =>
    let expected := (money (stock.toDecimal + cash.toDecimal)).toDecimal
    failing (moneyEqual (some r.totalValue.toDecimal) (some expected))
      (unequal rt "total_value 不等于 stock_value + cash_value" (some r.totalValue.toDecimal)
        (some expected))
  | _, _ => ["cash_value/stock_value 缺失（必填）"]

/-- The check of the fund value. -/
def fundErrors (r : NAVHistory) : List String :=
  match r.fundValue, r.stockValue with
  | some fund, some stock =>
    failing (¬ (0 ≤ fund ∧ 0 ≤ stock ∧ stock < fund))
      "fund_value 必须是已持久化 stock_value（非现金）的子集"
  | _, _ => []

/-- One weight against the value it belongs to. -/
def weightError (label : String) (weight : Micro) (value total : Cents) : List String :=
  let expected := (quantizeWeight (value.toDecimal / total.toDecimal)).toDecimal
  failing (approxEqual weight.toDecimal expected (1 / 1000000))
    (unequal rt (label ++ " 不一致") (some weight.toDecimal) (some expected))

/-- The checks of the weights. -/
def weightErrors (r : NAVHistory) : List String :=
  if r.totalValue ≤ 0 then []
  else
    match r.stockWeight, r.cashWeight with
    | some stockWeight, some cashWeight =>
      match r.stockValue, r.cashValue with
      | some stock, some cash =>
        weightError rt "stock_weight" stockWeight stock r.totalValue ++
          weightError rt "cash_weight" cashWeight cash r.totalValue ++
          failing (approxEqual (stockWeight.toDecimal + cashWeight.toDecimal) 1 (1 / 10000))
            ("stock_weight + cash_weight 不接近 1: " ++
              rt.floatText (stockWeight.toDecimal + cashWeight.toDecimal))
      | _, _ => []
    | _, _ => ["stock_weight/cash_weight 缺失（必填）"]

/-- The NAV of the total and the shares of a record. -/
def expectedNav (r : NAVHistory) (shares : Cents) : ℚ :=
  (quantizeNav (r.totalValue.toDecimal / shares.toDecimal)).toDecimal

/-- The checks of NAV and shares. -/
def navErrors (r : NAVHistory) : List String :=
  if isClosed r then
    failing (moneyEqual (centsValue r.shares) (some 0)) "CLOSED NAV shares 必须为 0" ++
      failing (navEqual (microValue r.nav) (some 1)) "CLOSED NAV nav 必须为 1" ++
      failing (moneyEqual (centsValue r.shareChange) (some 0)) "CLOSED NAV share_change 必须为 0"
  else
    match r.shares, r.nav with
    | some shares, some nav =>
      if 0 < shares then
        failing (approxEqual nav.toDecimal (expectedNav r shares) (1 / 1000000))
          (unequal rt "nav 不等于 total_value / shares" (some nav.toDecimal)
            (some (expectedNav r shares)))
      else ["非 CLOSED NAV 要求 shares > 0 且 nav 存在"]
    | _, _ => ["非 CLOSED NAV 要求 shares > 0 且 nav 存在"]

/-- The check of the flow column. -/
def cashFlowErrors (r : NAVHistory) (x : PeriodInputs) : List String :=
  failing (moneyEqual (centsValue r.cashFlow) (some x.dailyCashFlow))
    (unequal rt "cash_flow 列必须是当日资金流" (centsValue r.cashFlow) (some x.dailyCashFlow))

/-- The checks of the shares against the previous record. -/
def shareErrors (r : NAVHistory) (x : PeriodInputs) : List String :=
  if isClosed r then []
  else
    match x.lastNav with
    | none =>
      failing (moneyEqual (centsValue r.shareChange) (some x.effectiveCashFlow))
          "首条 NAV share_change 应等于 gap cash flow" ++
        failing (moneyEqual (centsValue r.shares) (some r.totalValue.toDecimal))
          "首条 NAV shares 应等于 total_value"
    | some last =>
      match last.nav, last.shares with
      | some nav, some shares =>
        if 0 < nav then
          let expectedChange := (money (x.effectiveCashFlow / nav.toDecimal)).toDecimal
          let expectedShares :=
            (money (shares.toDecimal + x.effectiveCashFlow / nav.toDecimal)).toDecimal
          failing (moneyEqual (centsValue r.shareChange) (some expectedChange))
              (unequal rt "share_change 与 gap cash flow 不一致" (centsValue r.shareChange)
                (some expectedChange)) ++
            failing (moneyEqual (centsValue r.shares) (some expectedShares))
              (unequal rt "shares 与上期份额及 gap cash flow 不一致" (centsValue r.shares)
                (some expectedShares))
        else []
      | _, _ => []

/-- `expected_pnl`: the gain of one day, when the previous record is of the day before. -/
def expectedPnl (r : NAVHistory) (x : PeriodInputs) : Option ℚ :=
  if isClosed r then none
  else
    (x.lastNav.filter (dayBefore r.date)).map fun last =>
      (money (r.totalValue.toDecimal - last.totalValue.toDecimal - x.effectiveCashFlow)).toDecimal

/-- `details["finality"]` -/
def finalityOf (r : NAVHistory) : Option FinalityPayload := r.details.bind (·.finality)

/-- The check of the gain of the day: of every strict record, and of a gain that is there. -/
def pnlErrors (r : NAVHistory) (x : PeriodInputs) (requireFinality : Option Bool) : List String :=
  let strict := requireFinality.getD false || (finalityOf r).isSome
  failing (! (r.pnl.isSome || strict) || moneyEqual (centsValue r.pnl) (expectedPnl r x))
    (unequal rt "pnl 不一致" (centsValue r.pnl) (expectedPnl r x))

/-- The checks of a basis against a dataset. -/
def datasetErrors (basis : CashFlowBasis) (dataset : DatasetDetails) : List String :=
  failing (basis.dataset.map (·.contractVersion) = some dataset.contractVersion)
      "details.cash_flow_basis dataset contract_version 不一致" ++
    failing (basis.dataset.map (·.financialFingerprint) = some dataset.financialFingerprint)
      "details.cash_flow_basis dataset fingerprint 不一致" ++
    failing (basis.dataset.map (·.fullFingerprint) = some dataset.fullFingerprint)
      "details.cash_flow_basis dataset full_fingerprint 不一致"

/-- `details["cash_flow_basis"]` -/
def basisOf (r : NAVHistory) : Option CashFlowBasis := r.details.bind (·.cashFlowBasis)

/-- The checks of the cash-flow basis. -/
def basisErrors (r : NAVHistory) (x : PeriodInputs) (dataset : Option DatasetDetails)
    (requireFinality : Option Bool) : List String :=
  match basisOf r with
  | some basis =>
    failing (basis.version = cashFlowBasisVersion) "details.cash_flow_basis.version 不一致" ++
      failing (basis.cashFlowColumnSemantics = "daily")
        "details.cash_flow_basis 未声明 cash_flow=daily" ++
      failing (moneyEqual (some basis.dailyCashFlow.toDecimal) (some x.dailyCashFlow))
        "details.cash_flow_basis.daily_cash_flow 不一致" ++
      failing (moneyEqual (some basis.gapCashFlow.toDecimal) (some x.effectiveCashFlow))
        "details.cash_flow_basis.gap_cash_flow 不一致" ++
      failing (basis.previousNavDate = x.lastNav.map (·.date.isoformat))
        "details.cash_flow_basis.previous_nav_date 不一致" ++
      failing (basis.gapWindow = gapWindow r.date x.lastNav)
        "details.cash_flow_basis.gap_window 不一致" ++
      dataset.elim [] (datasetErrors basis)
  | none =>
    failing (¬ (requireFinality.getD false ∨ dataset.isSome)) "details.cash_flow_basis 缺失"

/-- The checks of the NAV changes. -/
def changeErrors (r : NAVHistory) (x : PeriodInputs) : List String :=
  let expectedMtd := r.nav.bind fun nav => calcMtdNavChange nav x.monthBaseNav
  let expectedYtd := r.nav.bind fun nav => calcYtdNavChange nav x.yearBaseNav
  failing (navEqual (microValue r.mtdNavChange) expectedMtd)
      (unequal rt "mtd_nav_change 不一致" (microValue r.mtdNavChange) expectedMtd) ++
    failing (navEqual (microValue r.ytdNavChange) expectedYtd)
      (unequal rt "ytd_nav_change 不一致" (microValue r.ytdNavChange) expectedYtd)

/-- The checks of the month's and the year's result. -/
def periodErrors (r : NAVHistory) (x : PeriodInputs) : List String :=
  let expectedMtd := centsValue
    ((calcMtdPnl r.totalValue.toDecimal x.prevMonthEndNav x.monthlyCashFlow).map money)
  let expectedYtd := centsValue
    ((calcYtdPnl r.totalValue.toDecimal x.prevYearEndNav x.yearlyCashFlow).map money)
  failing (moneyEqual (centsValue r.mtdPnl) expectedMtd)
      (unequal rt "mtd_pnl 不一致" (centsValue r.mtdPnl) expectedMtd) ++
    failing (moneyEqual (centsValue r.ytdPnl) expectedYtd)
      (unequal rt "ytd_pnl 不一致" (centsValue r.ytdPnl) expectedYtd)

/-- The check of the gain since the initial value. -/
def cumulativeErrors (r : NAVHistory) (x : PeriodInputs) : List String :=
  match x.initialValue, r.details.bind (·.cumulativeAppreciation) with
  | some initial, some stored =>
    let expected :=
      (money (r.totalValue.toDecimal - initial - x.cumulativeCashFlow)).toDecimal
    failing (moneyEqual (some stored.toDecimal) (some expected))
      (unequal rt "details.cumulative_appreciation 不一致" (some stored.toDecimal) (some expected))
  | _, _ => []

/-- The checks of the finality. -/
def finalityErrors (r : NAVHistory) (requireFinality : Option Bool) : List String :=
  if requireFinality.getD (finalityOf r).isSome then
    match finalityValidationReason rt (finalityOf r) r.date none with
    | some reason =>
      if reason = "writer_status_mismatch" then ["details.finality writer/status 不一致"]
      else ["details.finality 无效: " ++ reason]
    | none =>
      failing (! isClosed r || (finalityOf r).bind (·.status) = some "closed")
        "CLOSED NAV finality.status 必须为 closed"
  else []

/-- The errors of `assert_nav_invariants`, in its order. The numbers of a record are finite, so
the checks that they are have no case here. -/
def navErrorTexts (r : NAVHistory) (x : PeriodInputs) (dataset : Option DatasetDetails)
    (requireFinality : Option Bool) : List String :=
  (if isClosed r then [] else referenceErrors x) ++ totalErrors rt r ++ fundErrors r ++
    weightErrors rt r ++ navErrors rt r ++ cashFlowErrors rt r x ++ shareErrors rt r x ++
    pnlErrors rt r x requireFinality ++ basisErrors r x dataset requireFinality ++
    changeErrors rt r x ++ periodErrors rt r x ++ cumulativeErrors rt r x ++
    finalityErrors rt r requireFinality

/-- `assert_nav_invariants`. -/
def assertNavInvariants (r : NAVHistory) (x : PeriodInputs) (dataset : Option DatasetDetails)
    (requireFinality : Option Bool) : Except Error Unit :=
  let errors := navErrorTexts rt r x dataset requireFinality
  if errors = [] then .ok ()
  else .error (.value ("NAV 记录自校验失败: " ++ " | ".intercalate errors))

theorem assertNavInvariants_ok_iff {r : NAVHistory} {x : PeriodInputs}
    {dataset : Option DatasetDetails} {requireFinality : Option Bool} :
    assertNavInvariants rt r x dataset requireFinality = .ok () ↔
      navErrorTexts rt r x dataset requireFinality = [] := by
  unfold assertNavInvariants
  by_cases h : navErrorTexts rt r x dataset requireFinality = []
  · simp [h]
  · simp [h]

end

theorem failing_eq_nil {ok : Bool} {text : String} : failing ok text = [] ↔ ok = true := by
  cases ok <;> simp [failing]

end PortfolioManagement.Nav
