import PortfolioManagement.Lib.Rounding
import PortfolioManagement.Ledger.Dataset

/-!
# NAV records

A row of the NAV table and the finality provenance in its details. Amounts and shares are kept in
cents, the NAV, its changes and the weights in millionths: the validators of `NAVHistory` round
every number to these places. Numbers before they are rounded are rationals.
-/

namespace PortfolioManagement

/-- `money` is the rounding to two places. -/
theorem money_eq_roundHalfUp (x : ℚ) : money x = roundHalfUp (x * 100) := by
  by_cases hx : 0 ≤ x
  · rw [money, if_pos hx, roundHalfUp, if_pos (by linarith)]
    rfl
  · rw [money, if_neg hx, roundHalfUp, if_neg (by linarith), neg_mul]
    rfl

/-- A NAV, a NAV change or a weight, in millionths. -/
abbrev Micro := Int

/-- The decimal a number of millionths denotes. -/
def Micro.toDecimal (m : Micro) : ℚ := (m : ℚ) / 1000000

namespace Nav

/-! ## Quantizers -/

/-- `quantize_nav`. -/
def quantizeNav (x : ℚ) : Micro := roundHalfUp (x * 1000000)

/-- `quantize_weight`. -/
def quantizeWeight (x : ℚ) : Micro := roundHalfUp (x * 1000000)

@[simp] theorem quantizeNav_toDecimal (m : Micro) : quantizeNav m.toDecimal = m := by
  rw [quantizeNav, Micro.toDecimal, div_mul_cancel₀ _ (by norm_num), roundHalfUp_intCast]

@[simp] theorem quantizeWeight_toDecimal (m : Micro) : quantizeWeight m.toDecimal = m :=
  quantizeNav_toDecimal m

/-- What the NAV code takes from the language's floats and dates. Nothing is assumed about it. -/
structure Runtime where
  /-- the float power `base ** exponent` -/
  power : ℚ → ℚ → ℚ
  /-- the text of a float -/
  floatText : ℚ → String
  /-- whether `round` takes a number that is half way between two neighbours up, as its float is
  above or below it -/
  tieUp : ℚ → Bool
  /-- the float difference of two numbers -/
  difference : ℚ → ℚ → ℚ
  /-- whether `datetime.fromisoformat` accepts a text -/
  isDateTime : String → Bool

/-! ## Finality -/

/-- `FINALITY_STATUSES`. -/
inductive FinalityStatus
  | final
  | manual
  | initial
  | closed
  | maintenance
deriving DecidableEq

namespace FinalityStatus

/-- The text of a status. -/
def value : FinalityStatus → String
  | final => "final"
  | manual => "manual"
  | initial => "initial"
  | closed => "closed"
  | maintenance => "maintenance"

/-- The status a text names. -/
def ofText (s : String) : Option FinalityStatus :=
  [final, manual, initial, closed, maintenance].find? fun status => status.value = s

@[simp] theorem ofText_value (status : FinalityStatus) : ofText status.value = some status := by
  cases status <;> rfl

@[simp] theorem strip_value (status : FinalityStatus) : strip status.value = status.value := by
  cases status <;> decide +kernel

end FinalityStatus

/-- `FINALITY_WRITERS`. -/
inductive FinalityWriter
  | dailyNavJob
  | navRecord
  | dailyReport
  | initNav
  | closeNav
  | navRepair
deriving DecidableEq

namespace FinalityWriter

/-- The text of a writer. -/
def value : FinalityWriter → String
  | dailyNavJob => "daily-nav-job"
  | navRecord => "nav-record"
  | dailyReport => "daily-report"
  | initNav => "init-nav"
  | closeNav => "close-nav"
  | navRepair => "nav-repair"

/-- The writer a text names. -/
def ofText (s : String) : Option FinalityWriter :=
  [dailyNavJob, navRecord, dailyReport, initNav, closeNav, navRepair].find? fun writer =>
    writer.value = s

/-- `FINALITY_STATUS_BY_WRITER`. -/
def statuses : FinalityWriter → List FinalityStatus
  | dailyNavJob => [.final]
  | navRecord => [.manual]
  | dailyReport => [.manual]
  | initNav => [.initial]
  | closeNav => [.closed]
  | navRepair => [.final, .maintenance]

@[simp] theorem ofText_value (writer : FinalityWriter) : ofText writer.value = some writer := by
  cases writer <;> rfl

@[simp] theorem strip_value (writer : FinalityWriter) : strip writer.value = writer.value := by
  cases writer <;> decide +kernel

theorem value_ne_empty (writer : FinalityWriter) : writer.value ≠ "" := by
  cases writer <;> decide +kernel

end FinalityWriter

/-- `details["finality"]` as it is stored. -/
structure FinalityPayload where
  /-- `version` -/
  version : Option Int
  /-- `status` -/
  status : Option String
  /-- `nav_date` -/
  navDate : Option String
  /-- `valuation_as_of`: absent, null or a text -/
  valuationAsOf : Option (Option String)
  /-- `writer` -/
  writer : Option String
  /-- `write_reason` -/
  writeReason : Option String
  /-- `run_id`: absent, null or a text -/
  runId : Option (Option String)
deriving DecidableEq

/-- `FINALITY_VERSION` -/
def finalityVersion : Int := 1

section
variable (rt : Runtime)

/-- Whether `valuation_as_of` is empty or a time that can be read. -/
def readableAsOf : Option String → Bool
  | none => true
  | some text => text = "" || rt.isDateTime ((strip text).replace "Z" "+00:00")

/-- `finality_validation_reason`: the first failure, or `none` when the payload is valid. -/
def finalityValidationReason (payload : Option FinalityPayload) (targetDate : CivilDate)
    (expectedStatus : Option String) : Option String :=
  match payload with
  | none => some "missing_finality"
  | some payload =>
    let status := strip (textOr payload.status)
    let writer := strip (textOr payload.writer)
    if payload.version ≠ some finalityVersion then some "unsupported_finality_version"
    else if expectedStatus.any (· ≠ status) then some ("status_not_" ++ textOr expectedStatus)
    else if (FinalityStatus.ofText status).isNone then some "unsupported_status"
    else if writer = "" then some "missing_writer"
    else if (FinalityWriter.ofText writer).isNone then some "unsupported_writer"
    else if ¬ (((FinalityWriter.ofText writer).map (·.statuses)).getD []).any
        (·.value = status) then some "writer_status_mismatch"
    else if strip (textOr payload.writeReason) = "" then some "missing_write_reason"
    else if payload.valuationAsOf.isNone then some "missing_valuation_as_of"
    else if ¬ readableAsOf rt (payload.valuationAsOf.getD none) then some "invalid_valuation_as_of"
    else if payload.runId.any (fun runId => strip (textOr runId) = "") then some "invalid_run_id"
    else if textOr payload.navDate ≠ targetDate.isoformat then some "nav_date_mismatch"
    else none

/-- `NavWriteContext`, with what `__post_init__` checks and normalizes. -/
structure NavWriteContext where
  /-- `status` -/
  status : FinalityStatus
  /-- `writer` -/
  writer : FinalityWriter
  /-- `write_reason` -/
  writeReason : String
  /-- `nav_date` -/
  navDate : CivilDate
  /-- `valuation_as_of` -/
  valuationAsOf : Option String
  /-- `run_id` -/
  runId : Option String
  /-- the writer may write the status -/
  allowed : status ∈ writer.statuses
  /-- the reason is not blank -/
  reason : strip writeReason ≠ ""
  /-- the time was read -/
  asOf : readableAsOf rt valuationAsOf = true
  /-- a run id is not blank -/
  run : ∀ id ∈ runId, strip id ≠ ""

variable {rt}

/-- `to_details`. -/
def NavWriteContext.toDetails (context : NavWriteContext rt) : FinalityPayload where
  version := some finalityVersion
  status := some context.status.value
  navDate := some context.navDate.isoformat
  valuationAsOf := some context.valuationAsOf
  writer := some context.writer.value
  writeReason := some context.writeReason
  runId := context.runId.map some

/-- The details of a context are valid for its date. -/
theorem NavWriteContext.toDetails_valid (context : NavWriteContext rt) :
    finalityValidationReason rt (some context.toDetails) context.navDate none = none := by
  have hallowed : context.writer.statuses.any (·.value = context.status.value) = true :=
    List.any_eq_true.mpr ⟨context.status, context.allowed, decide_eq_true rfl⟩
  have hrun : (context.runId.map some).any (fun runId => strip (textOr runId) = "") = false := by
    cases hid : context.runId with
    | none => rfl
    | some id => exact decide_eq_false (context.run id hid)
  have htext : ∀ s : String, textOr (some s) = s := fun _ => rfl
  simp [finalityValidationReason, NavWriteContext.toDetails, htext, hallowed, hrun,
    context.writer.value_ne_empty, context.reason, context.asOf]

end

/-! ## Records -/

/-- A part of `cash_flow_dataset.details()`: what identifies the dataset. -/
structure DatasetDetails where
  /-- `contract_version` -/
  contractVersion : String
  /-- `financial_fingerprint` -/
  financialFingerprint : Ledger.DatasetFingerprint
  /-- `full_fingerprint` -/
  fullFingerprint : Ledger.DatasetFingerprint
deriving DecidableEq

/-- `gap_window` of a cash-flow basis. -/
structure GapWindow where
  /-- `start` -/
  start : String
  /-- `end` -/
  stop : String
  /-- `start_inclusive` -/
  startInclusive : Bool
  /-- `end_inclusive` -/
  endInclusive : Bool
deriving DecidableEq

/-- `details["cash_flow_basis"]`. -/
structure CashFlowBasis where
  /-- `version` -/
  version : Int
  /-- `cash_flow_column_semantics` -/
  cashFlowColumnSemantics : String
  /-- `daily_cash_flow` -/
  dailyCashFlow : Cents
  /-- `gap_cash_flow` -/
  gapCashFlow : Cents
  /-- `previous_nav_date` -/
  previousNavDate : Option String
  /-- `gap_window` -/
  gapWindow : GapWindow
  /-- the `dataset_*` fields, null without a dataset -/
  dataset : Option DatasetDetails
deriving DecidableEq

/-- The details of one year: `nav_change_Y`, `appreciation_Y` and `cash_flow_Y`. -/
structure YearDetails where
  /-- `nav_change_Y` -/
  navChange : Option Micro
  /-- `appreciation_Y` -/
  appreciation : Option Cents
  /-- `cash_flow_Y` -/
  cashFlow : Cents
deriving DecidableEq

/-- `details` of a NAV row; a field that the row does not have is `none`. -/
structure NavDetails where
  /-- `status` -/
  status : Option String
  /-- `monthly_cash_flow` -/
  monthlyCashFlow : Option Cents
  /-- `year_cash_flow` -/
  yearCashFlow : Option Cents
  /-- `cumulative_nav_change` -/
  cumulativeNavChange : Option Micro
  /-- `cumulative_appreciation` -/
  cumulativeAppreciation : Option Cents
  /-- `initial_value` -/
  initialValue : Option Cents
  /-- `cumulative_cash_flow` -/
  cumulativeCashFlow : Option Cents
  /-- `cagr` -/
  cagr : Option Micro
  /-- `cagr_pct` -/
  cagrPct : Option Cents
  /-- the details of the years, by the text of the year -/
  years : Items String YearDetails
  /-- `finality` -/
  finality : Option FinalityPayload
  /-- `cash_flow_basis` -/
  cashFlowBasis : Option CashFlowBasis
deriving DecidableEq

/-- `NAVHistory`. -/
structure NAVHistory where
  /-- `record_id` -/
  recordId : Option String
  /-- `date` -/
  date : CivilDate
  /-- `account` -/
  account : String
  /-- `total_value` -/
  totalValue : Cents
  /-- `cash_value` -/
  cashValue : Option Cents
  /-- `stock_value`: the whole non-cash value -/
  stockValue : Option Cents
  /-- `fund_value` -/
  fundValue : Option Cents
  /-- `cn_stock_value` -/
  cnStockValue : Option Cents
  /-- `us_stock_value` -/
  usStockValue : Option Cents
  /-- `hk_stock_value` -/
  hkStockValue : Option Cents
  /-- `stock_weight` -/
  stockWeight : Option Micro
  /-- `cash_weight` -/
  cashWeight : Option Micro
  /-- `shares` -/
  shares : Option Cents
  /-- `nav` -/
  nav : Option Micro
  /-- `cash_flow` -/
  cashFlow : Option Cents
  /-- `share_change` -/
  shareChange : Option Cents
  /-- `mtd_nav_change` -/
  mtdNavChange : Option Micro
  /-- `ytd_nav_change` -/
  ytdNavChange : Option Micro
  /-- `pnl` -/
  pnl : Option Cents
  /-- `mtd_pnl` -/
  mtdPnl : Option Cents
  /-- `ytd_pnl` -/
  ytdPnl : Option Cents
  /-- `details` -/
  details : Option NavDetails
deriving DecidableEq

/-- A row of account `a` with its total, shares and NAV only. -/
def bareRecord (date : CivilDate) (totalValue shares : Cents) (nav : Micro) : NAVHistory where
  recordId := none
  date := date
  account := "a"
  totalValue := totalValue
  cashValue := none
  stockValue := none
  fundValue := none
  cnStockValue := none
  usStockValue := none
  hkStockValue := none
  stockWeight := none
  cashWeight := none
  shares := some shares
  nav := some nav
  cashFlow := none
  shareChange := none
  mtdNavChange := none
  ytdNavChange := none
  pnl := none
  mtdPnl := none
  ytdPnl := none
  details := none

end Nav

end PortfolioManagement
