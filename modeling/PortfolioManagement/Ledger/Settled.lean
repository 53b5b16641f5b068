import PortfolioManagement.Lib.Lists
import PortfolioManagement.Ledger.Completion
import PortfolioManagement.Ledger.Keys
import PortfolioManagement.Ledger.Reconcile

/-!
# A planned row is settled

Writing the updates of a plan makes the row complete, and a complete row with its own fingerprint is
planned without updates. Both hold of a plan whose numbers survive being written as floats.
-/

namespace PortfolioManagement.Ledger

/-! ## Rows after an update -/

namespace RawCashFlowRecord

variable (record : RawCashFlowRecord)

@[simp] theorem recordId_written (updates : Items String Cell) :
    (record.written updates).recordId = record.recordId := rfl

@[simp] theorem written_append (a b : Items String Cell) :
    record.written (a ++ b) = (record.written a).written b := by
  simp [written, merged]

@[simp] theorem written_cons (item : String × Cell) (updates : Items String Cell) :
    record.written (item :: updates) =
      (record.written (entry item.1 (some item.2))).written updates := rfl

@[simp] theorem written_nil : record.written [] = record := rfl

@[simp] theorem get_written_entry (name key : String) (value : Option Cell) :
    (record.written (entry name value)).get key =
      if key = name then value.getD (record.get key) else record.get key := by
  cases value with
  | none => simp [entry]
  | some cell =>
    simp only [get, written, merged, entry, Option.toList_some, List.map_cons, List.map_nil,
      List.foldl_cons, List.foldl_nil, Items.set, Items.lookup_update]
    split <;> rfl

/-- A field that is not updated keeps its value. -/
theorem get_written_of_not_mem {updates : Items String Cell} {key : String}
    (h : key ∉ updates.map Prod.fst) : (record.written updates).get key = record.get key := by
  induction updates generalizing record with
  | nil => rfl
  | cons item updates ih =>
    rw [List.map_cons, List.mem_cons, not_or] at h
    rw [written_cons, ih _ h.2, get_written_entry, if_neg h.1]

end RawCashFlowRecord

theorem keys_entry (name : String) (value : Option Cell) :
    (entry name value).map Prod.fst ⊆ [name] := by
  cases value <;> simp [entry]

section
variable {rt : ReconcileRuntime} {record : RawCashFlowRecord} {manual : ManualCashFlowFacts}
  {rate : Decimal} {cny : Cents}

/-- The fields a plan may change. -/
theorem keys_proposedUpdates :
    (proposedUpdates rt record manual rate cny).map Prod.fst ⊆
      ["flow_type", "exchange_rate", "cny_amount", "dedup_key", "source"] := by
  intro name hname
  simp only [proposedUpdates, List.map_append, List.mem_append] at hname
  rcases hname with (((h | h) | h) | h) | h
  all_goals
    have hname := List.mem_singleton.mp (keys_entry _ _ h)
    simp [hname]

/-- The generated fields of a row after a plan. -/
theorem get_written_proposed :
    let written := record.written (proposedUpdates rt record manual rate cny)
    written.get "flow_type" =
        (flowTypeUpdate manual (record.get "flow_type")).getD (record.get "flow_type") ∧
      written.get "exchange_rate" = (exchangeRateUpdate rt rate (record.get "exchange_rate")).getD
        (record.get "exchange_rate") ∧
      written.get "cny_amount" = (cnyAmountUpdate rt cny (record.get "cny_amount")).getD
        (record.get "cny_amount") ∧
      written.get "dedup_key" = .text (manual.expectedDedupKey rt.toRuntime) ∧
      written.get "source" = (sourceUpdate (record.get "source")).getD (record.get "source") := by
  have hdedup : (dedupKeyUpdate rt manual (record.get "dedup_key")).getD (record.get "dedup_key") =
      .text (manual.expectedDedupKey rt.toRuntime) := by
    unfold dedupKeyUpdate
    split
    · assumption
    · rfl
  simp [proposedUpdates, hdedup]

/-- The values a plan assumes. -/
theorem get_completedRecord :
    let completed := completedRecord rt record manual rate cny
    completed.get "flow_date" = .date manual.flowDate ∧
      completed.get "account" = .text manual.account ∧
      completed.get "broker" = .text manual.broker ∧
      completed.get "amount" = .decimal ⟨manual.amount, -2⟩ ∧
      completed.get "currency" = .text manual.currency.value ∧
      completed.get "flow_type" = .text manual.expectedFlowType.value ∧
      completed.get "exchange_rate" = .decimal rate ∧
      completed.get "cny_amount" = .decimal ⟨cny, -2⟩ ∧
      completed.get "dedup_key" = .text (manual.expectedDedupKey rt.toRuntime) ∧
      completed.get "source" = (sourceUpdate (record.get "source")).getD (record.get "source") ∧
      completed.get "remark" = record.get "remark" := by
  simp [completedRecord, completedOverrides, proposedUpdates]

/-! ## The manual facts of a plan -/

/-- The record id and the remark of facts are the row's. -/
theorem remark_of_validate {rt : Runtime} (h : ManualCashFlowFacts.validate rt record = .ok manual) :
    manual.remark = if record.get "remark" = .null then none else some (record.get "remark") := by
  unfold ManualCashFlowFacts.validate at h
  simp only at h
  split at h
  · split at h
    · cases h
      rfl
    · cases h
  · cases h

/-- The manual facts of a row are read from its manual fields. -/
theorem validate_congr {rt : Runtime} {other : RawCashFlowRecord}
    (hid : other.recordId = record.recordId)
    (hget : ∀ name ∈ ["flow_date", "account", "broker", "amount", "currency", "remark"],
      other.get name = record.get name) :
    ManualCashFlowFacts.validate rt other = ManualCashFlowFacts.validate rt record := by
  have hdate := hget "flow_date" (by simp)
  have haccount := hget "account" (by simp)
  have hbroker := hget "broker" (by simp)
  have hamount := hget "amount" (by simp)
  have hcurrency := hget "currency" (by simp)
  have hremark := hget "remark" (by simp)
  unfold ManualCashFlowFacts.validate ManualCashFlowFacts.issues
  simp only [hid, hdate, haccount, hbroker, hamount, hcurrency, hremark]

/-- A plan keeps the manual fields. -/
theorem validate_written {rt' : Runtime} :
    ManualCashFlowFacts.validate rt' (record.written (proposedUpdates rt record manual rate cny)) =
      ManualCashFlowFacts.validate rt' record := by
  refine validate_congr rfl fun name hname => record.get_written_of_not_mem fun hmem => ?_
  have hupdated := keys_proposedUpdates hmem
  simp only [List.mem_cons, List.not_mem_nil, or_false] at hname hupdated
  rcases hname with rfl | rfl | rfl | rfl | rfl | rfl <;> simp at hupdated

/-- The row a plan validates has the manual facts of the row it plans. -/
theorem validate_completedRecord
    (h : ManualCashFlowFacts.validate rt.toRuntime record = .ok manual) :
    ManualCashFlowFacts.validate rt.toRuntime (completedRecord rt record manual rate cny) =
      .ok manual := by
  obtain ⟨haccount, hbroker, hamount⟩ := Accepted.facts ⟨record, h⟩
  obtain ⟨hdate, hgetAccount, hgetBroker, hgetAmount, hcurrency, -, -, -, -, -, hremark⟩ :=
    @get_completedRecord rt record manual rate cny
  have hid : (completedRecord rt record manual rate cny).recordId = manual.recordId := by
    rw [ManualCashFlowFacts.recordId_of_validate h]
    rfl
  generalize completedRecord rt record manual rate cny = completed at *
  have hfields := @validate_canonical rt.toRuntime completed
    ⟨manual.account, manual.broker, manual.flowDate, .deposit, manual.amount, manual.currency⟩
    haccount hbroker hamount hdate hgetAccount hgetBroker hgetAmount hcurrency
  rw [hfields, hremark, ← remark_of_validate h, hid]

/-- The contract accepts a row exactly when it is complete for its manual facts. -/
theorem exists_validateRecord_iff {rt : Runtime}
    (h : ManualCashFlowFacts.validate rt record = .ok manual) :
    (∃ facts, CompletedCashFlowFacts.validateRecord rt record = .ok facts) ↔
      Complete rt record manual := by
  unfold CompletedCashFlowFacts.validateRecord
  simp only [h]
  exact exists_validate_iff

/-! ## Plans -/

@[simp] theorem updates_plannedRow {completed : CompletedCashFlowFacts}
    {evidence : Option FxEvidence} :
    (plannedRow rt record manual rate cny completed evidence).updates =
      proposedUpdates rt record manual rate cny := rfl

/-- What a plan rests on: a positive rate, the CNY amount it makes, and values that are complete. -/
theorem planReconcileRow_ok_iff {args : ReconcileArguments} {row : ReconcileRow} :
    planReconcileRow rt record manual args = .ok row ↔
      ∃ rate evidence cny completed, resolveRate rt record manual args = .ok (rate, evidence) ∧
        0 < rate.coefficient ∧ money? (Decimal.mul ⟨manual.amount, -2⟩ rate) = some cny ∧
        CompletedCashFlowFacts.validateRecord rt.toRuntime
          (completedRecord rt record manual rate cny) = .ok completed ∧
        row = plannedRow rt record manual rate cny completed evidence := by
  have hrequire : ∀ rate, requirePositiveRate (.decimal rate) =
      if 0 < rate.coefficient then .ok rate
      else .error (.text "exchange_rate must be a finite positive Decimal") := fun _ => rfl
  unfold planReconcileRow
  constructor
  · intro h
    obtain ⟨⟨rate, evidence⟩, hresolve, h⟩ := except_bind_ok h
    obtain ⟨rate', hrate, h⟩ := except_bind_ok h
    rw [hrequire] at hrate
    by_cases hpositive : 0 < rate.coefficient
    · rw [if_pos hpositive] at hrate
      obtain rfl : rate = rate' := Except.ok.inj hrate
      cases hproduct : money? (Decimal.mul ⟨manual.amount, -2⟩ rate) with
      | none =>
        simp only [hproduct] at h
        cases h
      | some cny =>
        simp only [hproduct] at h
        cases hvalid : CompletedCashFlowFacts.validateRecord rt.toRuntime
            (completedRecord rt record manual rate cny) with
        | error issues =>
          simp only [hvalid] at h
          cases h
        | ok completed =>
          simp only [hvalid] at h
          cases h
          exact ⟨rate, evidence, cny, completed, hresolve, hpositive, hproduct, hvalid, rfl⟩
    · rw [if_neg hpositive] at hrate
      cases hrate
  · rintro ⟨rate, evidence, cny, completed, hresolve, hpositive, hproduct, hvalid, rfl⟩
    have hthen : ∀ {α β : Type} (a : α) (f : α → Except ReconcileError β),
        ((.ok a : Except ReconcileError α) >>= f) = f a := fun _ _ => rfl
    rw [hresolve, hthen]
    simp only
    rw [hrequire, if_pos hpositive, hthen]
    simp only [hproduct, hvalid]

/-- The rate a plan resolved for a valid row fits, and so do the source and the fingerprint. -/
theorem complete_of_plan {completed : CompletedCashFlowFacts}
    (hmanual : ManualCashFlowFacts.validate rt.toRuntime record = .ok manual)
    (hvalid : CompletedCashFlowFacts.validateRecord rt.toRuntime
      (completedRecord rt record manual rate cny) = .ok completed) :
    (manual.currency = .cny → rate.equal (.ofInt 1) = true) ∧
      strip (manual.expectedDedupKey rt.toRuntime) ≠ "" ∧
      strip (manual.expectedDedupKey rt.toRuntime) = manual.expectedDedupKey rt.toRuntime ∧
      ∃ s, (sourceUpdate (record.get "source")).getD (record.get "source") = .text s ∧
        strip s ≠ "" := by
  obtain ⟨-, ⟨rate', cny', hfit⟩, ⟨key, hkey, hblank, hexpected⟩, ⟨s, hs, hsource⟩⟩ :=
    (exists_validateRecord_iff (validate_completedRecord hmanual)).mp ⟨completed, hvalid⟩
  obtain ⟨-, -, -, -, -, -, hrate, -, hdedup, hgetSource, -⟩ :=
    @get_completedRecord rt record manual rate cny
  rw [hdedup] at hkey
  obtain rfl := Cell.text.inj hkey
  refine ⟨?_, hblank, hexpected fun hempty => hblank ?_, s, hgetSource.symm.trans hs, hsource⟩
  · rw [hrate] at hfit
    exact (hfit.own rfl).cnyRate
  · rw [hempty]
    rfl

/-! ## Writing a plan -/

/-- The numbers a plan writes are written as floats of the same value. -/
def FloatsKept (rt : ReconcileRuntime) (record : RawCashFlowRecord) (manual : ManualCashFlowFacts)
    (args : ReconcileArguments) : Prop :=
  ∀ rate evidence cny, resolveRate rt record manual args = .ok (rate, evidence) →
    money? (Decimal.mul ⟨manual.amount, -2⟩ rate) = some cny →
    (decimalMatches (record.get "exchange_rate") rate = false → rt.Keeps rate) ∧
      (moneyMatches (record.get "cny_amount") cny = false → rt.Keeps ⟨cny, -2⟩)

theorem decimalMatches_of_read {raw : Cell} {x : Decimal} (h : raw.toDecimal = some x) :
    decimalMatches raw rate = x.equal rate := by
  unfold decimalMatches
  rw [h]

theorem moneyMatches_of_read {raw : Cell} {x : Decimal} (h : raw.toDecimal = some x) :
    moneyMatches raw cny = decide (money? x = some cny) := by
  unfold moneyMatches
  rw [h]

/-- The rate of a row after a plan is the planned one. -/
theorem toDecimal_rateUpdate {raw : Cell}
    (hkept : decimalMatches raw rate = false → rt.Keeps rate) :
    ∃ x, ((exchangeRateUpdate rt rate raw).getD raw).toDecimal = some x ∧ x.equal rate = true := by
  unfold exchangeRateUpdate
  cases hmatches : decimalMatches raw rate with
  | true =>
    cases hread : raw.toDecimal with
    | none =>
      unfold decimalMatches at hmatches
      rw [hread] at hmatches
      cases hmatches
    | some x => exact ⟨x, hread, (decimalMatches_of_read hread).symm.trans hmatches⟩
  | false =>
    obtain ⟨y, hfloat, hequal⟩ := hkept hmatches
    refine ⟨y, ?_, hequal⟩
    simp [ReconcileRuntime.floatCell, hfloat, Cell.toDecimal]

/-- The CNY amount of a row after a plan is the planned one. -/
theorem toDecimal_cnyUpdate {raw : Cell} (hcny : cny.natAbs < 10 ^ Decimal.precision)
    (hkept : moneyMatches raw cny = false → rt.Keeps ⟨cny, -2⟩) :
    ∃ y, ((cnyAmountUpdate rt cny raw).getD raw).toDecimal = some y ∧ money? y = some cny := by
  have hmoney : money? ⟨cny, -2⟩ = some cny := by
    have hdigits := (Decimal.digitCount_le (by decide)).mpr hcny
    unfold money? Decimal.quantize
    simp [hdigits]
  unfold cnyAmountUpdate
  cases hmatches : moneyMatches raw cny with
  | true =>
    cases hread : raw.toDecimal with
    | none =>
      unfold moneyMatches at hmatches
      rw [hread] at hmatches
      cases hmatches
    | some x =>
      rw [moneyMatches_of_read hread] at hmatches
      exact ⟨x, hread, of_decide_eq_true hmatches⟩
  | false =>
    obtain ⟨y, hfloat, hequal⟩ := hkept hmatches
    refine ⟨y, ?_, ?_⟩
    · simp [ReconcileRuntime.floatCell, hfloat, Cell.toDecimal]
    · exact (Decimal.eq_of_equal (fun x k => Decimal.quantize_extended x k (-2)) hequal).trans hmoney

/-- The direction of a row after a plan is the expected one. -/
theorem text_flowTypeUpdate (raw : Cell) :
    ∃ s, (flowTypeUpdate manual raw).getD raw = .text s ∧
      upper (strip s) = manual.expectedFlowType.value := by
  have hexpected : upper (strip manual.expectedFlowType.value) = manual.expectedFlowType.value := by
    cases manual.expectedFlowType <;> rfl
  unfold flowTypeUpdate
  cases raw with
  | text s =>
    by_cases hsame : upper (strip s) = manual.expectedFlowType.value
    · exact ⟨s, by simp [hsame], hsame⟩
    · exact ⟨_, by simp [hsame], hexpected⟩
  | _ => exact ⟨_, rfl, hexpected⟩

/-- A row that a plan is written to is complete. -/
theorem complete_written {args : ReconcileArguments} {evidence : Option FxEvidence}
    {completed : CompletedCashFlowFacts}
    (hmanual : ManualCashFlowFacts.validate rt.toRuntime record = .ok manual)
    (hresolve : resolveRate rt record manual args = .ok (rate, evidence))
    (hpositive : 0 < rate.coefficient)
    (hproduct : money? (Decimal.mul ⟨manual.amount, -2⟩ rate) = some cny)
    (hvalid : CompletedCashFlowFacts.validateRecord rt.toRuntime
      (completedRecord rt record manual rate cny) = .ok completed)
    (hkept : FloatsKept rt record manual args) :
    Complete rt.toRuntime (record.written (proposedUpdates rt record manual rate cny)) manual ∧
      NumbersFit manual
        ((record.written (proposedUpdates rt record manual rate cny)).get "exchange_rate")
        ((record.written (proposedUpdates rt record manual rate cny)).get "cny_amount") rate cny := by
  obtain ⟨hone, hblank, hstrip, hsource⟩ := complete_of_plan hmanual hvalid
  obtain ⟨hrateKept, hcnyKept⟩ := hkept rate evidence cny hresolve hproduct
  obtain ⟨htype, hrate, hcny, hdedup, hgetSource⟩ := @get_written_proposed rt record manual rate cny
  have hnumbers : NumbersFit manual
      ((record.written (proposedUpdates rt record manual rate cny)).get "exchange_rate")
      ((record.written (proposedUpdates rt record manual rate cny)).get "cny_amount") rate cny :=
    ⟨hrate ▸ toDecimal_rateUpdate hrateKept, hpositive, hone,
      hcny ▸ toDecimal_cnyUpdate (Decimal.natAbs_of_quantize hproduct) hcnyKept, hproduct⟩
  exact ⟨⟨htype ▸ text_flowTypeUpdate _, ⟨rate, cny, hnumbers⟩, ⟨_, hdedup, hblank, fun _ => hstrip⟩,
    hgetSource ▸ hsource⟩, hnumbers⟩

/-! ## Planning a complete row -/

/-- A complete row with its own fingerprint needs no update at a rate its own is equal to. -/
theorem proposedUpdates_of_complete (hcomplete : Complete rt.toRuntime record manual)
    (hfit : NumbersFit manual (record.get "exchange_rate") (record.get "cny_amount") rate cny)
    (hdedup : record.get "dedup_key" = .text (manual.expectedDedupKey rt.toRuntime)) :
    proposedUpdates rt record manual rate cny = [] := by
  obtain ⟨s, hs, hupper⟩ := hcomplete.flowType
  obtain ⟨source, hsource, hblank⟩ := hcomplete.source
  obtain ⟨x, hx, hequal⟩ := hfit.readRate
  obtain ⟨y, hy, hmoney⟩ := hfit.readCny
  have htype : flowTypeUpdate manual (record.get "flow_type") = none := by
    unfold flowTypeUpdate
    rw [hs]
    simp only
    rw [if_pos hupper]
  have hrate : exchangeRateUpdate rt rate (record.get "exchange_rate") = none := by
    unfold exchangeRateUpdate
    rw [decimalMatches_of_read hx, if_pos hequal]
  have hcny : cnyAmountUpdate rt cny (record.get "cny_amount") = none := by
    unfold cnyAmountUpdate
    rw [moneyMatches_of_read hy, if_pos (decide_eq_true hmoney)]
  have hkey : dedupKeyUpdate rt manual (record.get "dedup_key") = none := by
    unfold dedupKeyUpdate
    rw [if_pos hdedup]
  have hgetSource : sourceUpdate (record.get "source") = none := by
    unfold sourceUpdate
    rw [hsource]
    simp only
    rw [if_neg hblank]
  simp [proposedUpdates, htype, hrate, hcny, hkey, hgetSource, entry]

/-- The values a plan assumes for a complete row are complete. -/
theorem validateRecord_completedRecord
    (hmanual : ManualCashFlowFacts.validate rt.toRuntime record = .ok manual)
    (hcomplete : Complete rt.toRuntime record manual)
    (hfit : NumbersFit manual (record.get "exchange_rate") (record.get "cny_amount") rate cny)
    (hdedup : record.get "dedup_key" = .text (manual.expectedDedupKey rt.toRuntime)) :
    ∃ completed, CompletedCashFlowFacts.validateRecord rt.toRuntime
      (completedRecord rt record manual rate cny) = .ok completed := by
  refine (exists_validateRecord_iff (validate_completedRecord hmanual)).mpr ?_
  obtain ⟨-, -, -, -, -, htype, hrate, hcny, hkey, hsource, -⟩ :=
    @get_completedRecord rt record manual rate cny
  obtain ⟨key, hgetKey, hblank, hexpected⟩ := hcomplete.dedupKey
  obtain rfl := Cell.text.inj (hgetKey.symm.trans hdedup)
  obtain ⟨source, hgetSource, hsourceBlank⟩ := hcomplete.source
  have hmoney : money? ⟨cny, -2⟩ = some cny := by
    have hdigits := (Decimal.digitCount_le (by decide)).mpr
      (Decimal.natAbs_of_quantize hfit.product)
    unfold money? Decimal.quantize
    simp [hdigits]
  refine ⟨⟨_, htype, by cases manual.expectedFlowType <;> rfl⟩, ⟨rate, cny, ?_⟩,
    ⟨_, hkey, hblank, hexpected⟩, ⟨source, ?_, hsourceBlank⟩⟩
  · rw [hrate, hcny]
    exact ⟨⟨rate, rfl, Decimal.equal_self rate⟩, hfit.positive, hfit.cnyRate, ⟨_, rfl, hmoney⟩,
      hfit.product⟩
  · rw [hsource, hgetSource]
    simp [sourceUpdate, hsourceBlank]

/-- A complete row with its own fingerprint is planned without updates. -/
theorem plan_of_complete {args : ReconcileArguments} {evidence : Option FxEvidence}
    (hmanual : ManualCashFlowFacts.validate rt.toRuntime record = .ok manual)
    (hcomplete : Complete rt.toRuntime record manual)
    (hdedup : record.get "dedup_key" = .text (manual.expectedDedupKey rt.toRuntime))
    (hresolve : resolveRate rt record manual args = .ok (rate, evidence))
    (hrate : decimalMatches (record.get "exchange_rate") rate = true) :
    ∃ row, planReconcileRow rt record manual args = .ok row ∧ row.updates = [] := by
  obtain ⟨own, cny, hown⟩ := hcomplete.numbers
  obtain ⟨x, hx, -⟩ := hown.readRate
  have hequal : x.equal rate = true := decimalMatches_of_read hx ▸ hrate
  have hfit := hown.of_equal hx hequal
  obtain ⟨completed, hvalid⟩ := validateRecord_completedRecord hmanual hcomplete hfit hdedup
  exact ⟨_, planReconcileRow_ok_iff.mpr
    ⟨rate, evidence, cny, completed, hresolve, hfit.positive, hfit.product, hvalid, rfl⟩,
    proposedUpdates_of_complete hcomplete hfit hdedup⟩

/-- Without manual evidence a complete row is planned at its own rate. -/
theorem resolveRate_of_complete {args : ReconcileArguments}
    (hcomplete : Complete rt.toRuntime record manual) (hargs : args.manualExchangeRate = none) :
    ∃ rate, resolveRate rt record manual args = .ok (rate, none) ∧
      decimalMatches (record.get "exchange_rate") rate = true := by
  obtain ⟨own, cny, hown⟩ := hcomplete.numbers
  obtain ⟨x, hx, -⟩ := hown.readRate
  have hfit := hown.own hx
  unfold resolveRate
  rw [hargs]
  by_cases hcny : manual.currency = .cny
  · rw [if_pos hcny]
    exact ⟨.ofInt 1, rfl, (decimalMatches_of_read hx).trans (hfit.cnyRate hcny)⟩
  · have hpresent : record.get "exchange_rate" ≠ .null ∧ record.get "exchange_rate" ≠ .text "" :=
      not_or.mp (present_of_toDecimal hx)
    have hrequire : requirePositiveRate (record.get "exchange_rate") = .ok x := by
      unfold requirePositiveRate
      simp only [hx, if_pos hfit.positive]
    refine ⟨x, ?_, (decimalMatches_of_read hx).trans (Decimal.equal_self x)⟩
    rw [if_neg hcny]
    simp only
    rw [if_pos hpresent, hrequire]
    rfl

/-- Manual evidence gives the same rate whatever the row holds. -/
theorem resolveRate_manual {args args' : ReconcileArguments} {other : RawCashFlowRecord} {m : Decimal}
    {evidence : Option FxEvidence} (hargs : args.manualExchangeRate = some m)
    (hsame : args'.manualExchangeRate = args.manualExchangeRate)
    (hdate : args'.rateDate = args.rateDate)
    (hresolve : resolveRate rt record manual args = .ok (rate, evidence)) :
    rate = m ∧ ∃ evidence', resolveRate rt other manual args' = .ok (rate, evidence') := by
  unfold resolveRate at hresolve ⊢
  rw [hsame, hargs, hdate]
  rw [hargs] at hresolve
  by_cases hcny : manual.currency = .cny
  · rw [if_pos hcny] at hresolve
    cases hresolve
  · rw [if_neg hcny] at hresolve ⊢
    simp only at hresolve ⊢
    by_cases hday : args.rateDate ≠ some manual.flowDate
    · rw [if_pos hday] at hresolve
      cases hresolve
    · rw [if_neg hday] at hresolve ⊢
      cases hresolve
      exact ⟨rfl, _, rfl⟩

/-! ## Reconciliation -/

/-- A fingerprint stored without surrounding blanks. -/
def PlainKey (record : RawCashFlowRecord) : Prop :=
  ∀ s, record.get "dedup_key" = .text s → strip s = s

/-- A plan changes only the fields it names. When the numbers it writes survive as floats, the row
it is written to passes the contract with the same manual facts, and is planned again without
updates, with the same manual evidence or none. A row that passes the contract, with a plain
fingerprint, is planned without updates unless manual evidence has another rate. -/
theorem reconcile_settles_row {args : ReconcileArguments} {row : ReconcileRow}
    (hmanual : ManualCashFlowFacts.validate rt.toRuntime record = .ok manual)
    (hplan : planReconcileRow rt record manual args = .ok row) :
    (∀ name, name ∉ row.updates.map Prod.fst →
      (record.written row.updates).get name = record.get name) ∧
    (FloatsKept rt record manual args →
      ManualCashFlowFacts.validate rt.toRuntime (record.written row.updates) = .ok manual ∧
      (∃ facts, CompletedCashFlowFacts.validateRecord rt.toRuntime (record.written row.updates) =
        .ok facts) ∧
      ∀ args' : ReconcileArguments, args'.manualExchangeRate = none ∨
          args'.manualExchangeRate = args.manualExchangeRate ∧ args'.rateDate = args.rateDate →
        ∃ row', planReconcileRow rt (record.written row.updates) manual args' = .ok row' ∧
          row'.updates = []) ∧
    ((∃ facts, CompletedCashFlowFacts.validateRecord rt.toRuntime record = .ok facts) →
      PlainKey record →
      (∀ m ∈ args.manualExchangeRate, decimalMatches (record.get "exchange_rate") m = true) →
      row.updates = []) := by
  obtain ⟨rate, evidence, cny, completed, hresolve, hpositive, hproduct, hvalid, rfl⟩ :=
    planReconcileRow_ok_iff.mp hplan
  rw [updates_plannedRow]
  refine ⟨fun name => record.get_written_of_not_mem, fun hkept => ?_, fun hpasses hplain hrates => ?_⟩
  · obtain ⟨hcomplete, hfit⟩ :=
      complete_written hmanual hresolve hpositive hproduct hvalid hkept
    have hfacts : ManualCashFlowFacts.validate rt.toRuntime
        (record.written (proposedUpdates rt record manual rate cny)) = .ok manual :=
      validate_written.trans hmanual
    refine ⟨hfacts, (exists_validateRecord_iff hfacts).mpr hcomplete, fun args' hargs' => ?_⟩
    obtain ⟨-, -, -, hdedup, -⟩ := @get_written_proposed rt record manual rate cny
    rcases Option.eq_none_or_eq_some args'.manualExchangeRate with hnone | ⟨m, hsome⟩
    · obtain ⟨own, hown, hmatches⟩ := resolveRate_of_complete hcomplete hnone
      exact plan_of_complete hfacts hcomplete hdedup hown hmatches
    · obtain ⟨hsame, hdate⟩ := hargs'.resolve_left (by simp [hsome])
      obtain ⟨rfl, evidence', hresolve'⟩ :=
        resolveRate_manual (hsame.symm.trans hsome) hsame hdate hresolve
      obtain ⟨x, hx, hequal⟩ := hfit.readRate
      exact plan_of_complete hfacts hcomplete hdedup hresolve'
        ((decimalMatches_of_read hx).trans hequal)
  · have hcomplete := (exists_validateRecord_iff hmanual).mp hpasses
    obtain ⟨-, hblank, hstrip, -⟩ := complete_of_plan hmanual hvalid
    obtain ⟨key, hkey, -, hexpected⟩ := hcomplete.dedupKey
    have hdedup : record.get "dedup_key" = .text (manual.expectedDedupKey rt.toRuntime) := by
      rw [hkey, ← hexpected fun hempty => hblank (by rw [hempty]; rfl), hplain key hkey]
    have hmatches : decimalMatches (record.get "exchange_rate") rate = true := by
      rcases Option.eq_none_or_eq_some args.manualExchangeRate with hnone | ⟨m, hsome⟩
      · obtain ⟨own, hown, hmatches⟩ := resolveRate_of_complete hcomplete hnone
        obtain ⟨rfl, -⟩ := Prod.mk.inj (Except.ok.inj (hown.symm.trans hresolve))
        exact hmatches
      · obtain ⟨rfl, -⟩ := @resolveRate_manual rt record manual rate args args record m evidence hsome
          rfl rfl hresolve
        exact hrates rate hsome
    obtain ⟨row, hrow, hupdates⟩ := plan_of_complete hmanual hcomplete hdedup hresolve hmatches
    rw [hplan] at hrow
    cases hrow
    exact hupdates

end

/-! ## Plans of a USD deposit -/

/-- A rate of twenty digits. -/
def longRate : Decimal := ⟨71234567890123456789, -19⟩

/-- The standard library on the texts of the ledger's rows and on `longRate`. -/
def reconcileRuntime : ReconcileRuntime where
  toRuntime := ledgerRuntime
  float x := some (if x = longRate then ⟨7123456789012345, -15⟩ else x)
  isoDay _ := none

/-- A deposit of 50 USD without generated fields. -/
def plainUsdRow : RawCashFlowRecord :=
  .make "cf_1"
    [("flow_date", .date ledgerDate), ("account", .text "a"), ("broker", .text "某券商"),
      ("amount", .int 50), ("currency", .text "USD")]

/-- The manual facts of that deposit. -/
def usdDeposit : ManualCashFlowFacts := ⟨"cf_1", ledgerDate, "a", "某券商", 5000, .usd, none⟩

/-- A provider's rate. -/
def providerArguments : ReconcileArguments :=
  ⟨[("USDCNY", .record (.float ⟨72, -1⟩) .null (.text "historical-provider"))], none, none, none⟩

/-- Manual evidence of a rate. -/
def manualArguments (rate : Decimal) : ReconcileArguments :=
  ⟨[], some rate, some ledgerDate, some "bank statement"⟩

/-- The fields a plan changes. -/
def changedFields (record : RawCashFlowRecord) (args : ReconcileArguments) : Option (List String) :=
  ((planReconcileRow reconcileRuntime record usdDeposit args).toOption).map
    fun row => row.updates.map Prod.fst

/-- A deposit completed with a provider's rate is settled. -/
theorem plain_usd_row_is_settled :
    ∃ row, planReconcileRow reconcileRuntime plainUsdRow usdDeposit providerArguments = .ok row ∧
      row.updates.map Prod.fst =
        ["flow_type", "exchange_rate", "cny_amount", "dedup_key", "source"] ∧
      (∃ facts, CompletedCashFlowFacts.validateRecord ledgerRuntime
        (plainUsdRow.written row.updates) = .ok facts) ∧
      ∃ row', planReconcileRow reconcileRuntime (plainUsdRow.written row.updates) usdDeposit
        providerArguments = .ok row' ∧ row'.updates = [] := by
  have hmanual : ManualCashFlowFacts.validate ledgerRuntime plainUsdRow = .ok usdDeposit := by
    decide +kernel
  have hchanged : changedFields plainUsdRow providerArguments =
      some ["flow_type", "exchange_rate", "cny_amount", "dedup_key", "source"] := by
    decide +kernel
  unfold changedFields at hchanged
  cases hplan : planReconcileRow reconcileRuntime plainUsdRow usdDeposit providerArguments with
  | error exc =>
    rw [hplan] at hchanged
    cases hchanged
  | ok row =>
    rw [hplan] at hchanged
    have hrate : resolveRate reconcileRuntime plainUsdRow usdDeposit providerArguments =
        .ok (⟨72, -1⟩, some ⟨"2025-03-14", "historical-provider", "provider"⟩) := by
      decide +kernel
    have hkept : FloatsKept reconcileRuntime plainUsdRow usdDeposit providerArguments := by
      intro rate evidence cny hresolve hproduct
      rw [hrate] at hresolve
      cases hresolve
      have hcny : cny = 36000 := by
        have hexact : money? (Decimal.mul ⟨usdDeposit.amount, -2⟩ ⟨72, -1⟩) = some 36000 := by
          decide +kernel
        exact Option.some.inj (hproduct.symm.trans hexact)
      subst hcny
      exact ⟨fun _ => ⟨⟨72, -1⟩, by decide, by decide⟩, fun _ => ⟨⟨36000, -2⟩, by decide, by decide⟩⟩
    obtain ⟨-, hsettled, -⟩ := reconcile_settles_row hmanual hplan
    obtain ⟨-, hfacts, hagain⟩ := hsettled hkept
    exact ⟨row, rfl, Option.some.inj hchanged, hfacts, hagain providerArguments (.inl rfl)⟩

/-- A row that passes the contract is planned anew with manual evidence of another rate, and when
its fingerprint is stored with a blank; a rate of twenty digits is written with sixteen, and is
planned again with the same evidence. -/
theorem settled_rows_are_planned_again :
    ManualCashFlowFacts.validate ledgerRuntime usdRow = .ok usdDeposit ∧
    (CompletedCashFlowFacts.validateRecord ledgerRuntime usdRow).isOk = true ∧
    changedFields usdRow (manualArguments ⟨73, -1⟩) = some ["exchange_rate", "cny_amount"] ∧
    (CompletedCashFlowFacts.validateRecord ledgerRuntime
      (usdRow.written [("dedup_key", .text "3da0d81060faeb6a ")])).isOk = true ∧
    changedFields (usdRow.written [("dedup_key", .text "3da0d81060faeb6a ")]) providerArguments =
      some ["dedup_key"] ∧
    ((planReconcileRow reconcileRuntime plainUsdRow usdDeposit
      (manualArguments longRate)).toOption.bind fun row =>
        changedFields (plainUsdRow.written row.updates) (manualArguments longRate)) =
      some ["exchange_rate"] := by
  decide +kernel

end PortfolioManagement.Ledger
