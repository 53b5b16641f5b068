import PortfolioManagement.Lib.DecimalValue
import PortfolioManagement.Ledger.Partition

/-!
# When a row is complete

`CompletedCashFlowFacts.validate` reports issues field by field. A row passes exactly when its
direction is the expected one, its rate is positive (and one for CNY), its CNY amount is the amount
times the rate, its fingerprint the expected one, and its source some text.
-/

namespace PortfolioManagement.Ledger

/-! ## Readers that succeed -/

section
variable {recordId field : String} {raw : Cell}

theorem requiredText_ok_iff {t : String} :
    requiredText recordId field raw = .ok t ↔ ∃ s, raw = .text s ∧ strip s ≠ "" ∧ strip s = t := by
  unfold requiredText
  cases raw with
  | text s =>
    simp only [Cell.text.injEq, exists_eq_left']
    by_cases hblank : strip s = ""
    · rw [if_pos hblank]
      exact iff_of_false (fun h => by cases h) fun h => h.1 hblank
    · rw [if_neg hblank]
      exact ⟨fun h => ⟨hblank, Except.ok.inj h⟩, fun h => congrArg Except.ok h.2⟩
  | _ => exact iff_of_false (fun h => by cases h) fun ⟨_, h, _⟩ => by cases h

/-- A number that is read is neither missing nor empty. -/
theorem present_of_toDecimal {x : Decimal} (h : raw.toDecimal = some x) :
    ¬ (raw = .null ∨ raw = .text "") := by
  rintro (rfl | rfl)
  · cases h
  · have hempty : Cell.toDecimal (.text "") = none := by decide +kernel
    rw [hempty] at h
    cases h

theorem finiteDecimal_of_toDecimal {x : Decimal} (nonzero positive : Bool)
    (h : raw.toDecimal = some x) (hzero : nonzero = true → x.coefficient ≠ 0)
    (hpositive : positive = true → 0 < x.coefficient) :
    finiteDecimal recordId field raw nonzero positive = .ok x := by
  unfold finiteDecimal
  rw [if_neg (present_of_toDecimal h), h]
  simp only
  rw [if_neg (by simpa using hzero), if_neg (by simpa using hpositive)]

theorem checked_of_finiteDecimal {x : Decimal} {nonzero positive : Bool}
    (h : finiteDecimal recordId field raw nonzero positive = .ok x) :
    raw.toDecimal = some x ∧ (nonzero = true → x.coefficient ≠ 0) ∧
      (positive = true → 0 < x.coefficient) := by
  unfold finiteDecimal at h
  split at h
  · cases h
  · split at h
    · cases h
    · next y hread =>
      by_cases hzero : (nonzero && decide (y.coefficient = 0)) = true
      · rw [if_pos hzero] at h
        cases h
      · rw [if_neg hzero] at h
        by_cases hpositive : (positive && decide (y.coefficient ≤ 0)) = true
        · rw [if_pos hpositive] at h
          cases h
        · rw [if_neg hpositive] at h
          cases h
          exact ⟨hread, by simpa using hzero, by simpa using hpositive⟩

theorem ofText_eq_some {s : String} {t : CashFlowType} :
    CashFlowType.ofText s = some t ↔ s = t.value := by
  unfold CashFlowType.ofText
  by_cases hdeposit : s = "DEPOSIT"
  · subst hdeposit
    cases t <;> decide
  · rw [if_neg hdeposit]
    by_cases hwithdraw : s = "WITHDRAW"
    · subst hwithdraw
      cases t <;> decide
    · rw [if_neg hwithdraw]
      refine iff_of_false (fun h => by cases h) fun h => ?_
      cases t
      · exact hdeposit h
      · exact hwithdraw h

theorem flowType_ok_iff {manual : ManualCashFlowFacts} {t : CashFlowType} :
    flowType recordId manual raw = .ok t ↔
      (∃ s, raw = .text s ∧ upper (strip s) = manual.expectedFlowType.value) ∧
        manual.expectedFlowType = t := by
  unfold flowType
  cases raw with
  | text s =>
    simp only [Cell.text.injEq, exists_eq_left']
    by_cases hblank : strip s = ""
    · have hne : upper (strip s) ≠ manual.expectedFlowType.value := by
        rw [hblank]
        cases manual.expectedFlowType <;> decide +kernel
      rw [if_pos hblank]
      exact iff_of_false (fun h => by cases h) fun h => hne h.1
    · rw [if_neg hblank]
      constructor
      · intro h
        split at h
        · cases h
        · next t' ht' =>
          by_cases hsame : t' = manual.expectedFlowType
          · rw [if_pos hsame] at h
            cases h
            exact ⟨hsame ▸ ofText_eq_some.mp ht', hsame.symm⟩
          · rw [if_neg hsame] at h
            cases h
      · rintro ⟨hupper, rfl⟩
        rw [ofText_eq_some.mpr hupper]
        simp
  | _ => exact iff_of_false (fun h => by cases h) fun ⟨⟨_, h, _⟩, _⟩ => by cases h

end

/-! ## Complete rows -/

/-- The rate and the CNY amount of a row fit the manual facts. -/
structure NumbersFit (manual : ManualCashFlowFacts) (exchangeRate cnyAmount : Cell)
    (rate : Decimal) (cny : Cents) : Prop where
  readRate : ∃ x, exchangeRate.toDecimal = some x ∧ x.equal rate = true
  positive : 0 < rate.coefficient
  cnyRate : manual.currency = .cny → rate.equal (.ofInt 1) = true
  readCny : ∃ y, cnyAmount.toDecimal = some y ∧ money? y = some cny
  product : money? (Decimal.mul ⟨manual.amount, -2⟩ rate) = some cny

/-- A rate the row's own is equal to fits as well. -/
theorem NumbersFit.of_equal {manual : ManualCashFlowFacts} {exchangeRate cnyAmount : Cell}
    {rate x rate' : Decimal} {cny : Cents} (h : NumbersFit manual exchangeRate cnyAmount rate cny)
    (hx : exchangeRate.toDecimal = some x) (hrate' : x.equal rate' = true) :
    NumbersFit manual exchangeRate cnyAmount rate' cny := by
  obtain ⟨x', hx', hrate⟩ := h.readRate
  obtain rfl : x = x' := Option.some.inj (hx.symm.trans hx')
  have hequal : rate'.equal rate = true := by
    rw [Decimal.equal_iff_value] at hrate hrate' ⊢
    exact hrate'.symm.trans hrate
  refine ⟨⟨x, hx, hrate'⟩, (Decimal.pos_of_equal hequal).mpr h.positive, fun hcny => ?_, h.readCny,
    (Decimal.quantize_mul_congr _ hequal _).trans h.product⟩
  have hone := h.cnyRate hcny
  rw [Decimal.equal_iff_value] at hequal hone ⊢
  exact hequal.trans hone

/-- The row's own rate fits. -/
theorem NumbersFit.own {manual : ManualCashFlowFacts} {exchangeRate cnyAmount : Cell}
    {rate x : Decimal} {cny : Cents} (h : NumbersFit manual exchangeRate cnyAmount rate cny)
    (hx : exchangeRate.toDecimal = some x) : NumbersFit manual exchangeRate cnyAmount x cny :=
  h.of_equal hx (Decimal.equal_self x)

/-- The generated fields of a row are those of its manual facts. -/
structure Complete (rt : Runtime) (record : RawCashFlowRecord) (manual : ManualCashFlowFacts) :
    Prop where
  flowType : ∃ s, record.get "flow_type" = .text s ∧
    upper (strip s) = manual.expectedFlowType.value
  numbers : ∃ rate cny,
    NumbersFit manual (record.get "exchange_rate") (record.get "cny_amount") rate cny
  dedupKey : ∃ s, record.get "dedup_key" = .text s ∧ strip s ≠ "" ∧
    (manual.expectedDedupKey rt ≠ "" → strip s = manual.expectedDedupKey rt)
  source : ∃ s, record.get "source" = .text s ∧ strip s ≠ ""

section
variable {rt : Runtime} {record : RawCashFlowRecord} {manual : ManualCashFlowFacts}

/-- The issues of numbers that are read are those of their product. -/
theorem numbers_issues_eq_nil {id : String} {rate cny : Decimal} :
    CompletedCashFlowFacts.cnyRateIssues id manual (.ok rate) = [] ∧
      CompletedCashFlowFacts.cnyQuantIssues id (.ok cny) = [] ∧
      CompletedCashFlowFacts.cnyAmountIssues id manual (.ok rate) (.ok cny) = [] ↔
    (manual.currency = .cny → rate.equal (.ofInt 1) = true) ∧
      ∃ q, money? cny = some q ∧ money? (Decimal.mul ⟨manual.amount, -2⟩ rate) = some q := by
  unfold CompletedCashFlowFacts.cnyRateIssues CompletedCashFlowFacts.cnyQuantIssues
    CompletedCashFlowFacts.cnyAmountIssues
  simp only
  refine and_congr ?_ ?_
  · by_cases hcny : manual.currency = .cny
    · cases rate.equal (.ofInt 1) <;> simp [hcny]
    · simp [hcny]
  · cases hread : money? cny with
    | none => simp
    | some q =>
      cases hproduct : money? (Decimal.mul ⟨manual.amount, -2⟩ rate) with
      | none => simp
      | some expected =>
        by_cases hsame : q = expected
        · simp [hsame]
        · have hne : expected ≠ q := fun h => hsame h.symm
          simp [hsame, hne]

theorem dedupIssues_eq_nil {id expected key : String} {t : CashFlowType} :
    CompletedCashFlowFacts.dedupIssues id expected (.ok t) (.ok key) = [] ↔
      (expected ≠ "" → key = expected) := by
  unfold CompletedCashFlowFacts.dedupIssues
  simp only
  by_cases hempty : expected = ""
  · simp [hempty]
  · by_cases hsame : key = expected
    · simp [hsame]
    · simp [hempty, hsame]

/-- The issues of a row whose generated fields are all read. -/
theorem issues_eq_nil_iff {t : CashFlowType} {rate cny : Decimal} {key source : String}
    (ht : flowType record.recordId manual (record.get "flow_type") = .ok t)
    (hr : finiteDecimal record.recordId "exchange_rate" (record.get "exchange_rate") false true =
      .ok rate)
    (hc : finiteDecimal record.recordId "cny_amount" (record.get "cny_amount") false false = .ok cny)
    (hk : requiredText record.recordId "dedup_key" (record.get "dedup_key") = .ok key)
    (hs : requiredText record.recordId "source" (record.get "source") = .ok source) :
    CompletedCashFlowFacts.issues rt record manual = [] ↔
      ((manual.currency = .cny → rate.equal (.ofInt 1) = true) ∧
        ∃ q, money? cny = some q ∧ money? (Decimal.mul ⟨manual.amount, -2⟩ rate) = some q) ∧
      (manual.expectedDedupKey rt ≠ "" → key = manual.expectedDedupKey rt) := by
  have hread : ∀ {α : Type} (a : α), issuesOf (.ok a : Except CashFlowValidationIssue α) = [] :=
    fun _ => rfl
  unfold CompletedCashFlowFacts.issues
  simp only [ht, hr, hc, hk, hs, hread, List.nil_append, List.append_nil, List.append_eq_nil_iff]
  rw [dedupIssues_eq_nil, ← @numbers_issues_eq_nil _ record.recordId]
  simp only [and_assoc]

/-- Exactly the complete rows pass the contract. -/
theorem exists_validate_iff :
    (∃ facts, CompletedCashFlowFacts.validate rt record manual = .ok facts) ↔
      Complete rt record manual := by
  constructor
  · rintro ⟨facts, h⟩
    unfold CompletedCashFlowFacts.validate at h
    simp only at h
    split at h
    · next t rate cny key source ht hr hc hk hs =>
      split at h
      · next quantized hissues hquantized =>
        obtain ⟨⟨hone, q, hq, hproduct⟩, hdedup⟩ :=
          (issues_eq_nil_iff ht hr hc hk hs).mp hissues
        obtain ⟨hrate, -, hpositive⟩ := checked_of_finiteDecimal hr
        obtain ⟨hcny, -⟩ := checked_of_finiteDecimal hc
        obtain ⟨k, hkeyText, hkey, rfl⟩ := requiredText_ok_iff.mp hk
        obtain ⟨s, hsourceText, hsource, rfl⟩ := requiredText_ok_iff.mp hs
        exact ⟨(flowType_ok_iff.mp ht).1,
          ⟨rate, q, ⟨rate, hrate, Decimal.equal_self rate⟩, hpositive rfl, hone,
            ⟨cny, hcny, hq⟩, hproduct⟩, ⟨k, hkeyText, hkey, hdedup⟩, ⟨s, hsourceText, hsource⟩⟩
      · cases h
    · cases h
  · rintro ⟨htype, ⟨rate, q, hfit⟩, ⟨k, hk, hkey, hdedup⟩, ⟨s, hs, hsource⟩⟩
    obtain ⟨x, hx, -⟩ := hfit.readRate
    obtain ⟨-, hpositive, hone, ⟨cny, hcny, hq⟩, hproduct⟩ := hfit.own hx
    have ht : flowType record.recordId manual (record.get "flow_type") =
        .ok manual.expectedFlowType := flowType_ok_iff.mpr ⟨htype, rfl⟩
    have hr : finiteDecimal record.recordId "exchange_rate" (record.get "exchange_rate") false true =
        .ok x := finiteDecimal_of_toDecimal false true hx (fun h => by cases h) fun _ => hpositive
    have hc : finiteDecimal record.recordId "cny_amount" (record.get "cny_amount") false false =
        .ok cny := finiteDecimal_of_toDecimal false false hcny (fun h => by cases h)
          fun h => by cases h
    have hkeyText : requiredText record.recordId "dedup_key" (record.get "dedup_key") =
        .ok (strip k) := requiredText_ok_iff.mpr ⟨k, hk, hkey, rfl⟩
    have hsourceText : requiredText record.recordId "source" (record.get "source") =
        .ok (strip s) := requiredText_ok_iff.mpr ⟨s, hs, hsource, rfl⟩
    have hissues :=
      (issues_eq_nil_iff ht hr hc hkeyText hsourceText).mpr ⟨⟨hone, q, hq, hproduct⟩, hdedup⟩
    refine ⟨⟨manual, manual.expectedFlowType, q, x, strip k, strip s, record.get "updated_at"⟩, ?_⟩
    unfold CompletedCashFlowFacts.validate
    simp only [ht, hr, hc, hkeyText, hsourceText, hissues, hq]

end

end PortfolioManagement.Ledger
