import PortfolioManagement.Domain.Keys
import PortfolioManagement.Lib.IndependentWrites
import PortfolioManagement.Lib.Unique
import PortfolioManagement.Validation.Validator

/-!
# Completing a holding settles its fields

What an outcome proposes is judged valid once it stands in the field, since what decides a proposal
is read from other fields: the asset id, the account and the broker, which nothing proposes, and the
asset type. Completing the type leaves the type the other fields are judged by as it is, for a missing
type they are already judged by the one proposed. So the proposals of a row are independent writes.
-/

namespace PortfolioManagement.Validation

open Ledger (Cell)
open Monitor (RawHoldingRecord holdingText holdingCurrencies nonblank holdingBrokerScope)

/-! ## Texts -/

/-- A text of capitals has nothing to strip. -/
theorem strip_of_capitals {s : String} (h : s.toList.all isCapital) : strip s = s := by
  have hspace : ∀ c ∈ s.toList, ¬ SpaceChar c := by
    intro c hc hblank
    have hcapital := List.all_eq_true.mp h c hc
    unfold isCapital at hcapital
    rw [Bool.and_eq_true, decide_eq_true_eq, decide_eq_true_eq] at hcapital
    obtain ⟨hlow, hhigh⟩ := hcapital
    have hle : 65 ≤ c.toNat := UInt32.le_iff_toNat_le.mp hlow
    have hge : c.toNat ≤ 90 := UInt32.le_iff_toNat_le.mp hhigh
    have hspace : isSpace c = true := hblank
    simp only [isSpace, Bool.or_eq_true, Bool.and_eq_true, decide_eq_true_eq, beq_iff_eq] at hspace
    omega
  refine strip_eq_self_iff.mpr ⟨fun c hc => hspace c ?_, fun c hc => hspace c ?_⟩
  · exact List.mem_of_head? hc
  · exact List.mem_of_getLast? hc

/-- The known currencies are codes. -/
theorem isCurrencyCode_of_mem {v : String} (h : v ∈ holdingCurrencies) : isCurrencyCode v := by
  have hall : holdingCurrencies.all isCurrencyCode = true := by decide +kernel
  exact List.all_eq_true.mp hall v h

section
variable (rt : ValidationRuntime)

theorem text_of_strip {s : String} (h : strip s ≠ "") : text rt (.text s) = some (strip s) := by
  show nonblank s = _
  unfold nonblank
  rw [if_neg h]

theorem text_currency {v : String} (h : v ∈ holdingCurrencies) :
    text rt (.text v) = some v ∧ rt.upper v = v := by
  have hcode := isCurrencyCode_of_mem h
  unfold isCurrencyCode at hcode
  rw [Bool.and_eq_true, Bool.and_eq_true] at hcode
  obtain ⟨⟨hcapitals, hlength⟩, -⟩ := hcode
  have hstrip := strip_of_capitals hcapitals
  refine ⟨?_, rt.upper_capital v hcapitals⟩
  have hne : strip v ≠ "" := by
    rw [hstrip]
    rintro rfl
    exact absurd hlength (by decide)
  rw [text_of_strip rt hne, hstrip]

@[simp] theorem text_assetType (t : AssetType) : text rt (.text t.value) = some t.value := by
  have hvalue : strip t.value = t.value ∧ t.value ≠ "" := by
    cases t <;> decide +kernel
  have hne : strip t.value ≠ "" := by
    rw [hvalue.1]
    exact hvalue.2
  rw [text_of_strip rt hne, hvalue.1]

@[simp] theorem lower_assetType (t : AssetType) : rt.lower t.value = t.value :=
  rt.lower_small t.value (by cases t <;> decide +kernel)

@[simp] theorem text_assetClass (c : AssetClass) : text rt (.text c.value) = some c.value := by
  have hvalue : strip c.value = c.value ∧ c.value ≠ "" := by
    cases c <;> decide +kernel
  have hne : strip c.value ≠ "" := by
    rw [hvalue.1]
    exact hvalue.2
  rw [text_of_strip rt hne, hvalue.1]

end

/-! ## Outcomes -/

namespace FieldOutcome

/-- The outcome proposes a value that may be written: a completion, or an accepted conflict. -/
def Proposes (o : FieldOutcome) (v : String) : Prop :=
  o.proposed = some v ∧ (o.status = .missingCompletable ∨ o.status = .conflict)

/-- What the outcome would complete its field with. -/
def completion (o : FieldOutcome) : Option String :=
  if o.status = .missingCompletable then o.proposed else none

theorem completion_eq_none {o : FieldOutcome} (h : o.status ≠ .missingCompletable) :
    o.completion = none := if_neg h

theorem status_of_completion {o : FieldOutcome} {v : String} (h : o.completion = some v) :
    o.status = .missingCompletable ∧ o.proposed = some v := by
  unfold completion at h
  by_cases hstatus : o.status = .missingCompletable
  · rw [if_pos hstatus] at h
    exact ⟨hstatus, h⟩
  · rw [if_neg hstatus] at h
    cases h

theorem proposes_of_completion {o : FieldOutcome} {v : String} (h : o.completion = some v) :
    o.Proposes v :=
  ⟨(status_of_completion h).2, .inl (status_of_completion h).1⟩

end FieldOutcome

section
variable {rt : ValidationRuntime} {value : Cell} {v : String}

/-! ### The type -/

/-- A proposed type is the authority's. -/
theorem assetType_proposes {p : Option (Proposal AssetType)} (h : (assetType rt value p).1.Proposes v) :
    ∃ q, p = some q ∧ v = q.value.value := by
  obtain ⟨hproposed, hstatus⟩ := h
  unfold assetType at hproposed hstatus
  cases htext : text rt value with
  | none =>
    cases p with
    | none =>
      rw [htext] at hproposed
      cases hproposed
    | some q =>
      rw [htext] at hproposed
      cases hproposed
      exact ⟨q, rfl, rfl⟩
  | some normalized =>
    simp only [htext] at hproposed hstatus
    cases htype : AssetType.ofValue (rt.lower normalized) with
    | none =>
      simp only [htype] at hproposed
      cases hproposed
    | some current =>
      cases p with
      | none =>
        simp only [htype] at hproposed
        cases hproposed
      | some q =>
        simp only [htype] at hproposed
        split at hproposed <;> cases hproposed <;> exact ⟨q, rfl, rfl⟩

/-- The authority's type, once written, is valid. -/
theorem assetType_written (q : Proposal AssetType) :
    (assetType rt (.text q.value.value) (some q)).1.status = .valid ∧
      (assetType rt (.text q.value.value) (some q)).2 = some q.value := by
  unfold assetType
  simp

/-- For a type to complete, the other fields are judged by the one proposed. -/
theorem assetType_completable {p : Option (Proposal AssetType)}
    (h : (assetType rt value p).1.status = .missingCompletable) :
    ∃ q, p = some q ∧ text rt value = none ∧ (assetType rt value p).2 = some q.value ∧
      (assetType rt value p).1.proposed = some q.value.value := by
  unfold assetType at h ⊢
  cases htext : text rt value with
  | none =>
    cases p with
    | none =>
      rw [htext] at h
      cases h
    | some q => exact ⟨q, rfl, rfl, rfl, rfl⟩
  | some normalized =>
    simp only [htext] at h
    split at h
    · cases h
    · split at h
      · cases h
      · split at h <;> cases h

theorem assetType_field (p : Option (Proposal AssetType)) :
    (assetType rt value p).1.field = "asset_type" := by
  unfold assetType
  split
  · split <;> rfl
  · split
    · rfl
    · split
      · rfl
      · split <;> rfl

/-! ### The name -/

section
variable {p : Option (Proposal String)} {fund : Option FundName}
  {hk : Option (String × String × Items String Cell)}

theorem assetName_field : (assetName rt value p fund hk).field = "asset_name" := by
  unfold assetName
  split
  · split <;> rfl
  · split
    · rfl
    · split <;> rfl

/-- A proposed name, once written, is valid. -/
theorem assetName_written (hp : ∀ q ∈ p, strip q.value = q.value ∧ q.value ≠ "")
    (hhk : ∀ q ∈ hk, strip q.2.1 = q.2.1 ∧ q.2.1 ≠ "") (h : (assetName rt value p fund hk).Proposes v) :
    (assetName rt (.text v) p fund hk).status = .valid := by
  -- the position names the row, or nothing contradicts the quote's name
  have hmain : (∃ q, p = some q ∧ v = q.value) ∨ (p = none ∧ strip v ≠ "") := by
    obtain ⟨hproposed, hstatus⟩ := h
    unfold assetName at hproposed hstatus
    cases htext : text rt value with
    | none =>
      rw [htext] at hproposed
      cases p with
      | some q =>
        cases hproposed
        exact .inl ⟨q, rfl, rfl⟩
      | none =>
        refine .inr ⟨rfl, ?_⟩
        cases fund with
        | some fund =>
          cases hproposed
          exact fund.nonblank
        | none =>
          cases hk with
          | none => cases hproposed
          | some q =>
            cases hproposed
            obtain ⟨hstrip, hne⟩ := hhk q rfl
            rw [hstrip]
            exact hne
    | some current =>
      rw [htext] at hproposed hstatus
      cases p with
      | none => cases hproposed
      | some q =>
        simp only at hproposed
        split at hproposed <;> cases hproposed <;> exact .inl ⟨q, rfl, rfl⟩
  unfold assetName
  rcases hmain with ⟨q, rfl, rfl⟩ | ⟨rfl, hne⟩
  · obtain ⟨hstrip, hne⟩ := hp q rfl
    have hne' : strip q.value ≠ "" := by
      rw [hstrip]
      exact hne
    rw [text_of_strip rt hne', hstrip]
    simp
  · rw [text_of_strip rt hne]

end

/-! ### The class -/

theorem assetClass_field (t : Option AssetType) : (assetClass rt value t).field = "asset_class" := by
  unfold assetClass
  simp only
  split
  · split <;> rfl
  · split
    · rfl
    · split
      · rfl
      · split <;> rfl

/-- A proposed class, once written, is valid. -/
theorem assetClass_written {t : Option AssetType} (h : (assetClass rt value t).Proposes v) :
    (assetClass rt (.text v) t).status = .valid := by
  have hmain : ∃ c, assetClassForEconomicExposure t = some c ∧ v = c.value := by
    obtain ⟨hproposed, -⟩ := h
    unfold assetClass at hproposed
    simp only at hproposed
    cases hclass : assetClassForEconomicExposure t with
    | none =>
      rw [hclass] at hproposed
      split at hproposed
      · cases hproposed
      · split at hproposed <;> cases hproposed
    | some c =>
      refine ⟨c, rfl, ?_⟩
      rw [hclass] at hproposed
      split at hproposed
      · cases hproposed
        rfl
      · split at hproposed
        · cases hproposed
        · simp only at hproposed
          split at hproposed <;> cases hproposed <;> rfl
  obtain ⟨c, hclass, rfl⟩ := hmain
  unfold assetClass
  simp [hclass]

/-! ### The currency -/

section
variable {assetId : Option String} {type : Option AssetType} {conflicted : Bool}
  {position : Option FutuPositionEvidence} {futuEvidence : Option FutuAccountEvidence}
  {reason : FutuReason}

theorem invalidCurrency_field {current : String} {p : Option (Proposal String)} :
    (invalidCurrency value current p).field = "currency" := by
  unfold invalidCurrency
  split
  · rfl
  · split
    · rfl
    · simp only
      split <;> rfl

theorem missingCurrency_field {unresolved : Bool} {p : Option (Proposal String)} :
    (missingCurrency value unresolved reason p).field = "currency" := by
  unfold missingCurrency
  split <;> rfl

theorem currency_field :
    (currency rt value assetId type conflicted position futuEvidence reason).field = "currency" := by
  unfold currency
  simp only
  split
  · rfl
  · split
    · exact missingCurrency_field
    · split
      · exact invalidCurrency_field
      · split
        · rfl
        · split <;> rfl

/-- The correction is the only candidate when no authority proposes another. -/
theorem eq_of_single_candidate {correction : String} {p : Option (Proposal String)}
    (h : (correctionCandidates correction p).length = 1) : ∀ q ∈ p, q.value = correction := by
  rintro q rfl
  by_contra hne
  simp only [correctionCandidates, if_neg hne] at h
  split at h <;> cases h

/-- A code that is corrected is corrected to a known currency no authority contradicts. -/
theorem invalidCurrency_proposes {current : String} {p : Option (Proposal String)}
    (h : (invalidCurrency value current p).Proposes v) :
    v ∈ holdingCurrencies ∧ ∀ q ∈ p, q.value = v := by
  obtain ⟨hproposed, -⟩ := h
  unfold invalidCurrency at hproposed
  split at hproposed
  · cases hproposed
  · next correction hcorrection =>
    split at hproposed
    · cases hproposed
    · next hknown =>
      simp only at hproposed
      split at hproposed
      · next hone =>
        cases hproposed
        refine ⟨Decidable.not_not.mp hknown, fun q hq => ?_⟩
        exact eq_of_single_candidate hone q hq
      · cases hproposed

/-- A proposed currency is known, and what the authority proposes if there is one. -/
theorem currency_proposes
    (h : (currency rt value assetId type conflicted position futuEvidence reason).Proposes v) :
    v ∈ holdingCurrencies ∧
      ∀ q ∈ proposedCurrency rt assetId type conflicted position futuEvidence, q.value = v := by
  unfold currency at h
  simp only at h
  split at h
  · obtain ⟨hproposed, -⟩ := h
    cases hproposed
  · next hknown =>
    have hauthority : ∀ q ∈ proposedCurrency rt assetId type conflicted position futuEvidence,
        q.value ∈ holdingCurrencies := by
      intro q hq
      rw [Option.mem_def] at hq
      rw [hq] at hknown
      simpa using hknown
    split at h
    · obtain ⟨hproposed, -⟩ := h
      unfold missingCurrency at hproposed
      split at hproposed
      · next q hq =>
        cases hproposed
        refine ⟨hauthority q hq, fun q' hq' => ?_⟩
        rw [hq] at hq'
        cases hq'
        rfl
      · cases hproposed
    · split at h
      · exact invalidCurrency_proposes h
      · obtain ⟨hproposed, -⟩ := h
        split at hproposed
        · cases hproposed
        · next q hq =>
          have hv : v = q.value := by
            split at hproposed <;> cases hproposed <;> rfl
          subst hv
          refine ⟨hauthority q hq, fun q' hq' => ?_⟩
          rw [hq] at hq'
          cases hq'
          rfl

/-- A proposed currency, once written, is valid. -/
theorem currency_written
    (h : (currency rt value assetId type conflicted position futuEvidence reason).Proposes v) :
    (currency rt (.text v) assetId type conflicted position futuEvidence reason).status = .valid := by
  obtain ⟨hknown, hauthority⟩ := currency_proposes h
  obtain ⟨htext, hupper⟩ := text_currency rt hknown
  have hcode := isCurrencyCode_of_mem hknown
  unfold currency
  simp only [htext, Option.map_some, hupper]
  cases hp : proposedCurrency rt assetId type conflicted position futuEvidence with
  | none => simp [hcode, hknown]
  | some q =>
    have hq := hauthority q hp
    simp [hcode, hknown, hq]

end

end

/-! ## Records -/

/-- A row with a text in one of its fields. -/
def writeField (record : RawHoldingRecord) (field value : String) : RawHoldingRecord :=
  { record with rawFields := Items.set field (.text value) record.rawFields }

@[simp] theorem get_writeField (record : RawHoldingRecord) (field value name : String) :
    (writeField record field value).get name = if name = field then .text value else record.get name := by
  unfold RawHoldingRecord.get writeField Items.set
  simp only
  rw [Items.lookup_update]
  split <;> rfl

/-- The outcome of a field. -/
def RecordValidation.outcome (validation : RecordValidation) (field : String) : Option FieldOutcome :=
  rowWith FieldOutcome.field field validation.outcomes

/-- The fields of the outcomes. -/
def outcomeFields : List String :=
  ["asset_id", "account", "broker", "quantity", "asset_type", "asset_name", "currency", "asset_class",
    "avg_cost", "industry", "tag", "created_at", "updated_at"]

/-- The fields an authority may complete. -/
def completableFields : List String := ["asset_type", "asset_name", "currency", "asset_class"]

/-! ### Fields without an authority -/

section
variable {rt : ValidationRuntime} {field upperField : String} {value : Cell}

theorem requiredText_own :
    (requiredText rt field upperField value).field = field ∧
      (requiredText rt field upperField value).proposed = none := by
  unfold requiredText
  split <;> exact ⟨rfl, rfl⟩

theorem quantity_own : (quantity value).field = "quantity" ∧ (quantity value).proposed = none := by
  unfold quantity
  split
  · exact ⟨rfl, rfl⟩
  · split <;> exact ⟨rfl, rfl⟩

theorem optionalDecimal_own :
    (optionalDecimal field upperField value).field = field ∧
      (optionalDecimal field upperField value).proposed = none := by
  unfold optionalDecimal
  split
  · exact ⟨rfl, rfl⟩
  · split <;> exact ⟨rfl, rfl⟩

theorem optionalIndustry_own :
    (optionalIndustry rt value).field = "industry" ∧ (optionalIndustry rt value).proposed = none := by
  unfold optionalIndustry
  split
  · exact ⟨rfl, rfl⟩
  · split <;> exact ⟨rfl, rfl⟩

theorem optionalTag_own : (optionalTag rt value).field = "tag" ∧ (optionalTag rt value).proposed = none := by
  unfold optionalTag
  split
  · exact ⟨rfl, rfl⟩
  · split <;> exact ⟨rfl, rfl⟩

theorem optionalTransportField_own :
    (optionalTransportField rt field upperField value).field = field ∧
      (optionalTransportField rt field upperField value).proposed = none := by
  unfold optionalTransportField
  split
  · exact ⟨rfl, rfl⟩
  · split <;> exact ⟨rfl, rfl⟩

end

section
variable {rt : ValidationRuntime} {bundle : HoldingsEvidenceBundle} {record : RawHoldingRecord}
  {field v : String}

/-- Each field has one outcome. -/
theorem fields_outcomes :
    (validateRecord rt bundle record).outcomes.map FieldOutcome.field = outcomeFields := by
  simp only [validateRecord, typeOf, nameOf, currencyOf, classOf, List.map_cons, List.map_nil,
    requiredText_own.1, quantity_own.1, optionalDecimal_own.1, optionalIndustry_own.1, optionalTag_own.1,
    optionalTransportField_own.1, assetType_field, assetName_field, currency_field, assetClass_field,
    outcomeFields]

theorem outcome_of_mem {o : FieldOutcome} (h : o ∈ (validateRecord rt bundle record).outcomes) :
    (validateRecord rt bundle record).outcome o.field = some o := by
  refine rowWith_of_mem ?_ h
  rw [fields_outcomes]
  decide

theorem mem_of_outcome {o : FieldOutcome}
    (h : (validateRecord rt bundle record).outcome field = some o) :
    o ∈ (validateRecord rt bundle record).outcomes ∧ o.field = field := mem_of_rowWith h

theorem outcome_type :
    (validateRecord rt bundle record).outcome "asset_type" = some (typeOf rt bundle record).1 := by
  have hfield : (typeOf rt bundle record).1.field = "asset_type" := assetType_field _
  have hmem : (typeOf rt bundle record).1 ∈ (validateRecord rt bundle record).outcomes := by
    simp [validateRecord]
  exact hfield ▸ outcome_of_mem hmem

theorem outcome_name :
    (validateRecord rt bundle record).outcome "asset_name" = some (nameOf rt bundle record) := by
  have hfield : (nameOf rt bundle record).field = "asset_name" := assetName_field
  have hmem : nameOf rt bundle record ∈ (validateRecord rt bundle record).outcomes := by
    simp [validateRecord]
  exact hfield ▸ outcome_of_mem hmem

theorem outcome_currency :
    (validateRecord rt bundle record).outcome "currency" = some (currencyOf rt bundle record) := by
  have hfield : (currencyOf rt bundle record).field = "currency" := currency_field
  have hmem : currencyOf rt bundle record ∈ (validateRecord rt bundle record).outcomes := by
    simp [validateRecord]
  exact hfield ▸ outcome_of_mem hmem

theorem outcome_class :
    (validateRecord rt bundle record).outcome "asset_class" = some (classOf rt bundle record) := by
  have hfield : (classOf rt bundle record).field = "asset_class" := assetClass_field _
  have hmem : classOf rt bundle record ∈ (validateRecord rt bundle record).outcomes := by
    simp [validateRecord]
  exact hfield ▸ outcome_of_mem hmem

/-- What a validation would complete a field of a row with. -/
def completion (rt : ValidationRuntime) (bundle : HoldingsEvidenceBundle) (record : RawHoldingRecord)
    (field : String) : Option String :=
  ((validateRecord rt bundle record).outcome field).bind FieldOutcome.completion

/-- A field of a row as it is stored. -/
def storedField (record : RawHoldingRecord) (name : String) : Option Cell := record.rawFields.lookup name

theorem storedField_writeField :
    Proposals.ReadsBack (fun v => some (Cell.text v)) storedField writeField := by
  intro record field value name
  exact Items.lookup_update _ _ field name record.rawFields

/-- Only the type, the name, the currency and the class are proposed. -/
theorem field_of_proposed {o : FieldOutcome} (h : o ∈ (validateRecord rt bundle record).outcomes)
    (hv : o.proposed = some v) : o.field ∈ completableFields := by
  simp only [validateRecord, List.mem_cons, List.not_mem_nil, or_false] at h
  rcases h with rfl | rfl | rfl | rfl | rfl | rfl | rfl | rfl | rfl | rfl | rfl | rfl | rfl
  · rw [requiredText_own.2] at hv
    cases hv
  · rw [requiredText_own.2] at hv
    cases hv
  · rw [requiredText_own.2] at hv
    cases hv
  · rw [quantity_own.2] at hv
    cases hv
  · rw [typeOf, assetType_field]
    decide
  · rw [nameOf, assetName_field]
    decide
  · rw [currencyOf, currency_field]
    decide
  · rw [classOf, assetClass_field]
    decide
  · rw [optionalDecimal_own.2] at hv
    cases hv
  · rw [optionalIndustry_own.2] at hv
    cases hv
  · rw [optionalTag_own.2] at hv
    cases hv
  · rw [optionalTransportField_own.2] at hv
    cases hv
  · rw [optionalTransportField_own.2] at hv
    cases hv

/-! ### What a write leaves -/

/-- What Futu says depends on the identity only. -/
theorem futuOf_writeField (h : field ∈ completableFields) :
    futuOf rt bundle (writeField record field v) = futuOf rt bundle record := by
  have hid : "asset_id" ≠ field ∧ "account" ≠ field ∧ "broker" ≠ field := by
    refine ⟨?_, ?_, ?_⟩ <;> rintro rfl <;> exact absurd h (by decide)
  unfold futuOf
  simp only [get_writeField, if_neg hid.1, if_neg hid.2.1, if_neg hid.2.2]

theorem typeOf_writeField (h : field ∈ completableFields) (hne : field ≠ "asset_type") :
    typeOf rt bundle (writeField record field v) = typeOf rt bundle record := by
  have hid : "asset_id" ≠ field := by
    rintro rfl
    exact absurd h (by decide)
  unfold typeOf
  simp only [futuOf_writeField h, get_writeField, if_neg hid, if_neg hne.symm]

theorem typeOf_writeType :
    typeOf rt bundle (writeField record "asset_type" v) =
      assetType rt (.text v) (proposedType rt (text rt (record.get "asset_id"))
        (futuOf rt bundle record).1 (futuOf rt bundle record).2.1) := by
  unfold typeOf
  rw [futuOf_writeField (by decide), get_writeField, get_writeField, if_pos rfl, if_neg (by decide)]

theorem hkStockNameOf_writeField (h : field ∈ completableFields) (hne : field ≠ "asset_type") :
    hkStockNameOf rt bundle (writeField record field v) = hkStockNameOf rt bundle record := by
  have hid : "asset_id" ≠ field ∧ "account" ≠ field ∧ "broker" ≠ field := by
    refine ⟨?_, ?_, ?_⟩ <;> rintro rfl <;> exact absurd h (by decide)
  unfold hkStockNameOf
  simp only [get_writeField, if_neg hid.1, if_neg hid.2.1, if_neg hid.2.2, if_neg hne.symm]

end

end PortfolioManagement.Validation
