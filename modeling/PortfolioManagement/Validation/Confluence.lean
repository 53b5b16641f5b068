import PortfolioManagement.Validation.Completions

/-!
# Completions are sound and confluent

A written proposal is judged valid (`proposed_valid`), and writing the completion of one field leaves
those of the others (`completion_independent`). So whatever is completed first, and however the
completions are grouped, the same values are written and the runs that leave nothing to complete end in
the same row (`completions_sound_and_confluent`).
-/

namespace PortfolioManagement.Validation

open Ledger (Cell)
open Monitor (RawHoldingRecord holdingBrokerScope nonblank)
open Proposals (Rounds Settled writeProposed)

section
variable {rt : ValidationRuntime} {bundle : HoldingsEvidenceBundle} {record : RawHoldingRecord}
  {field v : String}

/-! ## Soundness -/

/-- A position's name is stripped. -/
theorem positionName_stripped {position : Option FutuPositionEvidence}
    {evidence : Option FutuAccountEvidence} :
    ∀ q ∈ positionName rt position evidence, strip q.value = q.value ∧ q.value ≠ "" := by
  intro q hq
  unfold positionName at hq
  rw [Option.mem_def, Option.bind_eq_some_iff] at hq
  obtain ⟨p, -, hname⟩ := hq
  rw [Option.map_eq_some_iff] at hname
  obtain ⟨name, hname, rfl⟩ := hname
  unfold nonblank at hname
  split at hname
  · cases hname
  · next hne =>
    cases hname
    exact ⟨strip_strip _, hne⟩

/-- A verified quote's name is stripped. -/
theorem hkStockName_stripped :
    ∀ q ∈ hkStockNameOf rt bundle record, strip q.2.1 = q.2.1 ∧ q.2.1 ≠ "" := by
  intro q hq
  unfold hkStockNameOf at hq
  simp only at hq
  split at hq
  · rw [Option.mem_def, Option.map_eq_some_iff] at hq
    obtain ⟨name, hname, rfl⟩ := hq
    unfold verifiedHkName at hname
    split at hname
    · simp only at hname
      split at hname
      · split at hname
        · cases hname
        · next hok =>
          cases hname
          push Not at hok
          exact ⟨strip_strip _, hok.2.2.2.1⟩
      · cases hname
    · cases hname
  · cases hq

/-- What an outcome proposes for its field is valid there. -/
theorem proposed_valid {o : FieldOutcome} (h : o ∈ (validateRecord rt bundle record).outcomes)
    (hv : o.Proposes v) :
    ∃ o', (validateRecord rt bundle (writeField record o.field v)).outcome o.field = some o' ∧
      o'.status = .valid := by
  have hfield := field_of_proposed h hv.1
  have hown := outcome_of_mem h
  have hcases : o.field = "asset_type" ∨ o.field = "asset_name" ∨ o.field = "currency" ∨
      o.field = "asset_class" := by simpa [completableFields] using hfield
  rcases hcases with hf | hf | hf | hf
  · rw [hf, outcome_type] at hown
    cases hown
    obtain ⟨q, hq, rfl⟩ := assetType_proposes hv
    refine ⟨_, by rw [hf, outcome_type], ?_⟩
    rw [typeOf_writeType, hq]
    exact (assetType_written q).1
  · rw [hf, outcome_name] at hown
    cases hown
    refine ⟨_, by rw [hf, outcome_name], ?_⟩
    unfold nameOf
    rw [futuOf_writeField (by decide), hkStockNameOf_writeField (by decide) (by decide), get_writeField,
      get_writeField, if_pos rfl, if_neg (by decide)]
    exact assetName_written positionName_stripped hkStockName_stripped hv
  · rw [hf, outcome_currency] at hown
    cases hown
    refine ⟨_, by rw [hf, outcome_currency], ?_⟩
    unfold currencyOf
    rw [futuOf_writeField (by decide), typeOf_writeField (by decide) (by decide), get_writeField,
      get_writeField, if_pos rfl, if_neg (by decide)]
    exact currency_written hv
  · rw [hf, outcome_class] at hown
    cases hown
    refine ⟨_, by rw [hf, outcome_class], ?_⟩
    unfold classOf
    rw [typeOf_writeField (by decide) (by decide), get_writeField, if_pos rfl]
    exact assetClass_written hv

/-! ## Independence -/

theorem completion_eq_some {o : FieldOutcome}
    (h : (validateRecord rt bundle record).outcome field = some o) :
    completion rt bundle record field = o.completion := by
  unfold completion
  rw [h, Option.bind_some]

theorem completion_mem (h : completion rt bundle record field = some v) :
    ∃ o, (validateRecord rt bundle record).outcome field = some o ∧ o.completion = some v ∧
      field ∈ completableFields := by
  unfold completion at h
  rw [Option.bind_eq_some_iff] at h
  obtain ⟨o, ho, hcompletion⟩ := h
  obtain ⟨hmem, hfield⟩ := mem_of_outcome ho
  have hproposed := (FieldOutcome.status_of_completion hcompletion).2
  exact ⟨o, ho, hcompletion, hfield ▸ field_of_proposed hmem hproposed⟩

theorem completion_of_not_mem (h : field ∉ completableFields) :
    completion rt bundle record field = none := by
  cases hc : completion rt bundle record field with
  | none => rfl
  | some v =>
    obtain ⟨-, -, -, hmem⟩ := completion_mem hc
    exact absurd hmem h

/-- A row that Futu does not own gets its type from its asset id only, which names no stock. -/
theorem proposedType_nonFutu {q : Proposal AssetType}
    (hscope : holdingBrokerScope rt.toValueRuntime (text rt (record.get "broker")) = .nonFutu)
    (h : proposedType rt (text rt (record.get "asset_id")) (futuOf rt bundle record).1
      (futuOf rt bundle record).2.1 = some q) : q.value ≠ .hkStock := by
  have hnone : (futuOf rt bundle record).1 = none := by
    have hbroker : ¬ isFutuBroker rt.toTextRuntime (text rt (record.get "broker")) := by
      unfold isFutuBroker
      rw [hscope]
      decide
    unfold futuOf HoldingsEvidenceBundle.futuPosition
    split
    · rw [if_pos hbroker]
    · rfl
  rw [hnone] at h
  unfold proposedType at h
  simp only at h
  split at h
  · cases h
    split <;> simp
  · cases h

/-- Completing the type leaves what a Hong Kong quote says of the name. -/
theorem hkStockNameOf_writeType (h : completion rt bundle record "asset_type" = some v) :
    hkStockNameOf rt bundle (writeField record "asset_type" v) = hkStockNameOf rt bundle record := by
  rw [completion_eq_some outcome_type] at h
  obtain ⟨hstatus, hproposed⟩ := FieldOutcome.status_of_completion h
  obtain ⟨q, hq, htext, -, hvalue⟩ := assetType_completable hstatus
  have hv : v = q.value.value := by
    rw [typeOf, hvalue] at hproposed
    cases hproposed
    rfl
  -- the field holds no text before, and the text of another type after
  have hbefore : record.get "asset_type" ≠ .text "hk_stock" := by
    intro heq
    have hsome := text_assetType rt .hkStock
    rw [heq] at htext
    rw [show AssetType.value .hkStock = "hk_stock" from rfl, htext] at hsome
    cases hsome
  have hafter : holdingBrokerScope rt.toValueRuntime (text rt (record.get "broker")) = .nonFutu →
      v ≠ "hk_stock" := by
    intro hscope heq
    have hsame : q.value.value = AssetType.value .hkStock := hv.symm.trans heq
    exact proposedType_nonFutu hscope hq (AssetType.value_injective hsame)
  have hnone : ∀ r : RawHoldingRecord,
      ¬ (r.get "asset_type" = .text "hk_stock" ∧ (text rt (r.get "account")).isSome ∧
        holdingBrokerScope rt.toValueRuntime (text rt (r.get "broker")) = .nonFutu) →
      hkStockNameOf rt bundle r = none := fun r hr => if_neg hr
  rw [hnone record fun hr => hbefore hr.1, hnone]
  rintro ⟨htype, -, hscope⟩
  rw [get_writeField, if_pos rfl] at htype
  rw [get_writeField, if_neg (by decide)] at hscope
  cases htype
  exact hafter hscope rfl

/-- Completing the type leaves the type the other fields are judged by. -/
theorem typeOf_completed (h : completion rt bundle record "asset_type" = some v) :
    (typeOf rt bundle (writeField record "asset_type" v)).2 = (typeOf rt bundle record).2 ∧
      (typeOf rt bundle (writeField record "asset_type" v)).1.status.conflicted =
        (typeOf rt bundle record).1.status.conflicted := by
  rw [completion_eq_some outcome_type] at h
  obtain ⟨hstatus, hproposed⟩ := FieldOutcome.status_of_completion h
  obtain ⟨q, hq, -, htype, hvalue⟩ := assetType_completable hstatus
  have hv : v = q.value.value := by
    rw [typeOf, hvalue] at hproposed
    cases hproposed
    rfl
  subst hv
  have hwritten : (assetType rt (.text q.value.value) (some q)).1.status = .valid ∧
      (assetType rt (.text q.value.value) (some q)).2 = some q.value := assetType_written q
  rw [typeOf_writeType, hq, hwritten.2, hwritten.1, hstatus]
  exact ⟨htype.symm, rfl⟩

/-- Writing a completion settles its field and leaves the completions of the others. -/
theorem completion_independent (rt : ValidationRuntime) (bundle : HoldingsEvidenceBundle) :
    Proposals.IndependentWrites writeField (completion rt bundle) := by
  intro record field v h field'
  obtain ⟨o, ho, hcompletion, hfield⟩ := completion_mem h
  by_cases hsame : field' = field
  · rw [if_pos hsame, hsame]
    obtain ⟨hmem, rfl⟩ := mem_of_outcome ho
    obtain ⟨o', ho', hvalid⟩ := proposed_valid hmem (FieldOutcome.proposes_of_completion hcompletion)
    rw [completion_eq_some ho', FieldOutcome.completion_eq_none]
    rw [hvalid]
    decide
  rw [if_neg hsame]
  by_cases hmem : field' ∈ completableFields
  swap
  · rw [completion_of_not_mem hmem, completion_of_not_mem hmem]
  have hcases : field' = "asset_type" ∨ field' = "asset_name" ∨ field' = "currency" ∨
      field' = "asset_class" := by simpa [completableFields] using hmem
  by_cases htype : field = "asset_type"
  · subst htype
    obtain ⟨heffective, hconflicted⟩ := typeOf_completed h
    rcases hcases with rfl | rfl | rfl | rfl
    · exact absurd rfl hsame
    · rw [completion_eq_some outcome_name, completion_eq_some outcome_name]
      unfold nameOf
      rw [futuOf_writeField hfield, hkStockNameOf_writeType h, get_writeField, get_writeField,
        if_neg (by decide), if_neg (by decide)]
    · rw [completion_eq_some outcome_currency, completion_eq_some outcome_currency]
      unfold currencyOf
      rw [futuOf_writeField hfield, heffective, hconflicted, get_writeField, get_writeField,
        if_neg (by decide), if_neg (by decide)]
    · rw [completion_eq_some outcome_class, completion_eq_some outcome_class]
      unfold classOf
      rw [heffective, get_writeField, if_neg (by decide)]
  · have hid : "asset_id" ≠ field := by
      rintro rfl
      exact absurd hfield (by decide)
    rcases hcases with rfl | rfl | rfl | rfl
    · rw [completion_eq_some outcome_type, completion_eq_some outcome_type,
        typeOf_writeField hfield htype]
    · rw [completion_eq_some outcome_name, completion_eq_some outcome_name]
      unfold nameOf
      rw [futuOf_writeField hfield, hkStockNameOf_writeField hfield htype, get_writeField,
        get_writeField, if_neg hid, if_neg hsame]
    · rw [completion_eq_some outcome_currency, completion_eq_some outcome_currency]
      unfold currencyOf
      rw [futuOf_writeField hfield, typeOf_writeField hfield htype, get_writeField, get_writeField,
        if_neg hid, if_neg hsame]
    · rw [completion_eq_some outcome_class, completion_eq_some outcome_class]
      unfold classOf
      rw [typeOf_writeField hfield htype, get_writeField, if_neg hsame]

/-! ## Runs -/

/-- The completions that a run of rounds applies. -/
abbrev CompletionRounds (rt : ValidationRuntime) (bundle : HoldingsEvidenceBundle) :
    RawHoldingRecord → List (List String) → RawHoldingRecord → Prop :=
  Rounds writeField (completion rt bundle)

/-- Nothing is left to complete. -/
abbrev Completed (rt : ValidationRuntime) (bundle : HoldingsEvidenceBundle) : RawHoldingRecord → Prop :=
  Settled (completion rt bundle)

/-- The rows have one id and the same value in every field. -/
def SameRecord (r r' : RawHoldingRecord) : Prop :=
  r.recordId = r'.recordId ∧ ∀ name, r.rawFields.lookup name = r'.rawFields.lookup name

theorem recordId_writeProposed (t : RawHoldingRecord) (keys : List String) :
    (writeProposed writeField (completion rt bundle) t keys).recordId = t.recordId := by
  unfold writeProposed
  have hfold : ∀ r : RawHoldingRecord,
      (keys.foldl (fun r k => (completion rt bundle t k).elim r (writeField r k)) r).recordId =
        r.recordId := by
    induction keys with
    | nil => exact fun r => rfl
    | cons k keys ih =>
      intro r
      rw [List.foldl_cons, ih]
      cases completion rt bundle t k with
      | none => rfl
      | some v => rfl
  exact hfold t

theorem recordId_rounds {groups : List (List String)} {r : RawHoldingRecord}
    (h : CompletionRounds rt bundle record groups r) : r.recordId = record.recordId := by
  induction h with
  | start => rfl
  | @round groups t keys _ _ ih => exact (recordId_writeProposed t keys).trans ih

/-- A proposal, once written, is valid; a run of completions ends, wherever it has come, and all runs
that leave nothing to complete end in the same row. -/
theorem completions_sound_and_confluent (rt : ValidationRuntime) (bundle : HoldingsEvidenceBundle)
    (record : RawHoldingRecord) :
    (∀ o ∈ (validateRecord rt bundle record).outcomes, ∀ v, o.Proposes v →
      ∃ o', (validateRecord rt bundle (writeField record o.field v)).outcome o.field = some o' ∧
        o'.status = .valid) ∧
    (∀ groups r, CompletionRounds rt bundle record groups r →
      groups.length ≤ completableFields.length ∧
      ∃ more r', CompletionRounds rt bundle record (groups ++ more) r' ∧ Completed rt bundle r') ∧
    (∀ groups r groups' r', CompletionRounds rt bundle record groups r → Completed rt bundle r →
      CompletionRounds rt bundle record groups' r' → Completed rt bundle r' → SameRecord r r') := by
  have hread := storedField_writeField
  have hfree := completion_independent rt bundle
  have hkeys : ∀ (t : RawHoldingRecord) (k : String), (completion rt bundle t k).isSome →
      k ∈ completableFields := by
    intro t k hk
    obtain ⟨v, hv⟩ := Option.isSome_iff_exists.mp hk
    obtain ⟨-, -, -, hmem⟩ := completion_mem hv
    exact hmem
  refine ⟨fun o ho v hv => proposed_valid ho hv, ?_, ?_⟩
  · intro groups r hrun
    exact ⟨hrun.length_le hread hfree (hkeys record), hrun.exists_settled hread hfree hkeys⟩
  · intro groups r groups' r' hrun hend hrun' hend'
    refine ⟨(recordId_rounds hrun).trans (recordId_rounds hrun').symm, fun name => ?_⟩
    have hleft := hrun.read_settled hread hfree hend name
    have hright := hrun'.read_settled hread hfree hend' name
    exact hleft.trans hright.symm

end

end PortfolioManagement.Validation
