import PortfolioManagement.Ledger.Dataset

/-!
# The dataset is a partition of the raw rows

Every raw row ends up either as one completed row or under a blocker that names it. The argument
goes row by row: a record id that occurs once leads from the row to its own manual facts and back,
and every blocker that is not about that row names another one.
-/

namespace PortfolioManagement.Ledger

/-- A blocker names a record id. -/
def Named (blockers : List CashFlowDatasetBlocker) (recordId : String) : Prop :=
  ∃ b ∈ blockers, recordId ∈ b.names

@[simp] theorem named_append {a b : List CashFlowDatasetBlocker} {recordId : String} :
    Named (a ++ b) recordId ↔ Named a recordId ∨ Named b recordId := by
  simp only [Named, List.mem_append, or_and_right, exists_or]

@[simp] theorem names_fromIssue (issue : CashFlowValidationIssue) :
    (CashFlowDatasetBlocker.fromIssue issue).names = [issue.recordId] := rfl

@[simp] theorem names_recordIdDuplicate (id : String) (n : Nat) :
    (CashFlowDatasetBlocker.recordIdDuplicate id n).names = [id] := rfl

@[simp] theorem names_dedupKeyDuplicate (g : CashFlowDuplicateGroup) :
    (CashFlowDatasetBlocker.dedupKeyDuplicate g).names = g.recordIds := rfl

/-! ## Issues -/

/-- Every issue is about one record. -/
def About (id : String) (issues : List CashFlowValidationIssue) : Prop :=
  ∀ issue ∈ issues, issue.recordId = id

@[simp] theorem about_nil {id : String} : About id [] := by
  intro issue h
  cases h

@[simp] theorem about_append {id : String} {a b : List CashFlowValidationIssue} :
    About id (a ++ b) ↔ About id a ∧ About id b := by
  simp only [About, List.mem_append, or_imp, forall_and]

@[simp] theorem about_singleton {id : String} {issue : CashFlowValidationIssue} :
    About id [issue] ↔ issue.recordId = id := by
  simp [About]

theorem issuesOf_eq_nil {α : Type} {x : Except CashFlowValidationIssue α} (h : issuesOf x = []) :
    ∃ a, x = .ok a := by
  cases x with
  | ok a => exact ⟨a, rfl⟩
  | error issue => cases h

section
variable (rt : Runtime) (id field : String) (raw : Cell)

theorem about_parseFlowDate : About id (issuesOf (parseFlowDate rt id raw)) := by
  unfold parseFlowDate
  split
  · simp [issuesOf]
  · split <;> simp [issuesOf]

theorem about_requiredText : About id (issuesOf (requiredText id field raw)) := by
  unfold requiredText
  split
  · split <;> simp [issuesOf]
  · simp [issuesOf]

theorem about_supportedCurrency : About id (issuesOf (supportedCurrency id raw)) := by
  unfold supportedCurrency
  split
  · split
    · simp [issuesOf]
    · split <;> simp [issuesOf]
  · simp [issuesOf]

theorem about_finiteDecimal (nonzero positive : Bool) :
    About id (issuesOf (finiteDecimal id field raw nonzero positive)) := by
  unfold finiteDecimal
  split
  · simp [issuesOf]
  · split
    · simp [issuesOf]
    · split
      · simp [issuesOf]
      · split <;> simp [issuesOf]

theorem about_flowType (manual : ManualCashFlowFacts) :
    About id (issuesOf (flowType id manual raw)) := by
  unfold flowType
  split
  · split
    · simp [issuesOf]
    · split
      · simp [issuesOf]
      · split <;> simp [issuesOf]
  · simp [issuesOf]

end

namespace ManualCashFlowFacts

theorem about_amountIssues (id : String) (amount : Except CashFlowValidationIssue Decimal) :
    About id (amountIssues id amount) := by
  unfold amountIssues
  split
  · exact about_nil
  · split
    · simp
    · split <;> simp

theorem about_issues (rt : Runtime) (record : RawCashFlowRecord) :
    About record.recordId (issues rt record) := by
  simp only [issues, about_append]
  exact ⟨⟨⟨⟨⟨about_parseFlowDate _ _ _, about_requiredText _ _ _⟩, about_requiredText _ _ _⟩,
    about_finiteDecimal _ _ _ _ _⟩, about_supportedCurrency _ _⟩, about_amountIssues _ _⟩

/-- A row's manual facts carry its record id. -/
theorem recordId_of_validate {rt : Runtime} {record : RawCashFlowRecord}
    {facts : ManualCashFlowFacts} (h : validate rt record = .ok facts) :
    facts.recordId = record.recordId := by
  unfold validate at h
  simp only at h
  split at h
  · split at h
    · cases h
      rfl
    · cases h
  · cases h

/-- A row without manual facts has issues, all about that row. -/
theorem issues_of_validate {rt : Runtime} {record : RawCashFlowRecord}
    {found : List CashFlowValidationIssue} (h : validate rt record = .error found) :
    found ≠ [] ∧ About record.recordId found := by
  have hall := about_issues rt record
  unfold validate at h
  simp only at h
  split at h
  next flowDate account broker amount currency hf ha hb hm hc =>
    split at h
    · cases h
    next hnot =>
      cases h
      refine ⟨fun hnil => ?_, hall⟩
      have hamount : amountIssues record.recordId (.ok amount) = [] := by
        rw [issues, hm] at hnil
        exact (List.append_eq_nil_iff.mp hnil).2
      cases hq : money? amount with
      | none => simp [amountIssues, hq] at hamount
      | some quantized => exact hnot quantized hnil hq
  next hnot =>
    cases h
    refine ⟨fun hnil => ?_, hall⟩
    simp only [issues, List.append_eq_nil_iff] at hnil
    obtain ⟨⟨⟨⟨⟨hf, ha⟩, hb⟩, hm⟩, hc⟩, -⟩ := hnil
    obtain ⟨flowDate, hf⟩ := issuesOf_eq_nil hf
    obtain ⟨account, ha⟩ := issuesOf_eq_nil ha
    obtain ⟨broker, hb⟩ := issuesOf_eq_nil hb
    obtain ⟨amount, hm⟩ := issuesOf_eq_nil hm
    obtain ⟨currency, hc⟩ := issuesOf_eq_nil hc
    exact hnot _ _ _ _ _ hf ha hb hm hc

end ManualCashFlowFacts

namespace CompletedCashFlowFacts

theorem about_issues (rt : Runtime) (record : RawCashFlowRecord) (manual : ManualCashFlowFacts) :
    About record.recordId (issues rt record manual) := by
  have hrate : ∀ rate, About record.recordId (cnyRateIssues record.recordId manual rate) := by
    intro rate
    unfold cnyRateIssues
    split
    · split <;> simp
    · simp
  have hquant : ∀ cny, About record.recordId (cnyQuantIssues record.recordId cny) := by
    intro cny
    unfold cnyQuantIssues
    split
    · split <;> simp
    · simp
  have hamount : ∀ rate cny,
      About record.recordId (cnyAmountIssues record.recordId manual rate cny) := by
    intro rate cny
    unfold cnyAmountIssues
    split
    · split
      · simp
      · split
        · simp
        · split <;> simp
    · simp
  have hdedup : ∀ expected type key,
      About record.recordId (dedupIssues record.recordId expected type key) := by
    intro expected type key
    unfold dedupIssues
    split
    · split <;> simp
    · simp
  simp only [issues, about_append]
  exact ⟨⟨⟨⟨⟨⟨⟨⟨about_flowType _ _ _, about_finiteDecimal _ _ _ _ _⟩, about_finiteDecimal _ _ _ _ _⟩,
    hrate _⟩, hquant _⟩, hamount _ _⟩, about_requiredText _ _ _⟩, hdedup _ _ _⟩,
    about_requiredText _ _ _⟩

/-- Completed facts extend the manual ones. -/
theorem manual_of_validate {rt : Runtime} {record : RawCashFlowRecord}
    {manual : ManualCashFlowFacts} {facts : CompletedCashFlowFacts}
    (h : validate rt record manual = .ok facts) : facts.manual = manual := by
  unfold validate at h
  simp only at h
  split at h
  · split at h
    · cases h
      rfl
    · cases h
  · cases h

/-- A row without completed facts has issues, all about that row. -/
theorem issues_of_validate {rt : Runtime} {record : RawCashFlowRecord}
    {manual : ManualCashFlowFacts} {found : List CashFlowValidationIssue}
    (h : validate rt record manual = .error found) :
    found ≠ [] ∧ About record.recordId found := by
  have hall := about_issues rt record manual
  unfold validate at h
  simp only at h
  split at h
  next flowType rate cny key source ht hr hc hk hs =>
    split at h
    · cases h
    next hnot =>
      cases h
      refine ⟨fun hnil => ?_, hall⟩
      have hquant : cnyQuantIssues record.recordId (.ok cny) = [] := by
        simp only [issues, hc, List.append_eq_nil_iff] at hnil
        exact hnil.1.1.1.1.2
      cases hq : money? cny with
      | none => simp [cnyQuantIssues, hq] at hquant
      | some quantized => exact hnot quantized hnil hq
  next hnot =>
    cases h
    refine ⟨fun hnil => ?_, hall⟩
    simp only [issues, List.append_eq_nil_iff] at hnil
    obtain ⟨⟨⟨⟨⟨⟨⟨⟨ht, hr⟩, hc⟩, -⟩, -⟩, -⟩, hk⟩, -⟩, hs⟩ := hnil
    obtain ⟨flowType, ht⟩ := issuesOf_eq_nil ht
    obtain ⟨rate, hr⟩ := issuesOf_eq_nil hr
    obtain ⟨cny, hc⟩ := issuesOf_eq_nil hc
    obtain ⟨key, hk⟩ := issuesOf_eq_nil hk
    obtain ⟨source, hs⟩ := issuesOf_eq_nil hs
    exact hnot _ _ _ _ _ ht hr hc hk hs

end CompletedCashFlowFacts

/-! ## The manual scan -/

section
variable (rt : Runtime)

/-- The issues of a scan are those of its rows, in order. -/
theorem issues_scan (rows : List RawCashFlowRecord) (acc : ManualScan) :
    (rows.foldl (scanManual rt) acc).issues =
      acc.issues ++ rows.flatMap fun raw => rowBlockers (ManualCashFlowFacts.validate rt raw) := by
  induction rows generalizing acc with
  | nil => simp
  | cons raw rows ih =>
    rw [List.foldl_cons, ih, List.flatMap_cons, ← List.append_assoc]
    congr 1
    unfold scanManual
    split
    next h => simp [h, rowBlockers]
    next h => simp [h, rowBlockers]

/-- A record id no row has keeps what the scan held for it. -/
theorem lookup_scan_of_ne {rows : List RawCashFlowRecord} {id : String}
    (h : ∀ raw ∈ rows, raw.recordId ≠ id) (acc : ManualScan) :
    (rows.foldl (scanManual rt) acc).validByRecordId.lookup id = acc.validByRecordId.lookup id := by
  induction rows generalizing acc with
  | nil => rfl
  | cons raw rows ih =>
    rw [List.foldl_cons, ih fun r hr => h r (List.mem_cons_of_mem _ hr)]
    unfold scanManual
    split
    · rfl
    next facts hfacts =>
      have hid := ManualCashFlowFacts.recordId_of_validate hfacts
      have hne : id ≠ facts.recordId := fun heq => h raw List.mem_cons_self (by rw [heq, hid])
      rw [Items.set, Items.lookup_update, if_neg hne]

/-- The row a record id belongs to, when no other row has it. -/
theorem split_of_unique {rows : List RawCashFlowRecord} {raw : RawCashFlowRecord} (hmem : raw ∈ rows)
    (hunique : rows.countP (·.recordId = raw.recordId) ≤ 1) :
    ∃ before after, rows = before ++ raw :: after ∧
      (∀ r ∈ before, r.recordId ≠ raw.recordId) ∧ ∀ r ∈ after, r.recordId ≠ raw.recordId := by
  obtain ⟨before, after, rfl⟩ := List.append_of_mem hmem
  rw [List.countP_append, List.countP_cons_of_pos (by simp)] at hunique
  have hbefore : before.countP (·.recordId = raw.recordId) = 0 := by omega
  have hafter : after.countP (·.recordId = raw.recordId) = 0 := by omega
  rw [List.countP_eq_zero] at hbefore hafter
  exact ⟨before, after, rfl, fun r hr => by simpa using hbefore r hr,
    fun r hr => by simpa using hafter r hr⟩

theorem eq_of_unique {rows : List RawCashFlowRecord} {raw other : RawCashFlowRecord}
    (hmem : raw ∈ rows) (hunique : rows.countP (·.recordId = raw.recordId) ≤ 1)
    (hother : other ∈ rows) (hid : other.recordId = raw.recordId) : other = raw := by
  obtain ⟨before, after, rfl, hbefore, hafter⟩ := split_of_unique hmem hunique
  rcases List.mem_append.mp hother with h | h
  · exact absurd hid (hbefore other h)
  · rcases List.mem_cons.mp h with h | h
    · exact h
    · exact absurd hid (hafter other h)

/-- A record id that occurs once leads to the manual facts of its row. -/
theorem lookup_scan {rows : List RawCashFlowRecord} {raw : RawCashFlowRecord} (hmem : raw ∈ rows)
    (hunique : rows.countP (·.recordId = raw.recordId) ≤ 1) :
    (CashFlowManualDatasetAudit.build rt rows).validByRecordId.lookup raw.recordId =
      (ManualCashFlowFacts.validate rt raw).toOption := by
  obtain ⟨before, after, rfl, hbefore, hafter⟩ := split_of_unique hmem hunique
  simp only [CashFlowManualDatasetAudit.build]
  rw [List.foldl_append, List.foldl_cons, lookup_scan_of_ne rt hafter]
  have hbefore := lookup_scan_of_ne rt hbefore .empty
  cases h : ManualCashFlowFacts.validate rt raw with
  | error issues =>
    simp only [scanManual, h]
    rw [hbefore]
    rfl
  | ok facts =>
    have hid := ManualCashFlowFacts.recordId_of_validate h
    simp only [scanManual, h]
    rw [Items.set, Items.lookup_update, if_pos hid.symm]
    rfl

end

/-! ## Repeated record ids -/

/-- The count of a record id that is not blank. -/
theorem lookup_counts (rows : List RawCashFlowRecord) (counts : Items String Nat) (id : String) :
    ((rows.foldl (fun c raw => Items.update (· + 1) 0 raw.recordId c) counts).lookup id).getD 0 =
      (counts.lookup id).getD 0 + rows.countP (·.recordId = id) := by
  induction rows generalizing counts with
  | nil => simp
  | cons raw rows ih =>
    rw [List.foldl_cons, ih, Items.lookup_update]
    by_cases h : raw.recordId = id
    · subst h
      rw [if_pos rfl, List.countP_cons_of_pos (by simp)]
      simp only [Option.getD_some]
      omega
    · rw [if_neg (Ne.symm h), List.countP_cons_of_neg (by simpa using h)]

theorem nodup_counts (rows : List RawCashFlowRecord) (counts : Items String Nat)
    (h : (counts.map Prod.fst).Nodup) :
    ((rows.foldl (fun c raw => Items.update (· + 1) 0 raw.recordId c) counts).map
      Prod.fst).Nodup := by
  induction rows generalizing counts with
  | nil => exact h
  | cons raw rows ih => exact ih _ (Items.nodup_update h)

theorem occurrences_eq {rows : List RawCashFlowRecord} {id : String} (hid : id ≠ "") :
    occurrences rows id = rows.countP (·.recordId = id) := by
  rw [occurrences, recordIdCounts, lookup_counts]
  simp only [List.lookup_nil, Option.getD_none, zero_add, List.countP_filter]
  congr 1
  funext raw
  by_cases h : raw.recordId = id
  · simp [h, hid]
  · simp [h]

theorem occurrences_blank (rows : List RawCashFlowRecord) : occurrences rows "" = 0 := by
  rw [occurrences, recordIdCounts, lookup_counts]
  simp only [List.lookup_nil, Option.getD_none, zero_add, List.countP_filter]
  rw [List.countP_eq_zero]
  intro raw _
  simp

theorem mem_sortedTexts {texts : List String} {s : String} : s ∈ sortedTexts texts ↔ s ∈ texts :=
  List.mem_insertionSort _

/-- The repeated record ids are those that occur at least twice. -/
theorem mem_repeatedRecordIds {rows : List RawCashFlowRecord} {id : String} :
    id ∈ repeatedRecordIds rows ↔ 1 < occurrences rows id := by
  have hnodup : ((recordIdCounts rows).map Prod.fst).Nodup :=
    nodup_counts _ [] List.nodup_nil
  rw [repeatedRecordIds, mem_sortedTexts, occurrences]
  simp only [List.mem_map, List.mem_filter, decide_eq_true_eq, Prod.exists, exists_and_right,
    exists_eq_right]
  constructor
  · rintro ⟨n, hmem, hn⟩
    rw [(Items.mem_iff_lookup hnodup).mp hmem]
    exact hn
  · intro h
    cases hlookup : (recordIdCounts rows).lookup id with
    | none => simp [hlookup] at h
    | some n =>
      rw [hlookup] at h
      exact ⟨n, (Items.mem_iff_lookup hnodup).mpr hlookup, h⟩

theorem mem_repeatedRecordIds_iff {rows : List RawCashFlowRecord} {id : String} (hid : id ≠ "") :
    id ∈ repeatedRecordIds rows ↔ 1 < rows.countP (·.recordId = id) := by
  rw [mem_repeatedRecordIds, occurrences_eq hid]

/-! ## Rows -/

section
variable (rt : Runtime) (rows : List RawCashFlowRecord) (account : String)

/-- What the derivation makes of a row of the scan. -/
def derivedRow (raw : RawCashFlowRecord) :
    Except (List CashFlowDatasetBlocker) CompletedCashFlowFacts :=
  deriveRow rt (CashFlowManualDatasetAudit.build rt rows) (repeatedRecordIds rows) account raw

variable {rt rows account}

/-- A completed row has a record id that is its own, and its facts are those of its fields. -/
theorem derivedRow_ok {raw : RawCashFlowRecord} {facts : CompletedCashFlowFacts} (hmem : raw ∈ rows)
    (h : derivedRow rt rows account raw = .ok facts) :
    raw.recordId ≠ "" ∧ rows.countP (·.recordId = raw.recordId) ≤ 1 ∧
      raw.recordId ∉ (CashFlowManualDatasetAudit.build rt rows).duplicateRecordIds ∧
      CompletedCashFlowFacts.validateRecord rt raw = .ok facts := by
  unfold derivedRow deriveRow at h
  split at h
  · cases h
  next hid =>
    split at h
    · cases h
    next hrepeated =>
      rw [mem_repeatedRecordIds_iff hid, not_lt] at hrepeated
      rw [lookup_scan rt hmem hrepeated] at h
      cases hmanual : ManualCashFlowFacts.validate rt raw with
      | error issues => simp [hmanual, Except.toOption] at h
      | ok manual =>
        simp only [hmanual, Except.toOption] at h
        split at h
        · cases h
        next hdup =>
          split at h
          · cases h
          · split at h
            · cases h
            next found hfound =>
              cases h
              refine ⟨hid, hrepeated, hdup, ?_⟩
              rw [CompletedCashFlowFacts.validateRecord, hmanual]
              exact hfound

theorem recordId_of_derivedRow {raw : RawCashFlowRecord} {facts : CompletedCashFlowFacts}
    (hmem : raw ∈ rows) (h : derivedRow rt rows account raw = .ok facts) :
    facts.recordId = raw.recordId := by
  have hfacts := (derivedRow_ok hmem h).2.2.2
  unfold CompletedCashFlowFacts.validateRecord at hfacts
  split at hfacts
  · cases hfacts
  next manual hmanual =>
    rw [CompletedCashFlowFacts.recordId, CompletedCashFlowFacts.manual_of_validate hfacts,
      ManualCashFlowFacts.recordId_of_validate hmanual]

/-- What a row adds to the blockers names that row. -/
theorem names_of_derivedRow {raw : RawCashFlowRecord} {found : List CashFlowDatasetBlocker}
    (h : derivedRow rt rows account raw = .error found) :
    ∀ b ∈ found, b.names = [raw.recordId] := by
  intro b hb
  unfold derivedRow deriveRow at h
  split at h
  next hid =>
    cases h
    rw [List.mem_singleton.mp hb, hid]
    rfl
  · split at h
    · cases h
      cases hb
    · split at h
      · cases h
        cases hb
      · split at h
        · cases h
          cases hb
        · split at h
          · cases h
            rw [List.mem_singleton.mp hb]
            rfl
          · split at h
            next issues hissues =>
              cases h
              obtain ⟨issue, hissue, rfl⟩ := List.mem_map.mp hb
              rw [names_fromIssue, (CompletedCashFlowFacts.issues_of_validate hissues).2 issue hissue]
            · cases h

/-- A row that did not complete is named: by a blocker of its own or by an earlier one. -/
theorem named_of_derivedRow {raw : RawCashFlowRecord} {found : List CashFlowDatasetBlocker}
    (hmem : raw ∈ rows) (h : derivedRow rt rows account raw = .error found) :
    Named (deriveRows rt rows account).blockers raw.recordId := by
  have hown : ∀ b ∈ found, Named (deriveRows rt rows account).blockers raw.recordId := by
    intro b hb
    refine ⟨b, List.mem_append_right _ (List.mem_flatMap.mpr ⟨_, List.mem_map_of_mem hmem, ?_⟩), ?_⟩
    · have h' : deriveRow rt (CashFlowManualDatasetAudit.build rt rows) (repeatedRecordIds rows)
          account raw = .error found := h
      rw [h']
      exact hb
    · rw [names_of_derivedRow h b hb]
      exact List.mem_singleton_self _
  unfold derivedRow deriveRow at h
  split at h
  · cases h
    exact hown _ (List.mem_singleton_self _)
  next hid =>
    split at h
    next hrepeated =>
      refine ⟨.recordIdDuplicate raw.recordId (occurrences rows raw.recordId), ?_, by simp⟩
      refine List.mem_append_left _ (List.mem_append_left _ (List.mem_append_right _ ?_))
      exact List.mem_map.mpr ⟨_, hrepeated, rfl⟩
    next hrepeated =>
      rw [mem_repeatedRecordIds_iff hid, not_lt] at hrepeated
      rw [lookup_scan rt hmem hrepeated] at h
      cases hmanual : ManualCashFlowFacts.validate rt raw with
      | error issues =>
        obtain ⟨hne, habout⟩ := ManualCashFlowFacts.issues_of_validate hmanual
        obtain ⟨issue, hissue⟩ := List.exists_mem_of_ne_nil _ hne
        refine ⟨.fromIssue issue, ?_, by simp [habout issue hissue]⟩
        refine List.mem_append_left _ (List.mem_append_left _ (List.mem_append_left _ ?_))
        refine List.mem_map_of_mem ?_
        simp only [CashFlowManualDatasetAudit.build, issues_scan]
        refine List.mem_append_right _ (List.mem_flatMap.mpr ⟨raw, hmem, ?_⟩)
        rw [hmanual]
        exact hissue
      | ok manual =>
        simp only [hmanual, Except.toOption] at h
        split at h
        next hdup =>
          obtain ⟨g, hg, hid⟩ := List.mem_flatMap.mp hdup
          refine ⟨.dedupKeyDuplicate g, ?_, by simpa using hid⟩
          exact List.mem_append_left _ (List.mem_append_right _ (List.mem_map_of_mem hg))
        · split at h
          · cases h
            exact hown _ (List.mem_singleton_self _)
          · split at h
            next issues hissues =>
              cases h
              obtain ⟨hne, -⟩ := CompletedCashFlowFacts.issues_of_validate hissues
              obtain ⟨issue, hissue⟩ := List.exists_mem_of_ne_nil _ hne
              exact hown _ (List.mem_map_of_mem hissue)
            · cases h

/-- A blocker that names the record id of a completed row does not exist. -/
theorem not_named_of_derivedRow {raw : RawCashFlowRecord} {facts : CompletedCashFlowFacts}
    (hmem : raw ∈ rows) (h : derivedRow rt rows account raw = .ok facts) :
    ¬ Named (deriveRows rt rows account).blockers raw.recordId := by
  obtain ⟨hid, hunique, hdup, hfacts⟩ := derivedRow_ok hmem h
  rintro ⟨b, hb, hnames⟩
  rcases List.mem_append.mp hb with hb | hb
  · rcases List.mem_append.mp hb with hb | hb
    · rcases List.mem_append.mp hb with hb | hb
      · -- an issue of the manual scan is about the row it was found in, which is this one
        obtain ⟨issue, hissue, rfl⟩ := List.mem_map.mp hb
        simp only [CashFlowManualDatasetAudit.build, issues_scan] at hissue
        rcases List.mem_append.mp hissue with hissue | hissue
        · cases hissue
        obtain ⟨other, hother, hissue⟩ := List.mem_flatMap.mp hissue
        cases hmanual : ManualCashFlowFacts.validate rt other with
        | ok manual => simp [hmanual, rowBlockers] at hissue
        | error issues =>
          rw [hmanual] at hissue
          have habout := (ManualCashFlowFacts.issues_of_validate hmanual).2 issue hissue
          rw [names_fromIssue, List.mem_singleton, habout] at hnames
          have heq := eq_of_unique hmem hunique hother hnames.symm
          subst heq
          simp [CompletedCashFlowFacts.validateRecord, hmanual] at hfacts
      · obtain ⟨id, hrepeated, rfl⟩ := List.mem_map.mp hb
        rw [names_recordIdDuplicate, List.mem_singleton] at hnames
        subst hnames
        exact absurd ((mem_repeatedRecordIds_iff hid).mp hrepeated) (not_lt.mpr hunique)
    · obtain ⟨g, hg, rfl⟩ := List.mem_map.mp hb
      exact hdup (List.mem_flatMap.mpr ⟨g, hg, hnames⟩)
  · obtain ⟨result, hresult, hb⟩ := List.mem_flatMap.mp hb
    obtain ⟨other, hother, rfl⟩ := List.mem_map.mp hresult
    cases hderived : derivedRow rt rows account other with
    | ok facts' =>
      rw [derivedRow] at hderived
      simp [hderived, rowBlockers] at hb
    | error found =>
      have hb : b ∈ found := by
        rw [derivedRow] at hderived
        rw [hderived] at hb
        exact hb
      rw [names_of_derivedRow hderived b hb, List.mem_singleton] at hnames
      have heq := eq_of_unique hmem hunique hother hnames.symm
      subst heq
      rw [h] at hderived
      cases hderived

/-- The completed rows with the record id of a completed row are its facts alone. -/
theorem completed_of_derivedRow {raw : RawCashFlowRecord} {facts : CompletedCashFlowFacts}
    (hmem : raw ∈ rows) (h : derivedRow rt rows account raw = .ok facts) :
    (deriveRows rt rows account).completedRows.filter (·.recordId = raw.recordId) = [facts] := by
  obtain ⟨-, hunique, -, -⟩ := derivedRow_ok hmem h
  have hnone : ∀ part : List RawCashFlowRecord, (∀ r ∈ part, r ∈ rows) →
      (∀ r ∈ part, r.recordId ≠ raw.recordId) →
      ((part.filterMap fun r => (derivedRow rt rows account r).toOption).filter
        (·.recordId = raw.recordId)) = [] := by
    intro part hsub hne
    rw [List.filter_eq_nil_iff]
    intro found hfound
    obtain ⟨r, hr, hsome⟩ := List.mem_filterMap.mp hfound
    cases hderived : derivedRow rt rows account r with
    | error issues => simp [hderived, Except.toOption] at hsome
    | ok facts' =>
      simp only [hderived, Except.toOption, Option.some.injEq] at hsome
      subst hsome
      rw [recordId_of_derivedRow (hsub r hr) hderived]
      simpa using hne r hr
  obtain ⟨before, after, hrows, hbefore, hafter⟩ := split_of_unique hmem hunique
  have hcompleted : (deriveRows rt rows account).completedRows =
      rows.filterMap fun r => (derivedRow rt rows account r).toOption := by
    simp only [deriveRows, List.filterMap_map]
    rfl
  have hsplit : rows.filterMap (fun r => (derivedRow rt rows account r).toOption) =
      (before ++ raw :: after).filterMap fun r => (derivedRow rt rows account r).toOption := by
    rw [← hrows]
  rw [hcompleted, hsplit, List.filterMap_append, List.filter_append,
    hnone before (fun r hr => by rw [hrows]; simp [hr]) hbefore, List.nil_append,
    List.filterMap_cons_some (b := facts) (by rw [h]; rfl),
    List.filter_cons_of_pos (by simp [recordId_of_derivedRow hmem h]),
    hnone after (fun r hr => by rw [hrows]; simp [hr]) hafter]

/-- No completed row carries the record id of a row that did not complete. -/
theorem not_completed_of_derivedRow {raw : RawCashFlowRecord} {found : List CashFlowDatasetBlocker}
    (hmem : raw ∈ rows) (h : derivedRow rt rows account raw = .error found) :
    ∀ facts ∈ (deriveRows rt rows account).completedRows, facts.recordId ≠ raw.recordId := by
  intro facts hfacts hid
  simp only [deriveRows, List.mem_filterMap, List.mem_map] at hfacts
  obtain ⟨result, ⟨other, hother, rfl⟩, hsome⟩ := hfacts
  cases hderived : derivedRow rt rows account other with
  | error issues =>
    rw [derivedRow] at hderived
    simp [hderived, Except.toOption] at hsome
  | ok facts' =>
    have heq : facts' = facts := by
      rw [derivedRow] at hderived
      rw [hderived] at hsome
      simpa [Except.toOption] using hsome
    subst heq
    have hown := recordId_of_derivedRow hother hderived
    have hunique := (derivedRow_ok hother hderived).2.1
    have heq := eq_of_unique hother hunique hmem (by rw [← hid, hown])
    subst heq
    rw [h] at hderived
    cases hderived

end

end PortfolioManagement.Ledger
