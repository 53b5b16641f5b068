import PortfolioManagement.Ledger.Order

/-!
# Laws of the cash-flow dataset

What `build_dataset` promises about the raw rows it was given: each one is accounted for, the sums
are exact, the official scope accepts exactly the datasets without blockers, and the order of the
rows does not matter. The effect gate adds blockers that name no row and changes nothing else.
-/

namespace PortfolioManagement.Ledger

/-! ## Building -/

/-- The gate of a dataset without blockers has answered for it. -/
structure GateAnswered (ds : CashFlowDatasetSnapshot) : Prop where
  /-- it succeeded -/
  success : ds.effectGate.success = true
  /-- it has a revision, kept in the dataset -/
  revision : ds.effectStoreRevision.isSome ∧
    ds.effectGate.effectStoreRevision = ds.effectStoreRevision
  /-- it is about the account -/
  account : ds.effectGate.account = some ds.account
  /-- it is about the date -/
  navDate : ds.effectGate.navDate = some ds.navDate
  /-- it is bound to the source -/
  financialFingerprint : ds.effectGate.financialFingerprint = some ds.financialFingerprint

/-- A dataset differs from another one in the gate's answer and in blockers that name no row. -/
structure GateOnly (pre ds : CashFlowDatasetSnapshot) : Prop where
  /-- everything but the gate -/
  same : ds = { pre with
    blockers := ds.blockers
    effectStoreRevision := ds.effectStoreRevision
    effectGate := ds.effectGate }
  /-- the blockers of the gate -/
  blockers : ∃ added, ds.blockers = pre.blockers ++ added ∧ ∀ b ∈ added, b.names = [""]

theorem gateOnly_refl (ds : CashFlowDatasetSnapshot) : GateOnly ds ds :=
  ⟨rfl, [], (List.append_nil _).symm, fun _ h => absurd h List.not_mem_nil⟩

theorem names_gateBlockers (ds : CashFlowDatasetSnapshot) (gate : EffectGate) :
    ∀ b ∈ gateBlockers ds gate, b.names = [""] := by
  intro b hb
  unfold gateBlockers at hb
  rcases List.mem_append.mp hb with hb | hb
  · rcases List.mem_append.mp hb with hb | hb
    · split at hb
      · rw [List.mem_singleton.mp hb]
        rfl
      · cases hb
    · split at hb
      · rw [List.mem_singleton.mp hb]
        rfl
      · cases hb
  · split at hb
    · cases hb
    · rw [List.mem_singleton.mp hb]
      rfl

theorem gateOnly_applyGate (service : EffectService) (ds : CashFlowDatasetSnapshot) :
    GateOnly ds (applyGate service ds) := by
  unfold applyGate
  split
  · exact ⟨rfl, [], (List.append_nil _).symm, fun _ h => absurd h List.not_mem_nil⟩
  · split
    next exc _ =>
      refine ⟨rfl, [gateFailed exc], rfl, fun b hb => ?_⟩
      rw [List.mem_singleton.mp hb]
      rfl
    next result _ =>
      exact ⟨rfl, gateBlockers ds (navGatePayload ds result), rfl, names_gateBlockers _ _⟩

/-- A gate that adds no blocker has answered. -/
theorem gateAnswered_applyGate {service : EffectService} {ds : CashFlowDatasetSnapshot}
    (h : (applyGate service ds).blockers = []) : GateAnswered (applyGate service ds) := by
  unfold applyGate at h ⊢
  split at h
  · exact ⟨rfl, ⟨rfl, rfl⟩, rfl, rfl, rfl⟩
  · split at h
    · simp at h
    next result hresult =>
      refine ⟨?_, ⟨rfl, rfl⟩, rfl, rfl, rfl⟩
      have hadded : gateBlockers ds (navGatePayload ds result) = [] :=
        (List.append_eq_nil_iff.mp h).2
      by_contra hsuccess
      simp [gateBlockers, hsuccess] at hadded

section
variable {rt : Runtime} {rows : List RawCashFlowRecord}
  {confirmations : String → Option FxConfirmation} {scope : DatasetScope}
  {service : EffectService} {ds : CashFlowDatasetSnapshot}

/-- The dataset of a scope before the gate. -/
abbrev preliminaryOf (rt : Runtime) (rows : List RawCashFlowRecord)
    (confirmations : String → Option FxConfirmation) (scope : DatasetScope)
    (windowStart : CivilDate) : CashFlowDatasetSnapshot :=
  preliminary rt rows confirmations (strip scope.account) (strip scope.runId) scope.navDate
    windowStart

/-- The scope was complete and the dataset is the preliminary one with the gate's answer. -/
theorem buildDataset_ok (h : buildDataset rt rows confirmations scope service = .ok ds) :
    ∃ windowStart, CivilDate.make? scope.startYear 1 1 = some windowStart ∧
      GateOnly (preliminaryOf rt rows confirmations scope windowStart) ds ∧
      (ds.blockers = [] → GateAnswered ds) ∧
      (service = none →
        ds.blockers = (preliminaryOf rt rows confirmations scope windowStart).blockers) ∧
      ∀ rows', ∃ ds', buildDataset rt rows' confirmations scope service = .ok ds' := by
  unfold buildDataset at h
  split at h
  · cases h
  next haccount =>
    split at h
    · cases h
    next hrun =>
      split at h
      · cases h
      next windowStart hstart =>
        split at h
        · cases h
        next hwindow =>
          refine ⟨windowStart, hstart, ?_, ?_, ?_, fun rows' => ?_⟩
          · cases h
            split
            · exact gateOnly_applyGate _ _
            · exact gateOnly_refl _
          · cases h
            split
            · exact gateAnswered_applyGate
            next hblocked => exact fun hnil => absurd hnil hblocked
          · cases h
            rintro rfl
            split <;> rfl
          · unfold buildDataset
            rw [if_neg haccount, if_neg hrun]
            simp only [hstart]
            rw [if_neg hwindow]
            exact ⟨_, rfl⟩

/-! ## Each row is accounted for -/

/-- A foreign row of the window whose FX evidence does not hold. -/
def FxRefused (confirmations : String → Option FxConfirmation) (start stop : CivilDate)
    (facts : CompletedCashFlowFacts) : Prop :=
  (start ≤ facts.flowDate ∧ facts.flowDate ≤ stop) ∧ facts.manual.currency ≠ .cny ∧
    (evaluateCashFlowFxConfirmation facts (confirmations facts.recordId)).valid = false

/-- The FX blockers name the refused rows. -/
theorem named_fxBlockers {completed : List CompletedCashFlowFacts} {start stop : CivilDate}
    {id : String} :
    Named (fxBlockers confirmations (foreignInWindow completed start stop)) id ↔
      ∃ facts ∈ completed, facts.recordId = id ∧ FxRefused confirmations start stop facts := by
  constructor
  · rintro ⟨b, hb, hnames⟩
    obtain ⟨facts, hfacts, hsome⟩ := List.mem_filterMap.mp hb
    obtain ⟨hmem, hforeign⟩ := List.mem_filter.mp hfacts
    simp only [decide_eq_true_eq] at hforeign
    simp only at hsome
    split at hsome
    · cases hsome
    next hinvalid =>
      cases hsome
      have hid : id = facts.recordId := by
        simpa [CashFlowDatasetBlocker.names, fxBlocker] using hnames
      exact ⟨facts, hmem, hid.symm, hforeign.1, hforeign.2, by simpa using hinvalid⟩
  · rintro ⟨facts, hmem, rfl, hwindow, hforeign, hinvalid⟩
    refine ⟨fxBlocker facts (evaluateCashFlowFxConfirmation facts (confirmations facts.recordId)),
      List.mem_filterMap.mpr ⟨facts, List.mem_filter.mpr ⟨hmem, ?_⟩, ?_⟩,
      List.mem_singleton_self facts.recordId⟩
    · simpa using ⟨hwindow, hforeign⟩
    · simp [hinvalid]

/-- A row is one completed row, named only when its FX evidence is refused, or it is none and is
named. -/
def Accounted (rt : Runtime) (confirmations : String → Option FxConfirmation)
    (ds : CashFlowDatasetSnapshot) (raw : RawCashFlowRecord) : Prop :=
  (∃ facts, CompletedCashFlowFacts.validateRecord rt raw = .ok facts ∧
    ds.completedRows.filter (·.recordId = raw.recordId) = [facts] ∧
    (Named ds.blockers raw.recordId ↔ FxRefused confirmations ds.windowStart ds.navDate facts)) ∨
  ((∀ facts ∈ ds.completedRows, facts.recordId ≠ raw.recordId) ∧ Named ds.blockers raw.recordId)

theorem accounted_of_gateOnly {account runId : String} {navDate windowStart : CivilDate}
    (hgate : GateOnly (preliminary rt rows confirmations account runId navDate windowStart) ds)
    {raw : RawCashFlowRecord} (hmem : raw ∈ rows) : Accounted rt confirmations ds raw := by
  obtain ⟨hsame, added, hblockers, hadded⟩ := hgate
  have hcompleted : ds.completedRows = (deriveRows rt rows account).completedRows := by
    rw [hsame]
    rfl
  have hstart : ds.windowStart = windowStart := by rw [hsame]; rfl
  have hstop : ds.navDate = navDate := by rw [hsame]; rfl
  have hall : ds.blockers = (deriveRows rt rows account).blockers ++
      fxBlockers confirmations (foreignInWindow ds.completedRows windowStart navDate) ++ added := by
    rw [hblockers, hcompleted]
    rfl
  cases h : derivedRow rt rows account raw with
  | error found =>
    right
    rw [hcompleted, hall, named_append, named_append]
    exact ⟨not_completed_of_derivedRow hmem h, Or.inl (Or.inl (named_of_derivedRow hmem h))⟩
  | ok facts =>
    left
    obtain ⟨hid, -, -, hfacts⟩ := derivedRow_ok hmem h
    have hone := completed_of_derivedRow hmem h
    refine ⟨facts, hfacts, by rw [hcompleted]; exact hone, ?_⟩
    have hnotAdded : ¬ Named added raw.recordId := by
      rintro ⟨b, hb, hnames⟩
      rw [hadded b hb, List.mem_singleton] at hnames
      exact hid hnames
    rw [hall, named_append, named_append, hcompleted, hstart, hstop]
    simp only [not_named_of_derivedRow hmem h, hnotAdded, false_or, or_false, named_fxBlockers]
    have hfactsMem : facts ∈ (deriveRows rt rows account).completedRows ∧
        facts.recordId = raw.recordId := by
      have hin : facts ∈ (deriveRows rt rows account).completedRows.filter
          (·.recordId = raw.recordId) := by
        rw [hone]
        exact List.mem_singleton_self _
      simpa using hin
    constructor
    · rintro ⟨other, hother, hotherId, hrefused⟩
      have hin : other ∈ (deriveRows rt rows account).completedRows.filter
          (·.recordId = raw.recordId) := by simpa using ⟨hother, hotherId⟩
      rw [hone, List.mem_singleton] at hin
      subst hin
      exact hrefused
    · exact fun hrefused => ⟨facts, hfactsMem.1, hfactsMem.2, hrefused⟩

/-- Without a blocker every row is a completed row, in order. -/
theorem rows_of_no_blockers {account : String}
    (h : (deriveRows rt rows account).blockers = []) :
    rows.map (CompletedCashFlowFacts.validateRecord rt) =
      (deriveRows rt rows account).completedRows.map .ok := by
  have hderived : ∀ raw ∈ rows, ∃ facts, derivedRow rt rows account raw = .ok facts := by
    intro raw hmem
    cases hraw : derivedRow rt rows account raw with
    | ok facts => exact ⟨facts, rfl⟩
    | error found =>
      obtain ⟨b, hb, -⟩ := named_of_derivedRow hmem hraw
      rw [h] at hb
      cases hb
  have hpart : ∀ part : List RawCashFlowRecord, (∀ raw ∈ part, raw ∈ rows) →
      part.map (CompletedCashFlowFacts.validateRecord rt) =
        (part.filterMap fun raw => (derivedRow rt rows account raw).toOption).map .ok := by
    intro part hsub
    induction part with
    | nil => rfl
    | cons raw part ih =>
      have hmem := hsub raw List.mem_cons_self
      obtain ⟨facts, hfacts⟩ := hderived raw hmem
      rw [List.map_cons, List.filterMap_cons_some (b := facts) (by rw [hfacts]; rfl),
        List.map_cons, (derivedRow_ok hmem hfacts).2.2.2,
        ih fun r hr => hsub r (List.mem_cons_of_mem _ hr)]
  rw [hpart rows fun _ h => h]
  simp only [deriveRows, List.filterMap_map]
  rfl

/-! ## The official scope -/

theorem assertOfficialScope_ok_iff :
    assertOfficialScope rt ds scope = .ok () ↔
      (∀ check ∈ scopeMismatches rt ds scope, check.2 = false) ∧ ds.blockers = [] ∧
        ds.complete = true := by
  have hnil : (((scopeMismatches rt ds scope).filter (·.2)).map (·.1)) = [] ↔
      ∀ check ∈ scopeMismatches rt ds scope, check.2 = false := by
    rw [List.map_eq_nil_iff, List.filter_eq_nil_iff]
    exact forall₂_congr fun _ _ => Bool.not_eq_true _ ▸ Iff.rfl
  rw [← hnil]
  unfold assertOfficialScope
  simp only
  by_cases h1 : (((scopeMismatches rt ds scope).filter (·.2)).map (·.1)) = []
  · rw [if_neg (not_not_intro h1)]
    by_cases h2 : ds.blockers = []
    · rw [if_neg (not_not_intro h2)]
      by_cases h3 : ds.complete = true
      · rw [if_neg (not_not_intro h3)]
        exact ⟨fun _ => ⟨h1, h2, h3⟩, fun _ => rfl⟩
      · rw [if_pos h3]
        exact ⟨fun h => (nomatch h), fun h => absurd h.2.2 h3⟩
    · rw [if_pos h2]
      exact ⟨fun h => (nomatch h), fun h => absurd h.2.1 h2⟩
  · rw [if_pos h1]
    exact ⟨fun h => (nomatch h), fun h => absurd h.1 h1⟩

/-- The record ids of completed rows are stripped. -/
theorem strip_recordId {account : String} {facts : CompletedCashFlowFacts}
    (h : facts ∈ (deriveRows rt rows account).completedRows) :
    strip facts.recordId = facts.recordId := by
  simp only [deriveRows, List.mem_filterMap, List.mem_map] at h
  obtain ⟨result, ⟨raw, hmem, rfl⟩, hsome⟩ := h
  have hraw : derivedRow rt rows account raw = .ok facts := by
    cases hderived : derivedRow rt rows account raw with
    | error found =>
      rw [derivedRow] at hderived
      simp [hderived, Except.toOption] at hsome
    | ok other =>
      rw [derivedRow] at hderived
      rw [hderived] at hsome
      simp only [Except.toOption, Option.some.injEq] at hsome
      rw [hsome]
  rw [recordId_of_derivedRow hmem hraw]
  exact raw.stripped

/-- A built dataset without blockers passes every check of the scope it was built for. -/
theorem assertOfficialScope_of_no_blockers
    (h : buildDataset rt rows confirmations scope service = .ok ds) (hnil : ds.blockers = []) :
    assertOfficialScope rt ds scope = .ok () := by
  obtain ⟨windowStart, hstart, ⟨hsame, added, hblockers, -⟩, hanswered, -, -⟩ := buildDataset_ok h
  have hgate := hanswered hnil
  rw [hnil] at hblockers
  have hpre : (preliminaryOf rt rows confirmations scope windowStart).blockers = [] :=
    (List.append_eq_nil_iff.mp hblockers.symm).1
  have hderived : (deriveRows rt rows (strip scope.account)).blockers = [] :=
    (List.append_eq_nil_iff.mp hpre).1
  have hids : (auditOnlyRecordIds (deriveRows rt rows (strip scope.account)).completedRows
      windowStart scope.navDate).map strip =
      auditOnlyRecordIds (deriveRows rt rows (strip scope.account)).completedRows
        windowStart scope.navDate := by
    refine (List.map_congr_left fun id hid => ?_).trans (List.map_id _)
    obtain ⟨facts, hfacts, rfl⟩ := List.mem_map.mp hid
    exact strip_recordId (List.mem_of_mem_filter hfacts)
  refine assertOfficialScope_ok_iff.mpr ⟨?_, hnil, ?_⟩
  · obtain ⟨hsuccess, ⟨-, hrevision⟩, haccount, hdate, hfingerprint⟩ := hgate
    have hself : ∀ {κ : Type} [DecidableEq κ] (sums : Items κ Cents),
        sameItems sums sums = true := fun sums => List.isPerm_iff.mpr (List.Perm.refl sums)
    rw [hsame] at haccount hdate hfingerprint
    simp only [preliminaryOf, preliminary] at haccount hdate hfingerprint
    rw [hsame]
    simp only [scopeMismatches, preliminaryOf, preliminary, strip_strip, hstart, hids, hderived,
      hrevision, haccount, hdate, hfingerprint, hself]
    simp
  · simp [CashFlowDatasetSnapshot.complete, hnil, hgate.success, hgate.revision.1]

/-! ## The order of the rows -/

/-- What two datasets share whatever the order of their rows. -/
structure SameDataset (a b : CashFlowDatasetSnapshot) : Prop where
  /-- the completed rows, up to their order -/
  completedRows : a.completedRows.Perm b.completedRows
  /-- the keys and record ids of the duplicate groups -/
  duplicateGroups : a.duplicateGroups.map CashFlowDuplicateGroup.identity =
    b.duplicateGroups.map CashFlowDuplicateGroup.identity
  /-- the rows outside the window -/
  auditOnlyRecordIds : a.auditOnlyRecordIds = b.auditOnlyRecordIds
  /-- the fingerprints -/
  fingerprints : a.financialFingerprint = b.financialFingerprint ∧
    a.fullFingerprint = b.fullFingerprint ∧
    a.fxConfirmationFingerprint = b.fxConfirmationFingerprint
  /-- the sums, when none of them is rounded -/
  sums : Representable (windowRows a.completedRows a.windowStart a.navDate) →
    (∀ day, (a.sums.daily.lookup day).getD 0 = (b.sums.daily.lookup day).getD 0) ∧
    (∀ month, (a.sums.monthly.lookup month).getD 0 = (b.sums.monthly.lookup month).getD 0) ∧
    (∀ year, (a.sums.yearly.lookup year).getD 0 = (b.sums.yearly.lookup year).getD 0) ∧
    a.sums.cumulative = b.sums.cumulative

theorem sameDataset_preliminary {rows' : List RawCashFlowRecord} (h : rows.Perm rows')
    (account runId : String) (navDate windowStart : CivilDate) :
    SameDataset (preliminary rt rows confirmations account runId navDate windowStart)
      (preliminary rt rows' confirmations account runId navDate windowStart) := by
  have hcompleted : (deriveRows rt rows account).completedRows.Perm
      (deriveRows rt rows' account).completedRows := completedRows_perm h account
  have hfingerprint : ∀ financialOnly, cashFlowDatasetFingerprint rows financialOnly =
      cashFlowDatasetFingerprint rows' financialOnly := by
    intro financialOnly
    rw [cashFlowDatasetFingerprint, cashFlowDatasetFingerprint,
      Multiset.coe_eq_coe.mpr (h.map (rowState financialOnly))]
  refine ⟨hcompleted, identity_duplicateGroups_perm h, ?_,
    ⟨hfingerprint true, hfingerprint false, ?_⟩, fun hfits => ?_⟩
  · exact sortedTexts_perm (((hcompleted.filter _).map _).map _)
  · have hforeign : ((foreignInWindow (deriveRows rt rows account).completedRows windowStart
        navDate).map fun facts => confirmations facts.recordId).Perm
        ((foreignInWindow (deriveRows rt rows' account).completedRows windowStart navDate).map
          fun facts => confirmations facts.recordId) := (hcompleted.filter _).map _
    simp only [preliminary, cashFlowFxEvidenceFingerprint]
    rw [Multiset.coe_eq_coe.mpr hforeign]
  · have hwindow := hcompleted.filter (inWindow windowStart navDate)
    have hfits' : Representable (windowRows (deriveRows rt rows' account).completedRows windowStart
        navDate) := by
      rw [Representable, windowRows, ← absTotal_perm hwindow]
      exact hfits
    have ha := exactSums_aggregate hfits
    have hb := exactSums_aggregate hfits'
    refine ⟨fun day => ?_, fun month => ?_, fun year => ?_, ?_⟩
    · exact (ha.daily day).trans ((total_perm (hwindow.filter _)).trans (hb.daily day).symm)
    · exact (ha.monthly month).trans ((total_perm (hwindow.filter _)).trans (hb.monthly month).symm)
    · exact (ha.yearly year).trans ((total_perm (hwindow.filter _)).trans (hb.yearly year).symm)
    · exact ha.cumulative.trans ((total_perm hwindow).trans hb.cumulative.symm)

theorem SameDataset.of_gateOnly {a b a' b' : CashFlowDatasetSnapshot} (h : SameDataset a b)
    (ha : GateOnly a a') (hb : GateOnly b b') : SameDataset a' b' := by
  obtain ⟨h1, h2, h3, h4, h5⟩ := h
  rw [ha.same, hb.same]
  exact ⟨h1, h2, h3, h4, h5⟩

theorem subject_preliminary_perm {rows' : List RawCashFlowRecord} (h : rows.Perm rows')
    (account runId : String) (navDate windowStart : CivilDate) :
    ((preliminary rt rows confirmations account runId navDate windowStart).blockers.map
      CashFlowDatasetBlocker.subject).Perm
    ((preliminary rt rows' confirmations account runId navDate windowStart).blockers.map
      CashFlowDatasetBlocker.subject) := by
  simp only [preliminary, List.map_append]
  refine (subject_blockers_perm h account).append (List.Perm.map _ ?_)
  exact ((completedRows_perm h account).filter _).filterMap _

/-- The laws of a built dataset. -/
theorem dataset_accounts_for_every_row
    (h : buildDataset rt rows confirmations scope service = .ok ds) :
    (∀ raw ∈ rows, Accounted rt confirmations ds raw) ∧
      (ds.blockers = [] →
        rows.map (CompletedCashFlowFacts.validateRecord rt) = ds.completedRows.map .ok ∧
        (Representable (windowRows ds.completedRows ds.windowStart ds.navDate) →
          ExactSums ds.completedRows ds.windowStart ds.navDate ds.sums)) ∧
      (assertOfficialScope rt ds scope = .ok () ↔ ds.blockers = []) ∧
      ∀ rows', rows.Perm rows' →
        ∃ ds', buildDataset rt rows' confirmations scope service = .ok ds' ∧ SameDataset ds ds' ∧
          (service = none → (ds.blockers.map CashFlowDatasetBlocker.subject).Perm
            (ds'.blockers.map CashFlowDatasetBlocker.subject)) := by
  obtain ⟨windowStart, hstart, hgate, -, hplain, hany⟩ := buildDataset_ok h
  refine ⟨fun raw hmem => accounted_of_gateOnly hgate hmem, fun hnil => ?_, ?_,
    fun rows' hperm => ?_⟩
  · obtain ⟨hsame, added, hblockers, -⟩ := hgate
    rw [hnil] at hblockers
    have hderived : (deriveRows rt rows (strip scope.account)).blockers = [] :=
      (List.append_eq_nil_iff.mp (List.append_eq_nil_iff.mp hblockers.symm).1).1
    rw [hsame]
    exact ⟨rows_of_no_blockers hderived, exactSums_aggregate⟩
  · exact ⟨fun hok => (assertOfficialScope_ok_iff.mp hok).2.1,
      assertOfficialScope_of_no_blockers h⟩
  · obtain ⟨ds', h'⟩ := hany rows'
    obtain ⟨windowStart', hstart', hgate', -, hplain', -⟩ := buildDataset_ok h'
    have heq : windowStart' = windowStart := Option.some.inj (hstart'.symm.trans hstart)
    subst heq
    refine ⟨ds', h', (sameDataset_preliminary hperm _ _ _ _).of_gateOnly hgate hgate',
      fun hservice => ?_⟩
    rw [hplain hservice, hplain' hservice]
    exact subject_preliminary_perm hperm _ _ _ _

end

/-! ## A row of the ledger -/

/-- The standard library on the texts of `ledgerRow`. -/
def ledgerRuntime : Runtime where
  dedupHash text :=
    if text = "a|某券商|2025-03-14|DEPOSIT|50.0|CNY" then "077c3865e629dbb0"
    else if text = "a|某券商|2025-03-14|DEPOSIT|50.0|USD" then "3da0d81060faeb6a"
    else if text = "a|b1|2025-03-14|DEPOSIT|1e+26|CNY" then "dc3d9bcdd04617a1"
    else if text = "a|b2|2025-03-14|DEPOSIT|1e+26|CNY" then "343b4ec46a2e6157"
    else ""
  floatText amount := if amount = 5000 then "50.0" else "1e+26"
  isoDate _ := none
  dateError _ := ""

/-- 14 March 2025. -/
def ledgerDate : CivilDate := ⟨2025, 3, 14, by decide⟩

/-- A deposit of that day. -/
def ledgerRow (recordId broker currency : String) (amount cnyAmount exchangeRate : Decimal)
    (dedupKey : String) : RawCashFlowRecord :=
  .make recordId
    [("flow_date", .date ledgerDate), ("account", .text "a"), ("broker", .text broker),
      ("amount", .decimal amount), ("currency", .text currency), ("flow_type", .text "DEPOSIT"),
      ("cny_amount", .decimal cnyAmount), ("exchange_rate", .decimal exchangeRate),
      ("dedup_key", .text dedupKey), ("source", .text "test")]

/-- A deposit of 50 CNY. -/
def cnyRow : RawCashFlowRecord :=
  ledgerRow "cf_1" "某券商" "CNY" (.ofInt 50) (.ofInt 50) (.ofInt 1) "077c3865e629dbb0"

/-- A deposit of 50 USD at 7.2. -/
def usdRow : RawCashFlowRecord :=
  ledgerRow "cf_1" "某券商" "USD" (.ofInt 50) (.ofInt 360) ⟨72, -1⟩ "3da0d81060faeb6a"

/-- The largest amount at two places. -/
def largest : Decimal := ⟨10 ^ 28 - 1, -2⟩

/-- Two deposits of the largest amount. -/
def largeRows : List RawCashFlowRecord :=
  [ledgerRow "cf_1" "b1" "CNY" largest largest (.ofInt 1) "dc3d9bcdd04617a1",
    ledgerRow "cf_2" "b2" "CNY" largest largest (.ofInt 1) "343b4ec46a2e6157"]

/-- The report of that day, with the window from 2025. -/
def ledgerScope : DatasetScope := ⟨"a", ledgerDate, "run-1", 2025⟩

/-- The laws on a ledger of one CNY deposit, which the dataset completes. -/
theorem cny_dataset_accounts_for_its_row :
    ∃ ds, buildDataset ledgerRuntime [cnyRow] (fun _ => none) ledgerScope none = .ok ds ∧
      ds.completedRows.map (·.cnyAmount) = [5000] ∧
      (assertOfficialScope ledgerRuntime ds ledgerScope = .ok () ↔ ds.blockers = []) := by
  have hbuilt : ((buildDataset ledgerRuntime [cnyRow] (fun _ => none) ledgerScope none).toOption.map
      fun ds => ds.completedRows.map (·.cnyAmount)) = some [5000] := by decide +kernel
  cases h : buildDataset ledgerRuntime [cnyRow] (fun _ => none) ledgerScope none with
  | error exc =>
    rw [h] at hbuilt
    cases hbuilt
  | ok ds =>
    rw [h] at hbuilt
    exact ⟨ds, rfl, Option.some.inj hbuilt, (dataset_accounts_for_every_row h).2.2.1⟩

/-- A USD deposit without FX evidence is a completed row and is named by a blocker, and a dataset
without blockers rounds the sum of two amounts of 28 digits. -/
theorem usd_row_is_completed_and_blocked :
    ((buildDataset ledgerRuntime [usdRow] (fun _ => none) ledgerScope none).toOption.map
      fun ds => (ds.completedRows.map (·.recordId), ds.blockers.map fun b => (b.reasonCode, b.names)))
      = some (["cf_1"], [("fx_confirmation_missing", ["cf_1"])]) ∧
    ((buildDataset ledgerRuntime largeRows (fun _ => none) ledgerScope none).toOption.map
      fun ds => (ds.blockers, ds.completedRows.map (·.cnyAmount), ds.sums.cumulative))
      = some ([], [10 ^ 28 - 1, 10 ^ 28 - 1], 2 * 10 ^ 28) := by
  decide +kernel

end PortfolioManagement.Ledger
