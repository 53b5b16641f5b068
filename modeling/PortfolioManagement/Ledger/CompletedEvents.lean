import PortfolioManagement.Ledger.EventCompletion
import PortfolioManagement.Ledger.Partition
import PortfolioManagement.Ledger.Settled

/-!
# What the completion of an event writes

A pending row is eligible only when it is a CNY row: the fingerprint FX evidence is compared with is
that of a row without updates. The apply step reads and plans again without the evidence, and the
remote has no conditional write, so what is written fits the row it lands on as long as nobody turns
a CNY row into a foreign one before the apply step reads it, and nobody changes its manual fields
before it is written. An event is completed only when the row read back passes the contract.
-/

namespace PortfolioManagement.Ledger

open Prog (EndsIn ends_of_snd ends_bind ends_pure ends_raise ends_reads ends_alter ends_require ends_rescue)

/-! ## What fits a row -/

/-- Only generated fields, with the values computed for the manual facts of a CNY row. -/
structure ComputedFor (rt : ReconcileRuntime) (manual : ManualCashFlowFacts)
    (fields : Items String Cell) : Prop where
  names : ∀ item ∈ fields, item.1 ∈ ["flow_type", "exchange_rate", "cny_amount", "dedup_key", "source"]
  flowType : ∀ v, ("flow_type", v) ∈ fields → v = .text manual.expectedFlowType.value
  exchangeRate : ∀ v, ("exchange_rate", v) ∈ fields → v = rt.floatCell (.ofInt 1)
  cnyAmount : ∀ v, ("cny_amount", v) ∈ fields → ∃ cny,
    money? (Decimal.mul ⟨manual.amount, -2⟩ (.ofInt 1)) = some cny ∧ v = rt.floatCell ⟨cny, -2⟩
  dedupKey : ∀ v, ("dedup_key", v) ∈ fields → v = .text (manual.expectedDedupKey rt.toRuntime)

section
variable (rt : ReconcileRuntime) (recordId : String)

/-- The row is a CNY row, and what it receives is computed for this very version of it. -/
def Sanctioned (written : RawCashFlowRecord × Items String Cell) : Prop :=
  written.1.recordId = recordId ∧ ∃ manual,
    ManualCashFlowFacts.validate rt.toRuntime written.1 = .ok manual ∧ manual.currency = .cny ∧
      ComputedFor rt manual written.2

/-- The evidence matches the plan of the row. -/
def Confirmed (record : RawCashFlowRecord) (confirmation : Option FxConfirmation) : Prop :=
  ∃ manual row, ManualCashFlowFacts.validate rt.toRuntime record = .ok manual ∧
    planReconcileRow rt record manual noArguments = .ok row ∧
      (row.evaluateFxConfirmation confirmation).valid = true

/-- One of the rows is the record's; it passes the contract, and it is a CNY row or one whose
evidence matches. -/
def SettledIn (rows : List RawCashFlowRecord) (confirmations : String → Option FxConfirmation) : Prop :=
  ∃ record ∈ rows, record.recordId = recordId ∧ ∃ facts,
    CompletedCashFlowFacts.validateRecord rt.toRuntime record = .ok facts ∧
      (facts.manual.currency = .cny ∨ Confirmed rt record (confirmations recordId))

/-- One of the rows is the record's, in CNY. -/
def CnyIn (rows : List RawCashFlowRecord) : Prop :=
  ∃ record ∈ rows, record.recordId = recordId ∧ ∃ manual,
    ManualCashFlowFacts.validate rt.toRuntime record = .ok manual ∧ manual.currency = .cny

/-- Whoever acts does not turn a CNY row of the record into a foreign one. -/
def StaysCny (act : LedgerState → LedgerState) : Prop :=
  ∀ s, CnyIn rt recordId s.rows → ∀ record ∈ (act s).rows, record.recordId = recordId →
    ∀ manual, ManualCashFlowFacts.validate rt.toRuntime record = .ok manual → manual.currency = .cny

/-- Whoever acts leaves the manual fields of the record as they are. -/
def LeavesManual (act : LedgerState → LedgerState) : Prop :=
  ∀ s, ∀ record ∈ (act s).rows, record.recordId = recordId → ∃ old ∈ s.rows,
    old.recordId = recordId ∧ ManualCashFlowFacts.validate rt.toRuntime record =
      ManualCashFlowFacts.validate rt.toRuntime old

end

section
variable {rt : ReconcileRuntime} {record : RawCashFlowRecord} {manual : ManualCashFlowFacts}
  {rate : Decimal} {cny : Cents} {row : ReconcileRow}

theorem mem_entry {name key : String} {value : Option Cell} {v : Cell} :
    (key, v) ∈ entry name value ↔ key = name ∧ value = some v := by
  cases value with
  | none => simp [entry]
  | some cell => simp [entry, eq_comm]

/-- The plan of a CNY row computes its fields for the row. -/
theorem computedFor_plan (hcny : manual.currency = .cny)
    (hplan : planReconcileRow rt record manual noArguments = .ok row) :
    ComputedFor rt manual row.updates := by
  obtain ⟨rate, evidence, cny, completed, hresolve, -, hproduct, -, rfl⟩ :=
    planReconcileRow_ok_iff.mp hplan
  have hrate : rate = .ofInt 1 := by
    unfold resolveRate at hresolve
    rw [if_pos hcny] at hresolve
    cases hresolve
    rfl
  subst hrate
  rw [updates_plannedRow]
  have hmem : ∀ {key : String} {v : Cell},
      (key, v) ∈ proposedUpdates rt record manual (.ofInt 1) cny →
        key = "flow_type" ∧ flowTypeUpdate manual (record.get "flow_type") = some v ∨
        key = "exchange_rate" ∧ exchangeRateUpdate rt (.ofInt 1) (record.get "exchange_rate") = some v ∨
        key = "cny_amount" ∧ cnyAmountUpdate rt cny (record.get "cny_amount") = some v ∨
        key = "dedup_key" ∧ dedupKeyUpdate rt manual (record.get "dedup_key") = some v ∨
        key = "source" ∧ sourceUpdate (record.get "source") = some v := by
    intro key v h
    simp only [proposedUpdates, List.mem_append, mem_entry] at h
    tauto
  refine ⟨fun item hitem => keys_proposedUpdates (List.mem_map_of_mem hitem), ?_, ?_, ?_, ?_⟩
  · intro v hv
    rcases hmem hv with ⟨-, h⟩ | ⟨h, -⟩ | ⟨h, -⟩ | ⟨h, -⟩ | ⟨h, -⟩
    · unfold flowTypeUpdate at h
      split at h
      · split at h
        · cases h
        · exact (Option.some.inj h).symm
      · exact (Option.some.inj h).symm
    all_goals exact absurd h (by decide)
  · intro v hv
    rcases hmem hv with ⟨h, -⟩ | ⟨-, h⟩ | ⟨h, -⟩ | ⟨h, -⟩ | ⟨h, -⟩
    · exact absurd h (by decide)
    · unfold exchangeRateUpdate at h
      split at h
      · cases h
      · exact (Option.some.inj h).symm
    all_goals exact absurd h (by decide)
  · intro v hv
    rcases hmem hv with ⟨h, -⟩ | ⟨h, -⟩ | ⟨-, h⟩ | ⟨h, -⟩ | ⟨h, -⟩
    · exact absurd h (by decide)
    · exact absurd h (by decide)
    · unfold cnyAmountUpdate at h
      split at h
      · cases h
      · exact ⟨cny, hproduct, (Option.some.inj h).symm⟩
    all_goals exact absurd h (by decide)
  · intro v hv
    rcases hmem hv with ⟨h, -⟩ | ⟨h, -⟩ | ⟨h, -⟩ | ⟨-, h⟩ | ⟨h, -⟩
    · exact absurd h (by decide)
    · exact absurd h (by decide)
    · exact absurd h (by decide)
    · unfold dedupKeyUpdate at h
      split at h
      · cases h
      · exact (Option.some.inj h).symm
    · exact absurd h (by decide)

/-- A row that is planned without updates passes the contract. -/
theorem passes_of_no_updates (hmanual : ManualCashFlowFacts.validate rt.toRuntime record = .ok manual)
    (hplan : planReconcileRow rt record manual noArguments = .ok row) (hnone : row.updates = []) :
    ∃ facts, CompletedCashFlowFacts.validateRecord rt.toRuntime record = .ok facts := by
  obtain ⟨rate, evidence, cny, completed, hresolve, hpositive, hproduct, hvalid, rfl⟩ :=
    planReconcileRow_ok_iff.mp hplan
  obtain ⟨hone, hblank, hstrip, s, hsource, hsourceBlank⟩ := complete_of_plan hmanual hvalid
  rw [updates_plannedRow] at hnone
  simp only [proposedUpdates, List.append_eq_nil_iff] at hnone
  obtain ⟨⟨⟨⟨htype, hrate⟩, hcny⟩, hkey⟩, hown⟩ := hnone
  have hentry : ∀ {name : String} {value : Option Cell}, entry name value = [] → value = none := by
    rintro name (_ | cell) h
    · rfl
    · cases h
  have htype := hentry htype
  have hrate := hentry hrate
  have hcny := hentry hcny
  have hkey := hentry hkey
  have hown := hentry hown
  rw [exists_validateRecord_iff hmanual]
  refine ⟨?_, ⟨rate, cny, ?_⟩, ⟨_, ?_, hblank, fun _ => hstrip⟩, ⟨s, ?_, hsourceBlank⟩⟩
  · unfold flowTypeUpdate at htype
    split at htype
    · next t ht =>
      split at htype
      · next hupper => exact ⟨t, ht, hupper⟩
      · cases htype
    · cases htype
  · refine ⟨?_, hpositive, hone, ?_, hproduct⟩
    · unfold exchangeRateUpdate decimalMatches at hrate
      cases hread : (record.get "exchange_rate").toDecimal with
      | none =>
        rw [hread] at hrate
        cases hrate
      | some x =>
        rw [hread] at hrate
        refine ⟨x, rfl, ?_⟩
        by_contra hne
        rw [if_neg hne] at hrate
        cases hrate
    · unfold cnyAmountUpdate moneyMatches at hcny
      cases hread : (record.get "cny_amount").toDecimal with
      | none =>
        rw [hread] at hcny
        cases hcny
      | some y =>
        rw [hread] at hcny
        refine ⟨y, rfl, ?_⟩
        by_contra hne
        rw [if_neg (by simpa using hne)] at hcny
        cases hcny
  · unfold dedupKeyUpdate at hkey
    split at hkey
    · assumption
    · cases hkey
  · rw [hown] at hsource
    exact hsource

theorem upper_currency {c : Currency} : upper c.value = "CNY" ↔ c = .cny := by
  cases c <;> decide

/-- FX evidence is never valid for a row with updates. -/
theorem not_valid_of_updates {confirmation : Option FxConfirmation}
    (hplan : planReconcileRow rt record manual noArguments = .ok row) (hupdates : row.updates ≠ []) :
    (row.evaluateFxConfirmation confirmation).valid = false := by
  have hfingerprint : row.generatedFingerprint = none := by
    obtain ⟨rate, evidence, cny, completed, -, -, -, -, rfl⟩ := planReconcileRow_ok_iff.mp hplan
    rw [updates_plannedRow] at hupdates
    show (if (proposedUpdates rt record manual rate cny).isEmpty then _ else _) = none
    rw [if_neg (by simpa using hupdates)]
  unfold ReconcileRow.evaluateFxConfirmation
  cases confirmation with
  | none => rfl
  | some c =>
    simp only
    split
    · rfl
    · rw [if_pos (by rw [hfingerprint]; simp)]
      rfl

end

/-! ## Plans of a scan -/

section
variable {rt : ReconcileRuntime} {recordId : String} {rows : List RawCashFlowRecord}

/-- A planned row is the plan of the record's row. -/
theorem planned_mem (hnodup : (rows.map (·.recordId)).Nodup) {row : ReconcileRow}
    (h : .planned row ∈ buildReconcilePlan rt rows recordId) : ∃ record ∈ rows,
      record.recordId = recordId ∧ row.recordId = recordId ∧ ∃ manual,
        ManualCashFlowFacts.validate rt.toRuntime record = .ok manual ∧
          planReconcileRow rt record manual noArguments = .ok row := by
  obtain ⟨record, hrecord, hrow⟩ := List.mem_map.mp h
  obtain ⟨hrecord, hid⟩ := List.mem_filter.mp hrecord
  have hid : record.recordId = recordId := of_decide_eq_true hid
  have hunique : rows.countP (·.recordId = record.recordId) ≤ 1 := by
    have hcount := List.nodup_iff_count_le_one.mp hnodup record.recordId
    rw [List.count_eq_countP, List.countP_map] at hcount
    refine le_trans (le_of_eq (List.countP_congr fun other _ => ?_)) hcount
    simp
  unfold planRow at hrow
  rw [lookup_scan rt.toRuntime hrecord hunique] at hrow
  cases hmanual : ManualCashFlowFacts.validate rt.toRuntime record with
  | error issues =>
    rw [hmanual] at hrow
    cases hrow
  | ok manual =>
    rw [hmanual] at hrow
    simp only [Except.toOption] at hrow
    split at hrow
    · cases hrow
    · split at hrow
      · cases hrow
      next planned hplan =>
        cases hrow
        refine ⟨record, hrecord, hid, ?_, manual, hmanual, hplan⟩
        obtain ⟨rate, evidence, cny, completed, -, -, -, -, rfl⟩ := planReconcileRow_ok_iff.mp hplan
        exact hid

/-- A payload is the updates of the plan of the record's row. -/
theorem payload_mem (hnodup : (rows.map (·.recordId)).Nodup) {payload : String × Items String Cell}
    (h : payload ∈ (buildReconcilePlan rt rows recordId).filterMap PlanRow.payload) :
    payload.1 = recordId ∧ ∃ record ∈ rows, record.recordId = recordId ∧ ∃ manual row,
      ManualCashFlowFacts.validate rt.toRuntime record = .ok manual ∧
        planReconcileRow rt record manual noArguments = .ok row ∧ payload.2 = row.updates := by
  obtain ⟨planned, hplanned, hpayload⟩ := List.mem_filterMap.mp h
  cases planned with
  | error id exc => cases hpayload
  | planned row =>
    obtain ⟨record, hrecord, hid, hrow, manual, hmanual, hplan⟩ := planned_mem hnodup hplanned
    simp only [PlanRow.payload] at hpayload
    split at hpayload
    · cases hpayload
    · cases hpayload
      exact ⟨hrow, record, hrecord, hid, manual, row, hmanual, hplan, rfl⟩

end

/-! ## The requests -/

section
variable {rt : ReconcileRuntime} {recordId : String} {w : CompletionWorld}

/-- Between two moments of a run nothing was written. -/
structure Unwritten (w w' : CompletionWorld) : Prop where
  others : w'.others = w.others
  writes : w'.writes = w.writes

theorem Unwritten.trans {w' w'' : CompletionWorld} (h : Unwritten w w') (h' : Unwritten w' w'') :
    Unwritten w w'' := ⟨h'.others.trans h.others, h'.writes.trans h.writes⟩

/-- A scan returns the rows there are when others have acted. -/
theorem ledgerScan_ends (step : CompletionStep) (w : CompletionWorld) :
    EndsIn (fun rows w' => Unwritten w w' ∧ w'.state = w.others step w.state ∧
        rows = w'.state.rows ∧ w'.scanned = rows)
      (fun _ w' => Unwritten w w') (getRawCashFlows step w) := by
  unfold getRawCashFlows turn
  simp only [ends_bind, ends_alter, ends_reads, ends_require]
  exact ⟨fun _ => ⟨⟨rfl, rfl⟩, trivial, trivial, trivial⟩, fun _ => ⟨rfl, rfl⟩⟩

/-- A preview is the plan of the rows it scans. -/
theorem preview_ends (step : CompletionStep) (w : CompletionWorld) :
    EndsIn (fun row w' => Unwritten w w' ∧ w'.state = w.others step w.state ∧
        w'.scanned = w'.state.rows ∧ ∀ planned ∈ row,
          planned ∈ buildReconcilePlan rt w'.state.rows recordId)
      (fun _ w' => Unwritten w w') (preview rt step recordId w) := by
  unfold preview
  rw [ends_bind]
  refine (ledgerScan_ends step w).imp ?_ fun _ _ h => h
  rintro _ w' ⟨hkept, hstate, rfl, hscanned⟩
  cases hplan : buildReconcilePlan rt w'.state.rows recordId with
  | nil => exact ⟨hkept, hstate, hscanned, fun _ h => by cases h⟩
  | cons row rest =>
    cases rest with
    | nil =>
      refine ⟨hkept, hstate, hscanned, fun planned h => ?_⟩
      cases h
      rw [hplan]
      exact List.mem_singleton_self _
    | cons other rest => exact hkept

/-- What a decision says about the rows that were scanned. -/
structure Judged (rt : ReconcileRuntime) (recordId : String) (decision : Decision)
    (w : CompletionWorld) : Prop where
  eligible : ∀ currency, decision = .eligible currency → CnyIn rt recordId w.state.rows
  complete : ∀ currency, decision = .complete currency →
    SettledIn rt recordId w.scanned w.state.confirmations

/-- A decision rests on the rows that were scanned and on the evidence there is. -/
theorem previewDecision_ends (step evidence : CompletionStep) (w : CompletionWorld) :
    EndsIn (fun decision w' => Unwritten w w' ∧ Judged rt recordId decision w')
      (fun _ w' => Unwritten w w') (previewDecision rt step evidence recordId w) := by
  unfold previewDecision
  rw [ends_bind]
  refine (preview_ends step w).imp ?_ fun _ _ h => h
  rintro row w' ⟨hkept, -, hscanned, hrow⟩
  unfold decideOn
  cases row with
  | none => exact ⟨hkept, fun _ h => (by cases h), fun _ h => by cases h⟩
  | some planned =>
    cases planned with
    | error id exc => exact ⟨hkept, fun _ h => (by cases h), fun _ h => by cases h⟩
    | planned row =>
      obtain ⟨record, hrecord, hid, hrowId, manual, hmanual, hplan⟩ :=
        planned_mem w'.state.nodup (hrow _ rfl)
      have hcurrency : row.currency = manual.currency.value := by
        obtain ⟨rate, found, cny, completed, -, -, -, -, rfl⟩ := planReconcileRow_ok_iff.mp hplan
        rfl
      have hpasses : row.updates = [] → ∃ facts,
          CompletedCashFlowFacts.validateRecord rt.toRuntime record = .ok facts ∧
            facts.manual = manual := by
        intro hnone
        obtain ⟨facts, hfacts⟩ := passes_of_no_updates hmanual hplan hnone
        refine ⟨facts, hfacts, ?_⟩
        unfold CompletedCashFlowFacts.validateRecord at hfacts
        rw [hmanual] at hfacts
        exact CompletedCashFlowFacts.manual_of_validate hfacts
      by_cases hcny : upper row.currency = "CNY"
      · have hcny' : manual.currency = .cny := by
          rw [hcurrency] at hcny
          exact upper_currency.mp hcny
        simp only [if_pos hcny, ends_pure]
        refine ⟨hkept, fun currency h => ⟨record, hrecord, hid, manual, hmanual, hcny'⟩,
          fun currency h => ?_⟩
        have hnone : row.updates = [] := by
          by_contra hne
          rw [ReconcileRow.decision, if_neg hne] at h
          cases h
        obtain ⟨facts, hfacts, hfactsManual⟩ := hpasses hnone
        rw [hscanned]
        exact ⟨record, hrecord, hid, facts, hfacts, .inl (by rw [hfactsManual]; exact hcny')⟩
      · simp only [if_neg hcny]
        unfold latestFxConfirmation turn
        simp only [ends_bind, ends_alter, ends_reads]
        split
        next hvalid =>
          have hnone : row.updates = [] := by
            by_contra hne
            rw [not_valid_of_updates hplan hne] at hvalid
            cases hvalid
          refine ⟨⟨hkept.others, hkept.writes⟩, fun currency h => ?_, fun currency h => ?_⟩
          · rw [ReconcileRow.decision, if_pos hnone] at h
            cases h
          · obtain ⟨facts, hfacts, -⟩ := hpasses hnone
            refine ⟨record, ?_, hid, facts, hfacts, .inr ⟨manual, row, hmanual, hplan, ?_⟩⟩
            · show record ∈ w'.scanned
              rw [hscanned]
              exact hrecord
            · rw [← hrowId]
              exact hvalid
        next => exact ⟨⟨hkept.others, hkept.writes⟩, fun _ h => (by cases h), fun _ h => by cases h⟩

end

/-! ## The apply step -/

section
variable {rt : ReconcileRuntime} {recordId : String}

/-- Everything that was written since is sanctioned. -/
def WroteWell (rt : ReconcileRuntime) (recordId : String) (w w' : CompletionWorld) : Prop :=
  ∀ written ∈ w'.writes, written ∈ w.writes ∨ Sanctioned rt recordId written

theorem WroteWell.of_unwritten {w w' w'' : CompletionWorld} (h : WroteWell rt recordId w w')
    (hkept : Unwritten w' w'') : WroteWell rt recordId w w'' := by
  unfold WroteWell
  rw [hkept.writes]
  exact h

/-- The rows that receive payloads are those of the payloads' records. -/
theorem mem_writtenRows {payloads : List (String × Items String Cell)} {rows : List RawCashFlowRecord}
    {written : RawCashFlowRecord × Items String Cell} (h : written ∈ writtenRows payloads rows) :
    written.1 ∈ rows ∧ (written.1.recordId, written.2) ∈ payloads := by
  obtain ⟨record, hrecord, hwritten⟩ := List.mem_filterMap.mp h
  obtain ⟨fields, hfields, rfl⟩ := Option.map_eq_some_iff.mp hwritten
  exact ⟨hrecord, Items.mem_of_lookup hfields⟩

/-- What the apply step writes to a row whose manual fields nobody changes is computed for it. -/
theorem sanctioned_of_plan {s : LedgerState} {act : LedgerState → LedgerState}
    (hmanual : LeavesManual rt recordId act)
    (hcny : ∀ record ∈ s.rows, record.recordId = recordId → ∀ manual,
      ManualCashFlowFacts.validate rt.toRuntime record = .ok manual → manual.currency = .cny)
    {written : RawCashFlowRecord × Items String Cell} (h : written ∈ writtenRows
      ((buildReconcilePlan rt s.rows recordId).filterMap PlanRow.payload) (act s).rows) :
    Sanctioned rt recordId written := by
  obtain ⟨hmem, hpayload⟩ := mem_writtenRows h
  obtain ⟨hid, record, hrecord, hrecordId, manual, row, hvalid, hplan, hupdates⟩ :=
    payload_mem s.nodup hpayload
  obtain ⟨old, hold, holdId, hsame⟩ := hmanual s written.1 hmem hid
  obtain rfl : old = record := List.inj_on_of_nodup_map s.nodup hold hrecord (holdId.trans hrecordId.symm)
  have hcurrency := hcny old hold holdId manual hvalid
  refine ⟨hid, manual, hsame.trans hvalid, hcurrency, ?_⟩
  have hfields : written.2 = row.updates := hupdates
  rw [hfields]
  exact computedFor_plan hcurrency hplan

/-- The apply step writes well when the row it reads stays in CNY and keeps its manual fields until
it is written. -/
theorem applyReconcile_ends {w : CompletionWorld} (hcny : CnyIn rt recordId w.state.rows)
    (hread : StaysCny rt recordId (w.others .applyRead))
    (hwrite : LeavesManual rt recordId (w.others .applyWrite)) :
    EndsIn (fun _ w' => WroteWell rt recordId w w') (fun _ w' => WroteWell rt recordId w w')
      (applyReconcile rt recordId w) := by
  have hsame : ∀ {w' : CompletionWorld}, w'.writes = w.writes → WroteWell rt recordId w w' := by
    intro w' heq written hwritten
    rw [heq] at hwritten
    exact .inl hwritten
  unfold applyReconcile
  rw [ends_bind]
  refine (ledgerScan_ends .applyRead w).imp ?_ fun _ _ h => hsame h.writes
  rintro _ w₁ ⟨hkept, hstate, rfl, -⟩
  have hstill : ∀ record ∈ w₁.state.rows, record.recordId = recordId → ∀ manual,
      ManualCashFlowFacts.validate rt.toRuntime record = .ok manual → manual.currency = .cny := by
    rw [hstate]
    exact hread w.state hcny
  -- what was written by the time the batch has an answer
  have hsent : ∀ {payloads}, payloads = (buildReconcilePlan rt w₁.state.rows recordId).filterMap
        PlanRow.payload → ∀ w₂ : CompletionWorld, w₂.writes = w₁.writes ++ writtenRows payloads
          (w.others .applyWrite w₁.state).rows → WroteWell rt recordId w w₂ := by
    rintro payloads rfl w₂ heq written hwritten
    rw [heq, hkept.writes] at hwritten
    rcases List.mem_append.mp hwritten with hold | hnew
    · exact .inl hold
    · exact .inr (sanctioned_of_plan hwrite hstill hnew)
  have hbatch : ∀ payloads, payloads = (buildReconcilePlan rt w₁.state.rows recordId).filterMap
      PlanRow.payload → EndsIn (fun _ w₂ => WroteWell rt recordId w w₂)
        (fun _ w₂ => WroteWell rt recordId w w₂) (batchUpdateCashFlows payloads w₁) := by
    intro payloads hpayloads
    have hothers : w₁.others .applyWrite = w.others .applyWrite := by rw [hkept.others]
    unfold batchUpdateCashFlows turn
    simp only [ends_bind, ends_alter, ends_reads]
    cases w₁.answers .applyWrite with
    | ok =>
      simp only [ends_bind, ends_alter, ends_pure]
      refine hsent hpayloads _ ?_
      rw [← hothers]
      rfl
    | refused =>
      simp only [ends_raise]
      exact hsame hkept.writes
    | lost =>
      simp only [ends_bind, ends_alter, ends_raise]
      refine hsent hpayloads _ ?_
      rw [← hothers]
      rfl
  have hupdated : EndsIn (fun _ w₂ => WroteWell rt recordId w w₂) (fun _ w₂ => WroteWell rt recordId w w₂)
      (sendPayloads ((buildReconcilePlan rt w₁.state.rows recordId).filterMap PlanRow.payload) w₁) := by
    unfold sendPayloads
    split
    · exact hsame hkept.writes
    · rw [ends_rescue, ends_bind]
      exact (hbatch _ rfl).imp (fun _ _ h => h) fun _ _ h => h
  rw [ends_bind]
  refine hupdated.imp ?_ fun _ _ h => h
  intro updated w₂ hwell
  cases updated with
  | none => exact hwell
  | some n =>
    show EndsIn _ _ ((scanAgain >>= fun scan => pure _) w₂)
    unfold scanAgain
    rw [ends_bind, ends_rescue, ends_bind]
    exact (ledgerScan_ends .applyReadback w₂).imp (fun _ _ h => hwell.of_unwritten h.1)
      fun _ _ h => hwell.of_unwritten h

/-! ## The whole service -/

/-- What an outcome says about the rows the last scan returned. -/
structure OutcomeHolds (rt : ReconcileRuntime) (recordId : String) (w : CompletionWorld)
    (outcome : CompletionOutcome) (w' : CompletionWorld) : Prop where
  completed : ∀ currency n, outcome = .completed currency n →
    SettledIn rt recordId w'.scanned w'.state.confirmations
  alreadyComplete : ∀ currency, outcome = .alreadyComplete currency →
    w'.writes = w.writes ∧ SettledIn rt recordId w'.scanned w'.state.confirmations

/-- Only an eligible decision goes on. -/
theorem terminal_none {decision : Decision} (h : decision.terminal = none) :
    ∃ currency, decision = .eligible currency := by
  cases decision with
  | eligible currency => exact ⟨currency, rfl⟩
  | missing => cases h
  | attention reasonCode => cases h
  | complete currency => cases h

/-- A decision that writes nothing ends with an outcome that holds. -/
theorem outcomeHolds_terminal {w w' : CompletionWorld} {decision : Decision}
    {outcome : CompletionOutcome} (hkept : w'.writes = w.writes)
    (hjudged : Judged rt recordId decision w') (h : decision.terminal = some outcome) :
    OutcomeHolds rt recordId w outcome w' := by
  cases decision with
  | eligible currency => cases h
  | missing => cases h; exact ⟨fun _ _ h => (by cases h), fun _ h => by cases h⟩
  | attention reasonCode => cases h; exact ⟨fun _ _ h => (by cases h), fun _ h => by cases h⟩
  | complete currency =>
    cases h
    exact ⟨fun _ _ h => (by cases h), fun _ h => ⟨hkept, hjudged.complete currency rfl⟩⟩

/-- After the apply step the event is completed only when the row read back is settled. -/
theorem applyAndReadBack_holds (w w₀ : CompletionWorld) :
    EndsIn (OutcomeHolds rt recordId w₀) (fun _ _ => True) (applyAndReadBack rt recordId w) := by
  unfold applyAndReadBack
  rw [ends_bind]
  refine (ends_of_snd (P := fun _ => True) trivial).imp ?_ fun _ _ _ => trivial
  rintro result w₁ -
  rw [ends_bind, ends_require]
  refine ⟨fun _ => ?_, fun _ => trivial⟩
  rw [ends_bind]
  refine (previewDecision_ends .readback .readbackEvidence w₁).imp ?_ fun _ _ _ => trivial
  rintro decision w₂ ⟨-, hjudged⟩
  cases decision with
  | missing => exact ⟨fun _ _ h => (by cases h), fun _ h => by cases h⟩
  | attention reasonCode => exact ⟨fun _ _ h => (by cases h), fun _ h => by cases h⟩
  | eligible currency => trivial
  | complete currency =>
    exact ⟨fun _ _ _ => hjudged.complete currency rfl, fun _ h => by cases h⟩

/-- What goes on after an eligible decision under the lock writes well. -/
theorem applyAndReadBack_writes {w : CompletionWorld} (hcny : CnyIn rt recordId w.state.rows)
    (hread : StaysCny rt recordId (w.others .applyRead))
    (hwrite : LeavesManual rt recordId (w.others .applyWrite)) :
    EndsIn (fun _ w' => WroteWell rt recordId w w') (fun _ w' => WroteWell rt recordId w w')
      (applyAndReadBack rt recordId w) := by
  unfold applyAndReadBack
  rw [ends_bind]
  refine (applyReconcile_ends hcny hread hwrite).imp ?_ fun _ _ h => h
  intro result w₁ hwell
  rw [ends_bind, ends_require]
  refine ⟨fun _ => ?_, fun _ => hwell⟩
  rw [ends_bind]
  refine (previewDecision_ends .readback .readbackEvidence w₁).imp ?_
    fun _ _ hkept => hwell.of_unwritten hkept
  rintro decision w₂ ⟨hkept, -⟩
  cases decision with
  | missing => exact hwell.of_unwritten hkept
  | attention reasonCode => exact hwell.of_unwritten hkept
  | eligible currency => exact hwell.of_unwritten hkept
  | complete currency => exact hwell.of_unwritten hkept

/-- In every run an event is completed only when the row read back is settled. -/
theorem processRecord_holds (recordId : String) (w : CompletionWorld) :
    EndsIn (OutcomeHolds rt (strip recordId) w) (fun _ _ => True) (processRecord rt recordId w) := by
  unfold processRecord
  rw [ends_bind, ends_require]
  refine ⟨fun _ => ?_, fun _ => trivial⟩
  rw [ends_bind]
  refine (previewDecision_ends .preview .previewEvidence w).imp ?_ fun _ _ _ => trivial
  rintro decision w₁ ⟨hkept, hjudged⟩
  cases hterminal : decision.terminal with
  | some outcome => exact outcomeHolds_terminal hkept.writes hjudged hterminal
  | none =>
    unfold processLocked
    simp only
    rw [ends_bind]
    refine (previewDecision_ends .lockedPreview .lockedEvidence w₁).imp ?_ fun _ _ _ => trivial
    rintro locked w₂ ⟨hkept', hjudged'⟩
    cases hterminal' : locked.terminal with
    | some outcome =>
      exact outcomeHolds_terminal (hkept.trans hkept').writes hjudged' hterminal'
    | none => exact applyAndReadBack_holds w₂ w

/-- What a run writes is sanctioned when the row stays in CNY and keeps its manual fields while the
apply step runs. -/
theorem processRecord_writes {recordId : String} {w : CompletionWorld}
    (hread : StaysCny rt (strip recordId) (w.others .applyRead))
    (hwrite : LeavesManual rt (strip recordId) (w.others .applyWrite)) :
    EndsIn (fun _ w' => WroteWell rt (strip recordId) w w')
      (fun _ w' => WroteWell rt (strip recordId) w w') (processRecord rt recordId w) := by
  have hnothing : ∀ {w' : CompletionWorld}, Unwritten w w' → WroteWell rt (strip recordId) w w' :=
    fun hkept => WroteWell.of_unwritten (fun _ h => .inl h) hkept
  unfold processRecord
  rw [ends_bind, ends_require]
  refine ⟨fun _ => ?_, fun _ _ h => .inl h⟩
  rw [ends_bind]
  refine (previewDecision_ends .preview .previewEvidence w).imp ?_ fun _ _ hkept => hnothing hkept
  rintro decision w₁ ⟨hkept, -⟩
  cases hterminal : decision.terminal with
  | some outcome => exact hnothing hkept
  | none =>
    unfold processLocked
    simp only
    rw [ends_bind]
    refine (previewDecision_ends .lockedPreview .lockedEvidence w₁).imp ?_
      fun _ _ hkept' => hnothing (hkept.trans hkept')
    rintro locked w₂ ⟨hkept', hjudged⟩
    have hkept := hkept.trans hkept'
    cases hterminal' : locked.terminal with
    | some outcome => exact hnothing hkept
    | none =>
      obtain ⟨currency, rfl⟩ := terminal_none hterminal'
      have hread' : StaysCny rt (strip recordId) (w₂.others .applyRead) := by
        rw [hkept.others]
        exact hread
      have hwrite' : LeavesManual rt (strip recordId) (w₂.others .applyWrite) := by
        rw [hkept.others]
        exact hwrite
      have hwell : ∀ {w' : CompletionWorld}, WroteWell rt (strip recordId) w₂ w' →
          WroteWell rt (strip recordId) w w' := by
        intro w' h
        unfold WroteWell at h ⊢
        rw [← hkept.writes]
        exact h
      exact (applyAndReadBack_writes (hjudged.eligible currency rfl) hread' hwrite').imp
        (fun _ _ h => hwell h) fun _ _ h => hwell h

end

/-- When nobody turns the record's CNY row into a foreign one before the apply step reads it, and
nobody changes its manual fields between that read and the write, everything a run writes is
computed for the very CNY row it lands on. An event is completed only when the row read back
passes the contract, in CNY or with evidence that matches it. -/
theorem event_completion_writes_what_it_decided (rt : ReconcileRuntime) (recordId : String)
    (w : CompletionWorld) (hfresh : w.writes = [])
    (hread : StaysCny rt (strip recordId) (w.others .applyRead))
    (hwrite : LeavesManual rt (strip recordId) (w.others .applyWrite)) :
    EndsIn
      (fun outcome w' => (∀ written ∈ w'.writes, Sanctioned rt (strip recordId) written) ∧
        (∀ currency n, outcome = .completed currency n →
          SettledIn rt (strip recordId) w'.scanned w'.state.confirmations) ∧
        ∀ currency, outcome = .alreadyComplete currency → w'.writes = [] ∧
          SettledIn rt (strip recordId) w'.scanned w'.state.confirmations)
      (fun _ w' => ∀ written ∈ w'.writes, Sanctioned rt (strip recordId) written)
      (processRecord rt recordId w) := by
  have hsanctioned : ∀ {w' : CompletionWorld}, WroteWell rt (strip recordId) w w' →
      ∀ written ∈ w'.writes, Sanctioned rt (strip recordId) written := by
    intro w' hwell written hwritten
    rcases hwell written hwritten with hold | hnew
    · rw [hfresh] at hold
      cases hold
    · exact hnew
  refine ((processRecord_writes hread hwrite).and (processRecord_holds recordId w)).imp ?_
    fun _ _ h => hsanctioned h.1
  rintro outcome w' ⟨hwell, hholds⟩
  refine ⟨hsanctioned hwell, hholds.completed, fun currency h => ?_⟩
  obtain ⟨hnone, hsettled⟩ := hholds.alreadyComplete currency h
  exact ⟨hnone.trans hfresh, hsettled⟩

/-- A deposit of 50 CNY without generated fields. -/
def plainCnyRow : RawCashFlowRecord :=
  .make "cf_1"
    [("flow_date", .date ledgerDate), ("account", .text "a"), ("broker", .text "某券商"),
      ("amount", .int 50), ("currency", .text "CNY")]

/-- A run over a ledger of one row without evidence, whose requests are all carried out. -/
def oneEvent (row : RawCashFlowRecord) (others : CompletionStep → LedgerState → LedgerState) :
    CompletionWorld where
  state := ⟨[row], fun _ => none, List.nodup_singleton _⟩
  others := others
  answers _ := .ok
  scanned := []
  writes := []

/-- Whoever does nothing keeps the currency. -/
theorem staysCny_id (rt : ReconcileRuntime) (recordId : String) : StaysCny rt recordId id := by
  rintro s ⟨old, hold, holdId, manual, hmanual, hcny⟩ record hrecord hid manual' hmanual'
  obtain rfl : record = old := List.inj_on_of_nodup_map s.nodup hrecord hold (hid.trans holdId.symm)
  rw [hmanual] at hmanual'
  cases hmanual'
  exact hcny

/-- Whoever does nothing leaves the manual fields. -/
theorem leavesManual_id (rt : ReconcileRuntime) (recordId : String) : LeavesManual rt recordId id :=
  fun _ record hrecord hid => ⟨record, hrecord, hid, rfl⟩

/-- A deposit in CNY is completed when nobody else acts. -/
theorem event_completion_writes_what_it_decided_cny :
    (processRecord reconcileRuntime " cf_1" (oneEvent plainCnyRow fun _ => id)).1 =
      .ok (.completed "CNY" 1) ∧
    ∀ written ∈ (processRecord reconcileRuntime " cf_1" (oneEvent plainCnyRow fun _ => id)).2.writes,
      Sanctioned reconcileRuntime (strip " cf_1") written :=
  ⟨by decide +kernel,
    ((event_completion_writes_what_it_decided reconcileRuntime " cf_1" (oneEvent plainCnyRow fun _ => id)
      rfl (staysCny_id _ _) (leavesManual_id _ _)).imp (fun _ _ h => h.1) fun _ _ h => h).snd⟩

/-- A deposit whose rate was filled in. -/
def ratedRow (amount : Int) (currency : String) : RawCashFlowRecord :=
  .make "cf_1"
    [("flow_date", .date ledgerDate), ("account", .text "a"), ("broker", .text "某券商"),
      ("amount", .int amount), ("currency", .text currency), ("exchange_rate", .decimal (.ofInt 1))]

/-- Somebody changes the row before a request. -/
def editBefore (step : CompletionStep) (row : RawCashFlowRecord) :
    CompletionStep → LedgerState → LedgerState :=
  fun other s => if other = step then ⟨[row], s.confirmations, List.nodup_singleton _⟩ else s

/-- The texts and keys of deposits of 50 and 80. -/
def editRuntime : ReconcileRuntime where
  toRuntime :=
    { ledgerRuntime with
      dedupHash := fun text =>
        if text = "a|某券商|2025-03-14|DEPOSIT|80.0|CNY" then "e393093ceb1691ba" else ledgerRuntime.dedupHash text
      floatText := fun amount => if amount = 8000 then "80.0" else ledgerRuntime.floatText amount }
  float x := some x
  isoDay _ := none

/-- The event was decided for a deposit of 50 CNY. When its currency is corrected before the apply
step reads it, a USD row receives a CNY amount at the rate of 1 though there is no FX evidence; when
its amount is corrected to 80 before the write, the row receives the CNY amount of the deposit of 50. -/
theorem edited_rows_receive_undecided_amounts :
    (processRecord editRuntime "cf_1"
        (oneEvent (ratedRow 50 "CNY") (editBefore .applyRead (ratedRow 50 "USD")))).1 =
      .ok (.attentionRequired "fx_confirmation_missing") ∧
    (processRecord editRuntime "cf_1"
        (oneEvent (ratedRow 50 "CNY") (editBefore .applyRead (ratedRow 50 "USD")))).2.writes.map
        (fun written => (written.1, written.2.lookup "cny_amount")) =
      [(ratedRow 50 "USD", some (.float ⟨5000, -2⟩))] ∧
    (processRecord editRuntime "cf_1"
        (oneEvent (ratedRow 50 "CNY") (editBefore .applyWrite (ratedRow 80 "CNY")))).1 =
      .error .applyFailed ∧
    (processRecord editRuntime "cf_1"
        (oneEvent (ratedRow 50 "CNY") (editBefore .applyWrite (ratedRow 80 "CNY")))).2.writes.map
        (fun written => (written.1, written.2.lookup "cny_amount")) =
      [(ratedRow 80 "CNY", some (.float ⟨5000, -2⟩))] := by
  refine ⟨by decide +kernel, by decide +kernel, by decide +kernel, by decide +kernel⟩

end PortfolioManagement.Ledger
