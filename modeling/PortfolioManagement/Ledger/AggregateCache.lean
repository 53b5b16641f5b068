import PortfolioManagement.Ledger.CashFlowRepository
import PortfolioManagement.Ledger.DatasetLaws

/-!
# The cached aggregates of the cash-flow repository

What `preload_cash_flow_aggs` computes for an account depends on the rows of the account alone
(`rebuilt`), and one more row changes it as `_append_completed_cash_flow_cache` changes the cached
sums. So the cached sums stay those of a rebuild through every addition whose row the cache hears
of. An addition whose request was carried out and then answered with an error, or without a record
id, leaves a row in the ledger and the sums without it.
-/

namespace PortfolioManagement.Ledger

open Prog (EndsIn Within)

/-! ## What a rebuild computes -/

section
variable (rt : RepositoryRuntime)

/-- The date and the CNY amount of a row that is complete. -/
def rowFlow (row : RawCashFlowRecord) : Option (CivilDate × Cents) :=
  (CompletedCashFlowFacts.validateRecord rt.toRuntime row).toOption.map fun facts =>
    (facts.flowDate, facts.cnyAmount)

/-- One flow added to all sums. -/
def Aggregates.addFlow (sums : Aggregates) (flow : CivilDate × Cents) : Aggregates where
  daily := addTo flow.1 flow.2 sums.daily
  monthly := addTo (monthKey flow.1) flow.2 sums.monthly
  yearly := addTo flow.1.year flow.2 sums.yearly
  cumulative := addMoney sums.cumulative flow.2

/-- The sums of the rows of an account, when all of them are complete. -/
def rebuilt (rows : List RawCashFlowRecord) (account : String) : Option Aggregates :=
  ((rows.filter (ofAccount account)).mapM (rowFlow rt)).map (List.foldl Aggregates.addFlow .zero)

end

variable {rt : RepositoryRuntime}

/-- A row of another account does not count. -/
theorem rebuilt_append_other {rows : List RawCashFlowRecord} {row : RawCashFlowRecord}
    {account : String} (h : ofAccount account row = false) :
    rebuilt rt (rows ++ [row]) account = rebuilt rt rows account := by
  unfold rebuilt
  rw [List.filter_append, List.filter_cons, h]
  simp

/-- The rebuild with one more row of the account. -/
theorem rebuilt_append {rows : List RawCashFlowRecord} {row : RawCashFlowRecord} {account : String}
    (h : ofAccount account row = true) {sums' : Aggregates}
    (hrebuilt : rebuilt rt (rows ++ [row]) account = some sums') :
    ∃ sums flow, rebuilt rt rows account = some sums ∧ rowFlow rt row = some flow ∧
      sums' = sums.addFlow flow := by
  unfold rebuilt at hrebuilt ⊢
  rw [List.filter_append, List.filter_cons, h, if_pos rfl, List.filter_nil, List.mapM_append,
    Option.map_eq_some_iff] at hrebuilt
  obtain ⟨flows', hflows', rfl⟩ := hrebuilt
  obtain ⟨flows, hflows, hrest⟩ := Option.bind_eq_some_iff.mp hflows'
  obtain ⟨last, hlast, hpure⟩ := Option.bind_eq_some_iff.mp hrest
  cases hflow : rowFlow rt row with
  | none =>
    rw [List.mapM_cons, hflow] at hlast
    cases hlast
  | some flow =>
    rw [List.mapM_cons, hflow] at hlast
    cases hlast
    cases hpure
    refine ⟨_, flow, Option.map_eq_some_iff.mpr ⟨flows, hflows, rfl⟩, rfl, ?_⟩
    rw [List.foldl_append]
    rfl

/-! ## Rows as they are read -/

/-- A field that was asked for is read as it is. -/
theorem get_project {fields : List String} {name : String} (h : name ∈ fields)
    (row : RawCashFlowRecord) : (row.project fields).get name = row.get name := by
  have hlookup : ∀ cells : List (String × Cell),
      (cells.filter fun cell => cell.1 ∈ fields).lookup name = cells.lookup name := by
    intro cells
    induction cells with
    | nil => rfl
    | cons cell cells ih =>
      obtain ⟨key, value⟩ := cell
      rw [Items.lookup_cons, List.filter_cons]
      by_cases hkey : key = name
      · subst hkey
        rw [if_pos (decide_eq_true h), Items.lookup_cons, if_pos rfl, if_pos rfl]
      · rw [if_neg hkey]
        split
        · rw [Items.lookup_cons, if_neg hkey, ih]
        · exact ih
  show ((row.rawFields.filter fun cell => cell.1 ∈ fields).lookup name).getD .null = _
  rw [hlookup]
  rfl

/-- A projection keeps the flow of a row when it has the financial fields and the remark. -/
theorem rowFlow_project {fields : List String} (h : financialFields ⊆ fields) (hremark : "remark" ∈ fields)
    (row : RawCashFlowRecord) : rowFlow rt (row.project fields) = rowFlow rt row := by
  have hget : ∀ name ∈ financialFields, (row.project fields).get name = row.get name :=
    fun name hname => get_project (h hname) row
  have hid : (row.project fields).recordId = row.recordId := rfl
  have hmanual : ManualCashFlowFacts.validate rt.toRuntime (row.project fields) =
      ManualCashFlowFacts.validate rt.toRuntime row := by
    simp only [ManualCashFlowFacts.validate, ManualCashFlowFacts.issues, hid, get_project hremark row,
      hget "flow_date" (by decide), hget "account" (by decide), hget "broker" (by decide),
      hget "amount" (by decide), hget "currency" (by decide)]
  unfold rowFlow CompletedCashFlowFacts.validateRecord
  rw [hmanual]
  cases ManualCashFlowFacts.validate rt.toRuntime row with
  | error issues => rfl
  | ok manual =>
    have hissues : CompletedCashFlowFacts.issues rt.toRuntime (row.project fields) manual =
        CompletedCashFlowFacts.issues rt.toRuntime row manual := by
      simp only [CompletedCashFlowFacts.issues, hid, hget "flow_type" (by decide),
        hget "exchange_rate" (by decide), hget "cny_amount" (by decide), hget "dedup_key" (by decide),
        hget "source" (by decide)]
    -- only the modification stamp of the facts can differ
    simp only [CompletedCashFlowFacts.validate, hissues, hid, hget "flow_type" (by decide),
      hget "exchange_rate" (by decide), hget "cny_amount" (by decide), hget "dedup_key" (by decide),
      hget "source" (by decide)]
    split
    · split <;> rfl
    · rfl

/-! ## Rows as they are written -/

theorem parseFlowDate_ok {rt : Runtime} {recordId : String} {raw : Cell} {d : CivilDate}
    (h : parseFlowDate rt recordId raw = .ok d) : raw.toDate rt = .ok d := by
  unfold parseFlowDate at h
  split at h
  · cases h
  · split at h
    · next hdate =>
      cases h
      exact hdate
    · cases h

theorem finiteDecimal_ok {recordId field : String} {raw : Cell} {nonzero positive : Bool} {x : Decimal}
    (h : finiteDecimal recordId field raw nonzero positive = .ok x) : raw.toDecimal = some x := by
  unfold finiteDecimal at h
  split at h
  · cases h
  · split at h
    · cases h
    · next hdecimal =>
      split at h
      · cases h
      · split at h
        · cases h
        · cases h
          exact hdecimal

/-- What the fields of a row that a date and a CNY amount come from say about them. -/
theorem rowFlow_cells {row : RawCashFlowRecord} {flow : CivilDate × Cents} (h : rowFlow rt row = some flow) :
    (row.get "flow_date").toDate rt.toRuntime = .ok flow.1 ∧
      ∃ cny, (row.get "cny_amount").toDecimal = some cny ∧ money? cny = some flow.2 := by
  unfold rowFlow CompletedCashFlowFacts.validateRecord at h
  cases hmanual : ManualCashFlowFacts.validate rt.toRuntime row with
  | error issues =>
    rw [hmanual] at h
    cases h
  | ok manual =>
    rw [hmanual] at h
    have hdate : (row.get "flow_date").toDate rt.toRuntime = .ok manual.flowDate := by
      unfold ManualCashFlowFacts.validate at hmanual
      simp only at hmanual
      split at hmanual
      · rename_i flowDate account broker amount currency hflowDate _ _ _ _
        split at hmanual
        · cases hmanual
          exact parseFlowDate_ok hflowDate
        · cases hmanual
      · cases hmanual
    unfold CompletedCashFlowFacts.validate at h
    simp only at h
    split at h
    · rename_i flowType rate cny key source _ _ hcny _ _
      split at h
      · rename_i quantized _ hmoney
        cases h
        exact ⟨hdate, cny, finiteDecimal_ok hcny, hmoney⟩
      · cases h
    · cases h

/-- The date of a written row is read back. -/
theorem toDate_feishuDate {rt : Runtime} {d d' : CivilDate}
    (h : (Cell.int (feishuDate d)).toDate rt = .ok d') : d' = d := by
  have hmicros : feishuDate d * 10 ^ ((0 : Int) + 3).toNat / 1000000 = epochSeconds d - 28800 := by
    show (epochSeconds d - 28800) * 1000 * 1000 / 1000000 = _
    omega
  have hday : (epochSeconds d - 28800 + 28800) / 86400 + 719163 = (d.toOrdinal : Int) := by
    unfold epochSeconds
    omega
  have hread : timestampDate (.ofInt (feishuDate d)) = CivilDate.ofOrdinal d.toOrdinal := by
    show beijingDate (feishuDate d * 10 ^ ((0 : Int) + 3).toNat / 1000000) = _
    rw [hmicros, ← hday]
    rfl
  simp only [Cell.toDate, hread] at h
  split at h
  · next hofOrdinal =>
    cases h
    exact CivilDate.toOrdinal_injective (by exact_mod_cast CivilDate.toOrdinal_of_ofOrdinal hofOrdinal)
  · cases h

theorem money?_cents {c q : Cents} (h : money? ⟨c, -2⟩ = some q) : q = c := by
  unfold money? Decimal.quantize at h
  simp only [le_refl, if_true, sub_self, Int.toNat_zero, pow_zero, mul_one] at h
  split at h
  · cases h
    rfl
  · cases h

/-- A written row is read back with its date and its CNY amount. -/
theorem rowFlow_written {recordId : String} {facts : CompletedCashFlowFacts} {flow : CivilDate × Cents}
    (h : rowFlow rt (.make recordId (wireFields facts)) = some flow) :
    flow = (facts.flowDate, facts.cnyAmount) := by
  obtain ⟨hdate, cny, hcny, hmoney⟩ := rowFlow_cells h
  have hcnyCell : (RawCashFlowRecord.make recordId (wireFields facts)).get "cny_amount" =
      .float ⟨facts.cnyAmount, -2⟩ := rfl
  rw [hcnyCell] at hcny
  cases hcny
  exact Prod.ext (toDate_feishuDate hdate) (money?_cents hmoney)

theorem ofAccount_written (recordId account : String) (facts : CompletedCashFlowFacts) :
    ofAccount account (.make recordId (wireFields facts)) = decide (facts.manual.account = account) := by
  have hcell : (RawCashFlowRecord.make recordId (wireFields facts)).get "account" =
      .text facts.manual.account := rfl
  unfold ofAccount
  rw [hcell]
  exact decide_eq_decide.mpr (Cell.text.injEq _ _ ▸ Iff.rfl)

/-! ## One more row -/

theorem addAmountTo_eq {κ : Type} [DecidableEq κ] {key : κ} {amount : Cents} {sums sums' : Items κ Cents}
    (h : addAmountTo key amount sums = some sums') : sums' = addTo key amount sums := by
  obtain ⟨sum, hsum, rfl⟩ := Option.map_eq_some_iff.mp h
  rw [money?_cents hsum]
  exact Items.set_eq_update (addMoney · amount) 0 key sums

/-- The cached sums take a row as the rebuild does, when they take it at all. -/
theorem Aggregates.append?_eq {sums sums' : Aggregates} {facts : CompletedCashFlowFacts}
    (h : sums.append? facts = some sums') : sums' = sums.addFlow (facts.flowDate, facts.cnyAmount) := by
  unfold Aggregates.append? at h
  obtain ⟨daily, hdaily, h⟩ := Option.bind_eq_some_iff.mp h
  obtain ⟨monthly, hmonthly, h⟩ := Option.bind_eq_some_iff.mp h
  obtain ⟨yearly, hyearly, h⟩ := Option.bind_eq_some_iff.mp h
  obtain ⟨cumulative, hcumulative, h⟩ := Option.bind_eq_some_iff.mp h
  cases h
  rw [addAmountTo_eq hdaily, addAmountTo_eq hmonthly, addAmountTo_eq hyearly, money?_cents hcumulative]
  rfl

theorem AggregatePayload.append?_aggregates {payload payload' : AggregatePayload}
    {facts : CompletedCashFlowFacts} {recordId now : String}
    (h : payload.append? facts recordId now = some payload') :
    payload.aggregates.append? facts = some payload'.aggregates := by
  obtain ⟨sums, hsums, h⟩ := Option.bind_eq_some_iff.mp h
  cases h
  exact hsums

/-! ## Exact caches -/

/-- The cached sums of an account are those of a rebuild. -/
def ExactFor (rt : RepositoryRuntime) (w : LedgerWorld) (account : String)
    (payload : AggregatePayload) : Prop :=
  ∀ sums, rebuilt rt w.rows account = some sums → payload.aggregates = sums

/-- Every cached payload is exact, and what is loaded is in memory under a stripped name. -/
structure ExactCaches (rt : RepositoryRuntime) (w : LedgerWorld) : Prop where
  /-- the payloads in memory are exact -/
  mem : ∀ account payload, w.mem account = some payload → ExactFor rt w account payload
  /-- the payloads of the local copy are exact -/
  disk : ∀ account payload, w.disk account = some payload → ExactFor rt w account payload
  /-- a loaded account is in memory -/
  loaded : ∀ account, w.loaded account = true → (w.mem account).isSome
  /-- its name is stripped -/
  stripped : ∀ account, w.loaded account = true → strip account = account

/-- The rows and the caches of aggregates are those of another state. -/
structure SameCaches (w w' : LedgerWorld) : Prop where
  rows : w'.rows = w.rows
  mem : w'.mem = w.mem
  disk : w'.disk = w.disk
  loaded : w'.loaded = w.loaded

theorem SameCaches.refl (w : LedgerWorld) : SameCaches w w := ⟨rfl, rfl, rfl, rfl⟩

theorem SameCaches.trans {u v w : LedgerWorld} (h : SameCaches u v) (h' : SameCaches v w) :
    SameCaches u w :=
  ⟨h'.rows.trans h.rows, h'.mem.trans h.mem, h'.disk.trans h.disk, h'.loaded.trans h.loaded⟩

theorem SameCaches.exact {w w' : LedgerWorld} (h : SameCaches w w') (hw : ExactCaches rt w) :
    ExactCaches rt w' where
  mem account payload := by
    unfold ExactFor
    rw [h.mem, h.rows]
    exact hw.mem account payload
  disk account payload := by
    unfold ExactFor
    rw [h.disk, h.rows]
    exact hw.disk account payload
  loaded account := by
    rw [h.loaded, h.mem]
    exact hw.loaded account
  stripped account := by
    rw [h.loaded]
    exact hw.stripped account

/-! ## Programs that leave the caches alone -/

section
variable {α β : Type}

theorem sameCaches_pure (a : α) : Within SameCaches (pure a : LedgerProg α) := Within.pure SameCaches.refl a

theorem sameCaches_raise (e : RepositoryError) : Within SameCaches (Prog.raise e : LedgerProg α) :=
  Within.raise SameCaches.refl e

theorem sameCaches_reads (f : LedgerWorld → α) : Within SameCaches (Prog.reads f : LedgerProg α) :=
  Within.reads SameCaches.refl f

theorem sameCaches_lift (x : Except RepositoryError α) : Within SameCaches (Prog.lift x : LedgerProg α) :=
  Within.lift SameCaches.refl x

theorem sameCaches_bind {m : LedgerProg α} {k : α → LedgerProg β} (hm : Within SameCaches m)
    (hk : ∀ a, Within SameCaches (k a)) : Within SameCaches (m >>= k) :=
  Within.bind (fun _ _ _ h h' => h.trans h') hm hk

theorem sameCaches_rescue {m : LedgerProg α} {handler : RepositoryError → LedgerProg α}
    (hm : Within SameCaches m) (hh : ∀ e, Within SameCaches (handler e)) :
    Within SameCaches (Prog.rescue m handler) :=
  Within.rescue (fun _ _ _ h h' => h.trans h') hm hh

theorem sameCaches_dedupKeys (f : LedgerWorld → String → Option String) :
    Within SameCaches (Prog.alter (fun w => { w with dedupKeys := f w }) : LedgerProg Unit) :=
  fun _ => ⟨rfl, rfl, rfl, rfl⟩

end

theorem sameCaches_readRequest : Within SameCaches readRequest := by
  intro w
  unfold readRequest
  split <;> exact ⟨rfl, rfl, rfl, rfl⟩

theorem sameCaches_listRecords (filter : RawCashFlowRecord → Bool) :
    Within SameCaches (listRecords filter) :=
  sameCaches_bind sameCaches_readRequest fun _ => sameCaches_reads _

theorem sameCaches_getRecordStrict (recordId : String) : Within SameCaches (getRecordStrict recordId) := by
  refine sameCaches_bind sameCaches_readRequest fun _ => sameCaches_bind (sameCaches_reads _) fun found => ?_
  cases found with
  | none => exact sameCaches_raise _
  | some row => exact sameCaches_pure row

theorem sameCaches_getCashFlow (recordId : String) : Within SameCaches (getCashFlow recordId) := by
  refine Within.ite (sameCaches_raise _) (sameCaches_rescue
    (sameCaches_bind (sameCaches_getRecordStrict _) fun _ => sameCaches_pure _) fun exc => ?_)
  exact Within.ite (sameCaches_pure none) (sameCaches_raise exc)

theorem sameCaches_cachedByDedupKey (dedupKey : String) :
    Within SameCaches (cachedByDedupKey dedupKey) := by
  refine sameCaches_bind (sameCaches_reads _) fun cached => ?_
  cases cached with
  | none => exact sameCaches_pure none
  | some recordId =>
    refine sameCaches_rescue (sameCaches_bind ?_ fun _ => sameCaches_pure _) fun _ =>
      sameCaches_bind (sameCaches_dedupKeys _) fun _ => sameCaches_pure _
    exact sameCaches_bind (sameCaches_getRecordStrict recordId) fun _ => sameCaches_pure _

theorem sameCaches_findByDedupKey (dedupKey : String) : Within SameCaches (findByDedupKey dedupKey) := by
  refine sameCaches_bind (sameCaches_cachedByDedupKey dedupKey) fun found => ?_
  cases found with
  | some recordId => exact sameCaches_pure _
  | none =>
    refine sameCaches_bind (sameCaches_rescue (sameCaches_listRecords _) fun exc =>
      Within.ite (sameCaches_raise _) (sameCaches_raise exc)) fun records => ?_
    cases records with
    | nil => exact sameCaches_pure none
    | cons record rest =>
      exact sameCaches_bind (sameCaches_dedupKeys _) fun _ => sameCaches_pure _

theorem sameCaches_matchingReplay (recordId dedupKey : String) :
    Within SameCaches (matchingCashFlowReplay rt recordId dedupKey) := by
  refine sameCaches_bind (sameCaches_getCashFlow recordId) fun found => ?_
  cases found with
  | none => exact sameCaches_pure none
  | some row =>
    refine sameCaches_bind (sameCaches_lift _) fun existing => Within.ite (sameCaches_pure none) ?_
    exact sameCaches_bind (sameCaches_lift _) fun _ => sameCaches_pure _

theorem sameCaches_replayed (dedupKey : String) (cached existing : Option String) :
    Within SameCaches (replayedCashFlow rt dedupKey cached existing) := by
  cases existing with
  | none => exact sameCaches_pure none
  | some recordId =>
    refine sameCaches_bind (sameCaches_matchingReplay recordId dedupKey) fun found => ?_
    cases found with
    | some facts => exact sameCaches_pure _
    | none =>
      refine Within.ite (sameCaches_raise _) (sameCaches_bind (sameCaches_dedupKeys _) fun _ =>
        sameCaches_bind (sameCaches_findByDedupKey dedupKey) fun fresh => ?_)
      cases fresh with
      | none => exact sameCaches_pure none
      | some fresh =>
        refine sameCaches_bind (sameCaches_matchingReplay fresh dedupKey) fun found => ?_
        cases found with
        | some facts => exact sameCaches_pure _
        | none => exact sameCaches_raise _

/-! ## What the preload puts in the caches -/

theorem listRecords_ends (filter : RawCashFlowRecord → Bool) (w : LedgerWorld) :
    EndsIn (fun rows w' => rows = w.rows.filter filter ∧ SameCaches w w') (fun _ w' => SameCaches w w')
      (listRecords filter w) := by
  unfold listRecords
  rw [Prog.ends_bind]
  refine (sameCaches_readRequest.ends w).imp ?_ fun _ _ h => h
  intro _ w' h
  exact ⟨congrArg (List.filter filter) h.rows, h⟩

theorem mapM_checkAccountRow {records records' : List RawCashFlowRecord}
    (h : records.mapM checkAccountRow = .ok records') : records' = records := by
  induction records generalizing records' with
  | nil =>
    cases h
    rfl
  | cons row rest ih =>
    rw [List.mapM_cons] at h
    cases hrow : checkAccountRow row with
    | error e =>
      rw [hrow] at h
      cases h
    | ok row' =>
      rw [hrow] at h
      have hsame : row' = row := by
        unfold checkAccountRow at hrow
        split at hrow <;> cases hrow
        rfl
      cases hrest : rest.mapM checkAccountRow with
      | error e =>
        rw [hrest] at h
        cases h
      | ok rest' =>
        rw [hrest] at h
        cases h
        rw [ih hrest, hsame]

/-- The rows a read of an account gives: projections of its rows that keep their flows. -/
theorem getRawCashFlows_ends (rt : RepositoryRuntime) {account : String} (haccount : strip account = account) (w : LedgerWorld) :
    EndsIn (fun records w' => records.mapM (rowFlow rt) = (w.rows.filter (ofAccount account)).mapM (rowFlow rt) ∧
        SameCaches w w')
      (fun _ w' => SameCaches w w') (getRawCashFlowsOfAccount account w) := by
  have hproject : ∀ fields, financialFields ⊆ fields → "remark" ∈ fields → ∀ rows : List RawCashFlowRecord,
      (rows.map (RawCashFlowRecord.project fields)).mapM (rowFlow rt) = rows.mapM (rowFlow rt) := by
    intro fields hfields hremark rows
    rw [List.mapM_map]
    exact congrArg (fun f => List.mapM f rows) (funext fun row => rowFlow_project hfields hremark row)
  unfold getRawCashFlowsOfAccount
  split
  · exact SameCaches.refl w
  · rw [haccount, Prog.ends_bind]
    suffices hlist : EndsIn (fun records w' => records.mapM (rowFlow rt) =
          (w.rows.filter (ofAccount account)).mapM (rowFlow rt) ∧ SameCaches w w')
        (fun _ w' => SameCaches w w') (listCashFlowRecords (ofAccount account) w) by
      refine hlist.imp ?_ fun _ _ h => h
      rintro records w' ⟨hflows, hsame⟩
      rw [Prog.ends_lift]
      cases hcheck : records.mapM checkAccountRow with
      | error e => exact hsame
      | ok records' =>
        rw [← mapM_checkAccountRow hcheck] at hflows
        exact ⟨hflows, hsame⟩
    unfold listCashFlowRecords
    rw [Prog.ends_rescue, Prog.ends_bind]
    refine (listRecords_ends _ w).imp ?_ ?_
    · rintro rows w' ⟨rfl, hsame⟩
      exact ⟨hproject _ (List.subset_append_left _ _) (by decide) _, hsame⟩
    · intro exc w' hsame
      split
      · rw [Prog.ends_bind]
        refine (listRecords_ends _ w').imp ?_ fun _ _ h => hsame.trans h
        rintro rows w'' ⟨rfl, hsame'⟩
        rw [hsame.rows]
        exact ⟨hproject _ (by decide) (by decide) _, hsame.trans hsame'⟩
      · exact hsame

/-- The loop of the preload adds the flows of the rows, which all are complete. -/
theorem foldlM_preloadRow {records : List RawCashFlowRecord} {acc acc' : List FlowEntry × Aggregates}
    (h : records.foldlM (preloadRow rt) acc = .ok acc') :
    ∃ flows, records.mapM (rowFlow rt) = some flows ∧ acc'.2 = flows.foldl Aggregates.addFlow acc.2 := by
  induction records generalizing acc with
  | nil =>
    cases h
    exact ⟨[], rfl, rfl⟩
  | cons record rest ih =>
    rw [List.foldlM_cons] at h
    cases hfacts : CompletedCashFlowFacts.validateRecord rt.toRuntime record with
    | error issues =>
      have hrow : preloadRow rt acc record = .error (.contract issues) := by
        unfold preloadRow requireCompleted
        rw [hfacts]
        rfl
      rw [hrow] at h
      cases h
    | ok facts =>
      have hrow : preloadRow rt acc record = .ok (acc.1 ++ [⟨facts.flowDate, record.recordId,
          facts.cnyAmount, record.get "updated_at"⟩], acc.2.add facts) := by
        unfold preloadRow requireCompleted
        rw [hfacts]
        rfl
      have hflow : rowFlow rt record = some (facts.flowDate, facts.cnyAmount) := by
        unfold rowFlow
        rw [hfacts]
        rfl
      rw [hrow] at h
      obtain ⟨flows, hflows, hsums⟩ := ih h
      refine ⟨(facts.flowDate, facts.cnyAmount) :: flows, ?_, hsums⟩
      rw [List.mapM_cons, hflow, hflows]
      rfl

/-- A preload that reads the ledger puts the sums of a rebuild in the caches. -/
theorem preload_ends {account : String} {forceRefresh : Bool} (haccount : strip account = account)
    {w : LedgerWorld} (hreads : ¬ (w.loaded account = true ∧ ¬ forceRefresh)) :
    EndsIn (fun _ w' => ∃ payload, rebuilt rt w.rows account = some payload.aggregates ∧
        SameCaches (w.keep account payload) w')
      (fun _ w' => SameCaches w w') (preloadCashFlowAggs rt account forceRefresh w) := by
  unfold preloadCashFlowAggs
  rw [Prog.ends_bind, Prog.ends_reads, if_neg hreads, Prog.ends_bind, Prog.ends_reads, Prog.ends_bind]
  refine (getRawCashFlows_ends rt haccount w).imp ?_ fun _ _ h => h
  rintro records w' ⟨hflows, hsame⟩
  rw [Prog.ends_bind, Prog.ends_lift]
  cases hfold : records.foldlM (preloadRow rt) ([], .zero) with
  | error e => exact hsame
  | ok acc =>
    obtain ⟨flows, hrows, hsums⟩ := foldlM_preloadRow hfold
    refine ⟨preloadedPayload account acc.1 acc.2, ?_, ?_⟩
    · unfold rebuilt
      rw [← hflows, hrows, Option.map_some]
      exact congrArg some hsums.symm
    · refine ⟨hsame.rows, ?_, ?_, ?_⟩
      · show Function.update w'.mem account _ = _
        rw [hsame.mem]
        rfl
      · show Function.update w'.disk account _ = _
        rw [hsame.disk]
        rfl
      · show Function.update w'.loaded account _ = _
        rw [hsame.loaded]
        rfl

/-! ## Additions -/

/-- The caches of aggregates are those of another state. -/
structure SameAggregates (w w' : LedgerWorld) : Prop where
  mem : w'.mem = w.mem
  disk : w'.disk = w.disk
  loaded : w'.loaded = w.loaded

theorem SameCaches.aggregates {w w' : LedgerWorld} (h : SameCaches w w') : SameAggregates w w' :=
  ⟨h.mem, h.disk, h.loaded⟩

/-- The answer to the request that creates a row tells the truth: an error means that there is no
row, and otherwise the row's id is reported. -/
def Creation.Confirmed : Creation → Prop
  | .created _ reported => strip reported ≠ ""
  | .lost _ => False
  | .unknownField | .refused => True

/-- A created row is published; a failed creation leaves the caches, and no row when its answer can
be trusted. -/
theorem createCashFlow_ends (facts : CompletedCashFlowFacts) (creation : Creation) (now : String)
    (w : LedgerWorld) :
    EndsIn (fun _ w' => ∃ recordId reported w₁, SameCaches (w.create recordId facts) w₁ ∧
        w' = w₁.publish facts reported now)
      (fun _ w' => SameAggregates w w' ∧ (creation.Confirmed → SameCaches w w'))
      (createCashFlow facts creation now w) := by
  unfold createCashFlow
  rw [Prog.ends_bind]
  cases creation with
  | unknownField => exact ⟨⟨rfl, rfl, rfl⟩, fun _ => SameCaches.refl w⟩
  | refused => exact ⟨⟨rfl, rfl, rfl⟩, fun _ => SameCaches.refl w⟩
  | lost recordId => exact ⟨⟨rfl, rfl, rfl⟩, False.elim⟩
  | created recordId reported =>
    show EndsIn _ _ ((if strip reported = "" then _ else _ : LedgerProg AddedCashFlow) (w.create recordId facts))
    split
    · next hblank => exact ⟨⟨rfl, rfl, rfl⟩, fun h => absurd hblank h⟩
    · rw [Prog.ends_bind, Prog.ends_alter, Prog.ends_bind, Prog.ends_alter]
      refine ⟨recordId, strip reported, _, ?_, rfl⟩
      exact ⟨rfl, rfl, rfl, rfl⟩

/-- An addition either leaves rows and caches or publishes a new row; a failed one leaves the caches. -/
theorem addCashFlow_ends (given : RawCashFlowRecord) (creation : Creation) (now : String) (w : LedgerWorld) :
    EndsIn (fun _ w' => SameCaches w w' ∨ ∃ facts recordId reported w₁,
        SameCaches (w.create recordId facts) w₁ ∧ w' = w₁.publish facts reported now)
      (fun _ w' => SameAggregates w w' ∧ (creation.Confirmed → SameCaches w w'))
      (addCashFlow rt given creation now w) := by
  unfold addCashFlow
  rw [Prog.ends_bind, Prog.ends_lift]
  cases requireCompleted rt given with
  | error e => exact ⟨⟨rfl, rfl, rfl⟩, fun _ => SameCaches.refl w⟩
  | ok facts =>
    show EndsIn _ _ ((Prog.reads _ >>= _ : LedgerProg AddedCashFlow) w)
    rw [Prog.ends_bind, Prog.ends_reads, Prog.ends_bind]
    refine ((sameCaches_findByDedupKey facts.dedupKey).ends w).imp ?_
      fun _ _ h => ⟨h.aggregates, fun _ => h⟩
    intro existing w₁ h₁
    rw [Prog.ends_bind]
    refine ((sameCaches_replayed facts.dedupKey _ existing).ends w₁).imp ?_
      fun _ _ h => ⟨(h₁.trans h).aggregates, fun _ => h₁.trans h⟩
    intro replay w₂ h₂
    have h₁₂ := h₁.trans h₂
    cases replay with
    | some added => exact .inl h₁₂
    | none =>
      refine (createCashFlow_ends facts creation now w₂).imp ?_ ?_
      · rintro _ w' ⟨recordId, reported, w₃, hcreated, rfl⟩
        refine .inr ⟨facts, recordId, reported, w₃, ⟨?_, ?_, ?_, ?_⟩, rfl⟩
        · rw [hcreated.rows]
          exact congrArg (· ++ _) h₁₂.rows
        · rw [hcreated.mem]
          exact h₁₂.mem
        · rw [hcreated.disk]
          exact h₁₂.disk
        · rw [hcreated.loaded]
          exact h₁₂.loaded
      · rintro e w' ⟨hcaches, hsame⟩
        exact ⟨⟨hcaches.mem.trans h₁₂.mem, hcaches.disk.trans h₁₂.disk,
          hcaches.loaded.trans h₁₂.loaded⟩, fun h => h₁₂.trans (hsame h)⟩

/-- A published row keeps the caches exact: its own account's sums take it or are dropped, and the
other accounts do not have it. -/
theorem ExactCaches.publish {w w₁ : LedgerWorld} {facts : CompletedCashFlowFacts}
    {recordId reported now : String} (hw : ExactCaches rt w)
    (hcreated : SameCaches (w.create recordId facts) w₁) :
    ExactCaches rt (w₁.publish facts reported now) := by
  have hmem : w₁.mem = w.mem := hcreated.mem
  have hdisk : w₁.disk = w.disk := hcreated.disk
  have hloaded : w₁.loaded = w.loaded := hcreated.loaded
  have hrows : w₁.rows = w.rows ++ [.make recordId (wireFields facts)] := hcreated.rows
  -- the new row is not a row of another account
  have hother : ∀ {account payload}, account ≠ facts.manual.account →
      ExactFor rt w account payload → ∀ sums, rebuilt rt w₁.rows account = some sums →
        payload.aggregates = sums := by
    intro account payload hne h sums hsums
    refine h sums ?_
    rw [← hsums, hrows, rebuilt_append_other]
    rw [ofAccount_written]
    exact decide_eq_false (Ne.symm hne)
  -- sums that take it are those of a rebuild
  have hown : ∀ {payload payload' : AggregatePayload}, ExactFor rt w facts.manual.account payload →
      payload.append? facts reported now = some payload' →
      ∀ sums, rebuilt rt w₁.rows facts.manual.account = some sums → payload'.aggregates = sums := by
    intro payload payload' h happend sums hsums
    rw [hrows] at hsums
    obtain ⟨old, flow, hold, hflow, rfl⟩ := rebuilt_append
      (by rw [ofAccount_written]; exact decide_eq_true rfl) hsums
    rw [Aggregates.append?_eq (AggregatePayload.append?_aggregates happend), h old hold,
      rowFlow_written hflow]
  have hdropped : ExactCaches rt (w₁.invalidate facts.manual.account) := by
    refine ⟨fun account payload hget => ?_, fun account payload hget => ?_, fun account h => ?_,
      fun account h => ?_⟩
    · by_cases haccount : account = facts.manual.account
      · subst haccount
        simp [LedgerWorld.invalidate] at hget
      · simp only [LedgerWorld.invalidate, Function.update_of_ne haccount, hmem] at hget
        exact hother haccount (hw.mem account payload hget)
    · by_cases haccount : account = facts.manual.account
      · subst haccount
        simp [LedgerWorld.invalidate] at hget
      · simp only [LedgerWorld.invalidate, Function.update_of_ne haccount, hdisk] at hget
        exact hother haccount (hw.disk account payload hget)
    all_goals
      by_cases haccount : account = facts.manual.account
      · subst haccount
        simp [LedgerWorld.invalidate] at h
      · simp only [LedgerWorld.invalidate, Function.update_of_ne haccount, hmem, hloaded] at h ⊢
        first
        | exact hw.loaded account h
        | exact hw.stripped account h
  unfold LedgerWorld.publish
  split
  · next hisLoaded =>
    unfold LedgerWorld.appendCompletedCashFlow
    simp only
    split
    · exact hdropped
    · next base hbase =>
      have hexact : ExactFor rt w facts.manual.account base := by
        rw [hmem, hdisk] at hbase
        cases hget : w.mem facts.manual.account with
        | some payload =>
          rw [hget] at hbase
          cases hbase
          exact hw.mem _ _ hget
        | none =>
          rw [hget] at hbase
          exact hw.disk _ _ hbase
      split
      · exact hdropped
      · next payload happend =>
        refine ⟨fun account payload' hget => ?_, fun account payload' hget => ?_, fun account h => ?_,
          fun account h => ?_⟩
        · by_cases haccount : account = facts.manual.account
          · subst haccount
            simp only [Function.update_self, Option.some.injEq] at hget
            subst hget
            exact hown hexact happend
          · simp only [Function.update_of_ne haccount, hmem] at hget
            exact hother haccount (hw.mem account payload' hget)
        · by_cases haccount : account = facts.manual.account
          · subst haccount
            simp only [Function.update_self, Option.some.injEq] at hget
            subst hget
            exact hown hexact happend
          · simp only [Function.update_of_ne haccount, hdisk] at hget
            exact hother haccount (hw.disk account payload' hget)
        · by_cases haccount : account = facts.manual.account
          · subst haccount
            simp
          · simp only [Function.update_of_ne haccount, hmem]
            exact hw.loaded account (hloaded ▸ h)
        · exact hw.stripped account (hloaded ▸ h)
  · exact hdropped

/-! ## Runs -/

/-- A call of the repository. -/
inductive LedgerCall
  /-- `preload_cash_flow_aggs` -/
  | preload (account : String) (forceRefresh : Bool)
  /-- `get_cash_flow_aggs` -/
  | aggregates (account : String)
  /-- `add_cash_flow`, with the outcome of its creation and the time -/
  | add (given : RawCashFlowRecord) (creation : Creation) (now : String)

/-- A call and the outcomes of its read requests. -/
structure AnsweredLedgerCall where
  /-- the call -/
  call : LedgerCall
  /-- the outcomes -/
  answers : List ReadAnswer

/-- A repository over a ledger, with nothing cached. -/
def LedgerWorld.over (rows : List RawCashFlowRecord) : LedgerWorld :=
  ⟨rows, [], fun _ => none, fun _ => false, fun _ => none, fun _ => none⟩

/-- The state in which the read requests to come have the given outcomes. -/
def LedgerWorld.answering (answers : List ReadAnswer) (w : LedgerWorld) : LedgerWorld :=
  { w with answers := answers }

section
variable (rt : RepositoryRuntime)

/-- The state a call leaves, whether it returns or raises. -/
def LedgerCall.state (w : LedgerWorld) : LedgerCall → LedgerWorld
  | preload account forceRefresh => (preloadCashFlowAggs rt account forceRefresh w).2
  | aggregates account => (getCashFlowAggs rt account w).2
  | add given creation now => (addCashFlow rt given creation now w).2

/-- The state after a run of calls. -/
def LedgerWorld.run (calls : List AnsweredLedgerCall) (w : LedgerWorld) : LedgerWorld :=
  calls.foldl (fun w c => c.call.state rt (w.answering c.answers)) w

end

/-- The caches are loaded under the account's name as the rows hold it, and the answer to a creation
tells the truth. -/
def LedgerCall.Confirmed : LedgerCall → Prop
  | preload account _ => strip account = account
  | aggregates account => strip account = account
  | add _ creation _ => creation.Confirmed

theorem exactCaches_over (rows : List RawCashFlowRecord) : ExactCaches rt (.over rows) where
  mem _ _ h := absurd h (Option.some_ne_none _).symm
  disk _ _ h := absurd h (Option.some_ne_none _).symm
  loaded _ h := absurd h Bool.false_ne_true
  stripped _ h := absurd h Bool.false_ne_true

theorem ExactCaches.keep {w : LedgerWorld} {account : String} {payload : AggregatePayload}
    (hw : ExactCaches rt w) (haccount : strip account = account)
    (hrebuilt : rebuilt rt w.rows account = some payload.aggregates) :
    ExactCaches rt (w.keep account payload) := by
  have hexact : ExactFor rt w account payload := fun sums h => Option.some.inj (hrebuilt.symm.trans h)
  refine ⟨fun other payload' hget => ?_, fun other payload' hget => ?_, fun other h => ?_,
    fun other h => ?_⟩ <;> by_cases hother : other = account
  · subst hother
    simp only [LedgerWorld.keep, Function.update_self, Option.some.injEq] at hget
    exact hget ▸ hexact
  · simp only [LedgerWorld.keep, Function.update_of_ne hother] at hget
    exact hw.mem other payload' hget
  · subst hother
    simp only [LedgerWorld.keep, Function.update_self, Option.some.injEq] at hget
    exact hget ▸ hexact
  · simp only [LedgerWorld.keep, Function.update_of_ne hother] at hget
    exact hw.disk other payload' hget
  · subst hother
    simp [LedgerWorld.keep]
  · simp only [LedgerWorld.keep, Function.update_of_ne hother] at h ⊢
    exact hw.loaded other h
  · exact hother ▸ haccount
  · simp only [LedgerWorld.keep, Function.update_of_ne hother] at h
    exact hw.stripped other h

theorem ExactCaches.preload {account : String} {forceRefresh : Bool} (haccount : strip account = account)
    {w : LedgerWorld} (hw : ExactCaches rt w) :
    ExactCaches rt (preloadCashFlowAggs rt account forceRefresh w).2 := by
  by_cases hmemory : w.loaded account = true ∧ ¬ forceRefresh
  · have hrun : (preloadCashFlowAggs rt account forceRefresh w).2 = w := by
      unfold preloadCashFlowAggs
      show (Prog.andThen (Prog.reads _) _ w).2 = w
      unfold Prog.andThen Prog.reads
      simp only [if_pos hmemory]
      rfl
    rw [hrun]
    exact hw
  · refine EndsIn.snd ((preload_ends haccount hmemory).imp ?_ fun _ _ h => h.exact hw)
    rintro _ w' ⟨payload, hrebuilt, hsame⟩
    exact hsame.exact (hw.keep haccount hrebuilt)

theorem ExactCaches.ensure {account : String} (haccount : strip account = account) {w : LedgerWorld}
    (hw : ExactCaches rt w) : ExactCaches rt (ensureCashFlowAggsLoaded rt account w).2 := by
  refine EndsIn.snd (ε := RepositoryError) (α := Unit) ?_
  unfold ensureCashFlowAggsLoaded
  rw [Prog.ends_bind, Prog.ends_reads]
  split
  · exact hw
  · rw [Prog.ends_bind, Prog.ends_reads]
    cases hget : w.disk account with
    | some cached =>
      -- the local copy is exact, and so is what is loaded from it
      refine ⟨fun other payload hmem => ?_, hw.disk, fun other h => ?_, fun other h => ?_⟩ <;>
        by_cases hother : other = account
      · subst hother
        simp only [Function.update_self, Option.some.injEq] at hmem
        exact hmem ▸ hw.disk other cached hget
      · simp only [Function.update_of_ne hother] at hmem
        exact hw.mem other payload hmem
      · subst hother
        simp
      · simp only [Function.update_of_ne hother] at h ⊢
        exact hw.loaded other h
      · exact hother ▸ haccount
      · simp only [Function.update_of_ne hother] at h
        exact hw.stripped other h
    | none =>
      show EndsIn _ _ ((preloadCashFlowAggs rt account false >>= fun _ => pure () : LedgerProg Unit) w)
      rw [Prog.ends_bind]
      exact Prog.ends_of_snd (hw.preload haccount)

/-- Every confirmed call keeps the caches exact. -/
theorem ExactCaches.call {call : LedgerCall} (hcall : call.Confirmed) {w : LedgerWorld}
    (hw : ExactCaches rt w) : ExactCaches rt (call.state rt w) := by
  cases call with
  | preload account forceRefresh => exact hw.preload hcall
  | aggregates account =>
    refine EndsIn.snd (ε := RepositoryError) (α := Option AggregatePayload) ?_
    show EndsIn _ _ (getCashFlowAggs rt account w)
    unfold getCashFlowAggs
    rw [Prog.ends_bind]
    exact Prog.ends_of_snd (hw.ensure hcall)
  | add given creation now =>
    refine EndsIn.snd ((addCashFlow_ends given creation now w).imp ?_ fun _ _ h => (h.2 hcall).exact hw)
    rintro _ w' (hsame | ⟨facts, recordId, reported, w₁, hcreated, rfl⟩)
    · exact hsame.exact hw
    · exact hw.publish hcreated

/-- Every run of confirmed calls keeps the caches exact. -/
theorem exactCaches_run {calls : List AnsweredLedgerCall} (hcalls : ∀ c ∈ calls, c.call.Confirmed)
    {w : LedgerWorld} (hw : ExactCaches rt w) : ExactCaches rt (w.run rt calls) := by
  induction calls generalizing w with
  | nil => exact hw
  | cons c rest ih =>
    have hsame : SameCaches w (w.answering c.answers) := ⟨rfl, rfl, rfl, rfl⟩
    have hanswering := hsame.exact hw
    exact ih (fun c' h => hcalls c' (List.mem_cons_of_mem _ h))
      (hanswering.call (hcalls c List.mem_cons_self))

/-- A fresh repository over no rows, the deposit's sums loaded and one deposit added. -/
def depositCalls (creation : Creation) : List AnsweredLedgerCall :=
  [⟨.preload "a" false, []⟩, ⟨.add cnyRow creation "2025-03-14 10:00:00", []⟩]

/-- The standard library and `CashFlow` on `cnyRow`. -/
def repositoryRuntime : RepositoryRuntime := { ledgerRuntime with throughModel := .ok }

end PortfolioManagement.Ledger
