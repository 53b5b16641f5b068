import Mathlib.Data.Prod.Lex
import PortfolioManagement.Lib.Keyed
import PortfolioManagement.Lib.Program
import PortfolioManagement.Ledger.Dataset

/-!
# The cash-flow repository

`CashFlowRepository` writes completed facts to the remote ledger and keeps, for each account, the
sums of its flows by day, month, year and in total. `preload_cash_flow_aggs` computes them from a
read of the account; `add_cash_flow` adds one row to sums that are loaded. They are held in memory
and in the process's copy of `cash_flow_agg_cache.json`.

A read request is carried out, refused because it names a column the table does not have, or
refused. The request that creates a row can also be carried out and answered with an error.
-/

namespace PortfolioManagement.Ledger

/-- What the repository takes from outside. Nothing is assumed about it. -/
structure RepositoryRuntime extends Runtime where
  /-- the fields of a row after `CashFlow` has read them -/
  throughModel : RawCashFlowRecord → Except String RawCashFlowRecord

/-! ## The state -/

/-- The outcome of a read request. -/
inductive ReadAnswer
  | ok
  /-- refused with `FieldNameNotFound` -/
  | unknownField
  | refused
deriving DecidableEq

/-- The outcome of the request that creates a row. -/
inductive Creation
  /-- the ledger keeps the row under an id, and the answer reports an id -/
  | created (recordId reported : String)
  /-- the ledger keeps the row under an id, and the answer is an error -/
  | lost (recordId : String)
  /-- refused with `FieldNameNotFound` -/
  | unknownField
  | refused
deriving DecidableEq

/-- An item of `flows`. -/
structure FlowEntry where
  /-- `date` -/
  date : CivilDate
  /-- `record_id` -/
  recordId : String
  /-- `cny_amount` -/
  cnyAmount : Cents
  /-- `updated_at` -/
  updatedAt : Cell
deriving DecidableEq

/-- The cached aggregates of an account. -/
structure AggregatePayload where
  /-- `account` -/
  account : String
  /-- `daily`, `monthly`, `yearly` and `cumulative` -/
  aggregates : Aggregates
  /-- `flow_count` -/
  flowCount : Nat
  /-- `flows` -/
  flows : List FlowEntry
  /-- `last_record` -/
  lastRecord : Option FlowEntry
  /-- `latest_updated_at` -/
  latestUpdatedAt : Cell
deriving DecidableEq

/-- What a repository works on. -/
structure LedgerWorld where
  /-- the remote ledger, in the order of its rows -/
  rows : List RawCashFlowRecord
  /-- the outcomes of the read requests to come; further ones are carried out -/
  answers : List ReadAnswer
  /-- `_dedup_key_cache` -/
  dedupKeys : String → Option String
  /-- `_cash_flow_agg_loaded_accounts` -/
  loaded : String → Bool
  /-- `_cash_flow_agg_mem_cache` -/
  mem : String → Option AggregatePayload
  /-- `LocalCashFlowAggCache`; an empty entry is `none` -/
  disk : String → Option AggregatePayload

/-- What the repository raises. -/
inductive RepositoryError
  /-- `CashFlowContractError` -/
  | contract (issues : List CashFlowValidationIssue)
  /-- `ValueError` -/
  | value (text : String)
  /-- `RuntimeError` -/
  | runtime (text : String)
  /-- `FeishuRecordNotFoundError` -/
  | recordNotFound
  /-- another error of the client: whether its text has `FieldNameNotFound` -/
  | client (unknownField : Bool)
deriving DecidableEq

/-- `'FieldNameNotFound' in str(exc)`. -/
def RepositoryError.namesUnknownField : RepositoryError → Bool
  | client unknownField => unknownField
  | _ => false

/-- Programs of the repository. -/
abbrev LedgerProg := Prog LedgerWorld RepositoryError

open Prog (raise rescue reads alter lift)

/-! ## Requests -/

/-- One read request. -/
def readRequest : LedgerProg Unit := fun w =>
  match w.answers with
  | [] | .ok :: _ => (.ok (), { w with answers := w.answers.tail })
  | .unknownField :: rest => (.error (.client true), { w with answers := rest })
  | .refused :: rest => (.error (.client false), { w with answers := rest })

/-- `list_records` with a filter. -/
def listRecords (filter : RawCashFlowRecord → Bool) : LedgerProg (List RawCashFlowRecord) := do
  readRequest
  reads fun w => w.rows.filter filter

/-- `get_record_strict`. -/
def getRecordStrict (recordId : String) : LedgerProg RawCashFlowRecord := do
  readRequest
  match ← reads fun w => w.rows.find? fun row => row.recordId = recordId with
  | some row => pure row
  | none => raise .recordNotFound

/-- The fields of a row that were asked for. -/
def RawCashFlowRecord.project (fields : List String) (row : RawCashFlowRecord) : RawCashFlowRecord :=
  { row with rawFields := row.rawFields.filter fun cell => cell.1 ∈ fields }

/-- `_list_cash_flow_records`: without `updated_at` when the table has no such column. -/
def listCashFlowRecords (filter : RawCashFlowRecord → Bool) : LedgerProg (List RawCashFlowRecord) :=
  rescue
    (do
      let rows ← listRecords filter
      pure (rows.map (RawCashFlowRecord.project canonicalFields)))
    fun exc =>
      if exc.namesUnknownField then do
        let rows ← listRecords filter
        pure (rows.map (RawCashFlowRecord.project (canonicalFields.filter (· ≠ "updated_at"))))
      else raise exc

/-! ## Reads -/

/-- `CurrentValue.[account] = account`. -/
def ofAccount (account : String) (row : RawCashFlowRecord) : Bool := row.get "account" = .text account

/-- The checks of a row read for an account. -/
def checkAccountRow (row : RawCashFlowRecord) : Except RepositoryError RawCashFlowRecord :=
  if row.recordId = "" then .error (.runtime "cash_flow source returned an incomplete record")
  else .ok row

/-- `get_raw_cash_flows(account=account)`. -/
def getRawCashFlowsOfAccount (account : String) : LedgerProg (List RawCashFlowRecord) := do
  if strip account = "" then raise (.value "account must not be blank")
  else
    let records ← listCashFlowRecords (ofAccount (strip account))
    lift (records.mapM checkAccountRow)

/-- `get_cash_flow`: the row as the source holds it. -/
def getCashFlow (recordId : String) : LedgerProg (Option RawCashFlowRecord) := do
  if strip recordId = "" then raise (.value "record_id must not be blank")
  else
    rescue (do return some (← getRecordStrict (strip recordId))) fun exc =>
      if exc = .recordNotFound then pure none else raise exc

section
variable (rt : RepositoryRuntime)

/-- `CompletedCashFlowFacts.require`. -/
def requireCompleted (record : RawCashFlowRecord) : Except RepositoryError CompletedCashFlowFacts :=
  match CompletedCashFlowFacts.validateRecord rt.toRuntime record with
  | .ok facts => .ok facts
  | .error issues => .error (.contract issues)

/-! ## Aggregates -/

/-- One row added to all sums. -/
def Aggregates.add (sums : Aggregates) (facts : CompletedCashFlowFacts) : Aggregates where
  daily := addTo facts.flowDate facts.cnyAmount sums.daily
  monthly := addTo (monthKey facts.flowDate) facts.cnyAmount sums.monthly
  yearly := addTo facts.flowDate.year facts.cnyAmount sums.yearly
  cumulative := addMoney sums.cumulative facts.cnyAmount

/-- One row of the loop of `preload_cash_flow_aggs`. -/
def preloadRow (acc : List FlowEntry × Aggregates) (record : RawCashFlowRecord) :
    Except RepositoryError (List FlowEntry × Aggregates) := do
  let facts ← requireCompleted rt record
  return (acc.1 ++ [⟨facts.flowDate, record.recordId, facts.cnyAmount, record.get "updated_at"⟩],
    acc.2.add facts)

/-- `{r.get('date'): (r.get('record_id'), r.get('updated_at')) for r in flows}`. -/
def flowsFingerprint (flows : List FlowEntry) : Items CivilDate (String × Cell) :=
  flows.foldl (fun d row => d.set row.date (row.recordId, row.updatedAt)) []

/-- The answer of `preload_cash_flow_aggs`. -/
structure Preload where
  /-- `account` -/
  account : String
  /-- `loaded` -/
  loaded : Nat
  /-- `source` -/
  source : String
  /-- `invalidated` -/
  invalidated : Bool
deriving DecidableEq

/-- An account's payload is put in memory and in the local copy. -/
def LedgerWorld.keep (account : String) (payload : AggregatePayload) (w : LedgerWorld) :
    LedgerWorld :=
  { w with
    mem := Function.update w.mem account (some payload)
    loaded := Function.update w.loaded account true
    disk := Function.update w.disk account (some payload) }

/-- The payload of the flows and sums of an account. -/
def preloadedPayload (account : String) (flows : List FlowEntry) (sums : Aggregates) :
    AggregatePayload :=
  let sorted := sortBy FlowEntry.date flows
  { account := account
    aggregates := sums
    flowCount := sorted.length
    flows := sorted
    lastRecord := sorted.getLast?
    latestUpdatedAt := (sorted.getLast?.map FlowEntry.updatedAt).getD .null }

/-- `preload_cash_flow_aggs`. -/
def preloadCashFlowAggs (account : String) (forceRefresh : Bool) : LedgerProg Preload := do
  if (← reads fun w => w.loaded account) ∧ ¬ forceRefresh then
    let count ← reads fun w => ((w.mem account).map AggregatePayload.flowCount).getD 0
    return ⟨account, count, "memory", false⟩
  else
    let cachedLocal ← reads (·.disk account)
    let records ← getRawCashFlowsOfAccount account
    let (flows, sums) ← lift (records.foldlM (preloadRow rt) ([], .zero))
    let payload := preloadedPayload account flows sums
    let invalidated := match cachedLocal with
      | some old => ¬ (flowsFingerprint old.flows).isPerm (flowsFingerprint payload.flows)
      | none => false
    alter (LedgerWorld.keep account payload)
    return ⟨account, payload.flows.length, "feishu", invalidated⟩

/-- `_ensure_cash_flow_aggs_loaded`. -/
def ensureCashFlowAggsLoaded (account : String) : LedgerProg Unit := do
  if ← reads fun w => w.loaded account then pure ()
  else
    match ← reads (·.disk account) with
    | some cached =>
      alter fun w => { w with
        mem := Function.update w.mem account (some cached)
        loaded := Function.update w.loaded account true }
    | none => discard (preloadCashFlowAggs rt account false)

/-- `get_cash_flow_aggs`; no aggregates are `{}`. -/
def getCashFlowAggs (account : String) : LedgerProg (Option AggregatePayload) := do
  ensureCashFlowAggsLoaded rt account
  reads (·.mem account)

end

/-- `_invalidate_cash_flow_agg_cache` of one account. -/
def LedgerWorld.invalidate (account : String) (w : LedgerWorld) : LedgerWorld :=
  { w with
    loaded := Function.update w.loaded account false
    mem := Function.update w.mem account none
    disk := Function.update w.disk account none }

/-- `add_amount`; `none` where `quantize` raises. -/
def addAmount (current amount : Cents) : Option Cents := money? ⟨addMoney current amount, -2⟩

/-- `sums[key] = add_amount(sums.get(key, 0))`. -/
def addAmountTo {κ : Type} [DecidableEq κ] (key : κ) (amount : Cents) (sums : Items κ Cents) :
    Option (Items κ Cents) :=
  (addAmount ((sums.lookup key).getD 0) amount).map fun sum => sums.set key sum

/-- The sums with one more row. -/
def Aggregates.append? (sums : Aggregates) (facts : CompletedCashFlowFacts) : Option Aggregates := do
  let daily ← addAmountTo facts.flowDate facts.cnyAmount sums.daily
  let monthly ← addAmountTo (monthKey facts.flowDate) facts.cnyAmount sums.monthly
  let yearly ← addAmountTo facts.flowDate.year facts.cnyAmount sums.yearly
  let cumulative ← addAmount sums.cumulative facts.cnyAmount
  return ⟨daily, monthly, yearly, cumulative⟩

/-- The sort key of `flows`. -/
def FlowEntry.key (row : FlowEntry) : CivilDate ×ₗ String := toLex (row.date, row.recordId)

/-- `max(rows, key=...)`: the first of the largest. -/
def latestEntry : List FlowEntry → Option FlowEntry
  | [] => none
  | row :: rest => some (rest.foldl (fun best row => if best.key < row.key then row else best) row)

/-- The payload with one more row. -/
def AggregatePayload.append? (payload : AggregatePayload) (facts : CompletedCashFlowFacts)
    (recordId now : String) : Option AggregatePayload := do
  let sums ← payload.aggregates.append? facts
  let newRow : FlowEntry := ⟨facts.flowDate, recordId, facts.cnyAmount, .text now⟩
  let flows := sortBy FlowEntry.key (payload.flows ++ [newRow])
  let lastRecord := latestEntry (flows ++ payload.lastRecord.toList)
  return {
    account := facts.manual.account
    aggregates := sums
    flowCount := payload.flowCount + 1
    flows := flows
    lastRecord := lastRecord
    latestUpdatedAt := (lastRecord.map FlowEntry.updatedAt).getD .null }

/-- `_append_completed_cash_flow_cache`. -/
def LedgerWorld.appendCompletedCashFlow (facts : CompletedCashFlowFacts) (recordId now : String)
    (w : LedgerWorld) : LedgerWorld :=
  let account := facts.manual.account
  match w.mem account <|> w.disk account with
  | none => w.invalidate account
  | some base =>
    match base.append? facts recordId now with
    | none => w.invalidate account
    | some payload =>
      { w with
        disk := Function.update w.disk account (some payload)
        mem := Function.update w.mem account (some payload) }

/-- The end of `add_cash_flow`: the new row is brought into sums that are loaded. -/
def LedgerWorld.publish (facts : CompletedCashFlowFacts) (recordId now : String) (w : LedgerWorld) :
    LedgerWorld :=
  if w.loaded facts.manual.account then w.appendCompletedCashFlow facts recordId now
  else
    -- a local copy may be incomplete, so the next reader refreshes it
    w.invalidate facts.manual.account

/-! ## Writes -/

/-- The date of a flow as the remote holds it: Beijing midnight in milliseconds. -/
def feishuDate (d : CivilDate) : Int := (epochSeconds d - 28800) * 1000

/-- `_to_feishu_fields(facts.to_fields(), 'cash_flow')`, less the values `create_record` drops. -/
def wireFields (facts : CompletedCashFlowFacts) : List (String × Cell) :=
  [("flow_date", .int (feishuDate facts.flowDate)),
    ("account", .text facts.manual.account),
    ("broker", .text facts.manual.broker),
    ("amount", .float ⟨facts.manual.amount, -2⟩),
    ("currency", .text facts.manual.currency.value),
    ("flow_type", .text facts.flowType.value),
    ("cny_amount", .float ⟨facts.cnyAmount, -2⟩),
    ("dedup_key", .text facts.dedupKey),
    ("exchange_rate", .float facts.exchangeRate),
    ("source", .text facts.source)] ++
  match facts.manual.remark with
  | some remark => if remark = .text "" then [] else [("remark", remark)]
  | none => []

/-- The remote keeps a new row. -/
def LedgerWorld.create (recordId : String) (facts : CompletedCashFlowFacts) (w : LedgerWorld) :
    LedgerWorld :=
  { w with rows := w.rows ++ [.make recordId (wireFields facts)] }

/-- `create_record('cash_flow', …)` and its handler: the id the answer reports, stripped. -/
def createRow (facts : CompletedCashFlowFacts) : Creation → LedgerProg String
  | .created recordId reported => do
    alter (LedgerWorld.create recordId facts)
    return strip reported
  | .lost recordId => do
    alter (LedgerWorld.create recordId facts)
    raise (.client false)
  | .unknownField =>
    raise (.value "Feishu cash_flow 表缺少 dedup_key 等防重字段，已拒绝降级写入；请先补齐表字段")
  | .refused => raise (.client false)

/-- The first half of `_find_by_dedup_key`: the cached id, when its record still exists. -/
def cachedByDedupKey (dedupKey : String) : LedgerProg (Option String) := do
  match ← reads (·.dedupKeys dedupKey) with
  | none => pure none
  | some recordId =>
    rescue
      (do
        discard (getRecordStrict recordId)
        return some recordId)
      fun _ => do
        alter fun w => { w with dedupKeys := Function.update w.dedupKeys dedupKey none }
        return none

/-- `_find_by_dedup_key('cash_flow', dedup_key)`. -/
def findByDedupKey (dedupKey : String) : LedgerProg (Option String) := do
  match ← cachedByDedupKey dedupKey with
  | some recordId => return some recordId
  | none =>
    let records ← rescue (listRecords fun row => row.get "dedup_key" = .text dedupKey) fun exc =>
      if exc.namesUnknownField then
        raise (.value "Feishu cash_flow 表缺少 dedup_key 字段，无法保证防重；请先补齐表字段")
      else raise exc
    match records with
    | [] => return none
    | record :: _ => do
      alter fun w => { w with dedupKeys := Function.update w.dedupKeys dedupKey (some record.recordId) }
      return some record.recordId

/-- What `add_cash_flow` returns. -/
structure AddedCashFlow where
  /-- the facts -/
  facts : CompletedCashFlowFacts
  /-- the record id -/
  recordId : String
  /-- `replayed` -/
  replayed : Bool
deriving DecidableEq

section
variable (rt : RepositoryRuntime)

/-- `_matching_cash_flow_replay`. -/
def matchingCashFlowReplay (recordId expectedDedupKey : String) :
    LedgerProg (Option CompletedCashFlowFacts) := do
  match ← getCashFlow recordId with
  | none => pure none
  | some row =>
    let existing ← lift ((rt.throughModel row).mapError RepositoryError.value)
    if existing.get "dedup_key" ≠ .text expectedDedupKey then pure none
    else return some (← lift (requireCompleted rt existing))

/-- The replay of an addition: the row that already owns its fingerprint. -/
def replayedCashFlow (dedupKey : String) (cachedRecordId existingRecordId : Option String) :
    LedgerProg (Option AddedCashFlow) := do
  match existingRecordId with
  | none => pure none
  | some recordId =>
    match ← matchingCashFlowReplay rt recordId dedupKey with
    | some existing => return some ⟨existing, recordId, true⟩
    | none =>
      if cachedRecordId ≠ some recordId then
        raise (.runtime ("cash_flow dedup lookup returned a mismatched record: record_id=" ++ recordId
          ++ ", expected_dedup_key=" ++ dedupKey))
      else
        alter fun w => { w with dedupKeys := Function.update w.dedupKeys dedupKey none }
        match ← findByDedupKey dedupKey with
        | none => pure none
        | some fresh =>
          match ← matchingCashFlowReplay rt fresh dedupKey with
          | some existing => return some ⟨existing, fresh, true⟩
          | none =>
            raise (.runtime ("cash_flow fresh dedup lookup returned a mismatched record: record_id="
              ++ fresh ++ ", expected_dedup_key=" ++ dedupKey))

/-- The part of `add_cash_flow` after no replay was found. -/
def createCashFlow (facts : CompletedCashFlowFacts) (creation : Creation) (now : String) :
    LedgerProg AddedCashFlow := do
  let recordId ← createRow facts creation
  if recordId = "" then raise (.runtime "cash_flow create returned no record_id")
  else
    alter fun w => { w with dedupKeys := Function.update w.dedupKeys facts.dedupKey (some recordId) }
    alter (LedgerWorld.publish facts recordId now)
    return ⟨facts, recordId, false⟩

/-- `add_cash_flow`: `given` holds the fields of the facts the caller passes. -/
def addCashFlow (given : RawCashFlowRecord) (creation : Creation) (now : String) :
    LedgerProg AddedCashFlow := do
  let facts ← lift (requireCompleted rt given)
  let cachedRecordId ← reads (·.dedupKeys facts.dedupKey)
  let existingRecordId ← findByDedupKey facts.dedupKey
  match ← replayedCashFlow rt facts.dedupKey cachedRecordId existingRecordId with
  | some replay => return replay
  | none => createCashFlow facts creation now

end

end PortfolioManagement.Ledger
