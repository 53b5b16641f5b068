import PortfolioManagement.Domain.Compensation
import PortfolioManagement.Effect.Store

/-!
# The world a service call runs in

A service call reads and writes three things that share no transaction: the remote tables (ledger,
holdings, NAV history), the effect database, and the compensation log. Third parties edit the remote
tables at any time, and every access may raise or the process may stop there, before or after the
access took effect. `World` holds all of it, with the schedule of what will go wrong, so that a call
is a function of the world and a run is a sequence of calls.
-/

namespace PortfolioManagement

/-! ## The remote side -/

/-- A NAV row, with whether `evaluate_nav_finality` finds it eligible for its date. -/
structure NavRow where
  /-- the account -/
  account : String
  /-- the NAV date -/
  date : Date
  /-- the row is a final NAV of that date -/
  final : Bool
deriving DecidableEq

/-- A Futu balance snapshot. -/
structure FutuSnapshot where
  /-- where the snapshot came from -/
  source : String
  /-- the OpenD account -/
  accountId : Option Nat
  /-- the profile fingerprint -/
  profileFingerprint : Option String
  /-- the balances -/
  cashByCurrency : List (String × Option Rat)
deriving DecidableEq

/-- What lies outside the service: the remote tables, OpenD, the calendar and the clock. -/
structure Remote where
  /-- the `cash_flow` rows -/
  ledger : List CashFlow
  /-- the `holdings` table -/
  holdings : HoldingsTable
  /-- the NAV history -/
  navs : List NavRow
  /-- `previous_business_day(before=...)`; none when the calendar cannot answer -/
  previousBusinessDay : Date → Option Date
  /-- `fetch_balances` of an account's Futu provider; none when it raises -/
  futu : String → Option FutuSnapshot
  /-- `bj_today()` -/
  today : Date
  /-- `cash_flow.effects.cutover_date` in the configuration -/
  configuredCutover : Option Date

namespace Remote

/-- The CASH amount of an identity: what the last matching row holds. -/
def cash (r : Remote) (i : HoldingIdentity) : Cents :=
  holdingAmount (HoldingsTable.findIdentity r.holdings.rows i)

/-- `_has_nav_history`. -/
def hasNavHistory (r : Remote) (account : String) : Bool :=
  r.navs.any fun nav => nav.account = account

/-- `_previous_nav_is_final`. -/
def previousNavIsFinal (r : Remote) (account : String) (flowDate : Date) : Except Error Bool :=
  if r.hasNavHistory account then
    match r.previousBusinessDay flowDate with
    | none => .error (.value "business calendar cannot determine the previous business day")
    | some day => .ok (r.navs.any fun nav => nav.account = account && nav.date = day && nav.final)
  else .ok true

/-- `_initial_state`. -/
def initialState (r : Remote) (source : Source) (mode : EffectMode) : Except Error EffectState :=
  match source.flowDate with
  | none => .error (.value "Invalid isoformat string: ''")
  | some flowDate =>
    if r.today < flowDate then .ok .scheduled
    else if mode = .apply then do
      let final ← r.previousNavIsFinal (textOr source.account) flowDate
      return if final then .pending else .scheduled
    else .ok .pending

/-- `fetch_balances` of an account's provider. -/
def fetchBalances (r : Remote) (account : String) : Except Error FutuSnapshot :=
  match r.futu account with
  | none => .error (.runtime "Futu OpenD request failed")
  | some snapshot => .ok snapshot

end Remote

/-! ## What may go wrong -/

/-- How an access ends. -/
inductive Outcome
  | completes
  | raises (e : Error)
  | raisesAfter (e : Error)
  | stops
  | stopsAfter
deriving DecidableEq, Repr

/-- One remote access: third parties may have changed the remote side before it. -/
structure Tick where
  /-- what third parties did to the remote side before the access -/
  edit : Remote → Remote := id
  /-- how the access ends -/
  outcome : Outcome := .completes

/-- Why a call ended early: the process stopped, or an exception left the call. -/
inductive Stop
  | crashed
  | raised (e : Error)
deriving DecidableEq, Repr

/-! ## The journal -/

/-- A CASH target of a compensation task. -/
structure CashTarget where
  /-- `identity` -/
  identity : HoldingIdentity
  /-- `before`, serialized -/
  before : Option HoldingState
  /-- `target`, serialized -/
  target : HoldingState
  /-- `mutation` -/
  mutation : HoldingTarget
deriving DecidableEq

/-- A target of a confirmation: the mutation with the fresh row it replaces. -/
structure PlannedTarget where
  /-- the fresh row the target replaces -/
  before : Option Holding
  /-- the bound mutation -/
  mutation : HoldingTarget
deriving DecidableEq

/-- The CASH target a confirmation records for a compensation. -/
def PlannedTarget.cashTarget (p : PlannedTarget) : CashTarget where
  identity := p.mutation.identity
  before := p.before.map Holding.state
  target := p.mutation.state
  mutation := p.mutation

/-- Who wrote a holding. -/
inductive Writer
  | confirm
  | compensation
deriving DecidableEq, Repr

/-- A write of a holding. -/
structure HoldingWrite where
  /-- the effect it was made for -/
  effect : Effect
  /-- the latest version of the effect's record at the write -/
  latest : Option Effect
  /-- who made it -/
  writer : Writer
  /-- the target -/
  target : HoldingTarget
  /-- the fresh row the target was compared with -/
  base : Option Holding
  /-- the identity of the row that changed -/
  identity : HoldingIdentity
  /-- the amount before -/
  before : Cents
  /-- the amount after -/
  after : Cents
deriving DecidableEq

/-- What the service did, as statements about it need it. No code reads the journal. -/
inductive JournalEntry
  /-- a confirmation took its effect to `applying` -/
  | began (effect : Effect) (payload : PreviewPayload) (planned : List PlannedTarget)
  /-- a holding was written for an effect -/
  | wrote (write : HoldingWrite)
  /-- a fresh readback of a target matched -/
  | verified (effectId : Nat) (identity : HoldingIdentity)
  /-- an effect confirmed the baseline of an identity -/
  | baselined (effectId : Nat) (identity : String) (amount : Cents)
deriving DecidableEq

/-- The write an entry records. -/
def JournalEntry.write : JournalEntry → Option HoldingWrite
  | .wrote write => some write
  | _ => none

/-- What outlives a call. -/
structure Durable where
  /-- the effect database -/
  db : Db
  /-- the remote side -/
  remote : Remote
  /-- the compensation log -/
  tasks : TaskLog CashTarget
  /-- the journal, newest entry first -/
  journal : List JournalEntry
  /-- the states the remote side had before in the running call, newest first -/
  earlier : List Remote := []

/-- The writes of holdings the journal records, newest first. -/
def Durable.writes (d : Durable) : List HoldingWrite := d.journal.filterMap JournalEntry.write

theorem Durable.mem_writes {d : Durable} {write : HoldingWrite} :
    write ∈ d.writes ↔ .wrote write ∈ d.journal := by
  unfold writes
  rw [List.mem_filterMap]
  constructor
  · rintro ⟨entry, hentry, h⟩
    cases entry <;> simp_all [JournalEntry.write]
  · exact fun h => ⟨_, h, rfl⟩

/-- Append to the journal. -/
def Durable.note (d : Durable) (entry : JournalEntry) : Durable :=
  { d with journal := entry :: d.journal }

/-- The state after the remote side changed. -/
def Durable.drift (d : Durable) (r : Remote) : Durable :=
  { d with remote := r, earlier := d.remote :: d.earlier }

/-- The state after a write request changed the holdings table. -/
def Durable.write (d : Durable) (holdings : HoldingsTable) (write : HoldingWrite) : Durable :=
  (d.drift { d.remote with holdings := holdings }).note (.wrote write)

/-- The world a call runs in: the durable state, the caches of the service instance, and what will
go wrong. -/
structure World extends Durable where
  /-- the rows behind `_current_flow_accounts_cache` -/
  flowsRead : Option (List CashFlow)
  /-- the remote accesses to come -/
  remoteTicks : List Tick
  /-- the writes of the database and of the compensation log to come -/
  localOutcomes : List Outcome

/-- A service program. -/
abbrev M (α : Type) := Prog World Stop α

namespace World

/-- A world at rest: no call is running. -/
def idle (db : Db) (remote : Remote) : World := ⟨⟨db, remote, .empty, [], []⟩, none, [], []⟩

/-- Take the next remote tick; when none is scheduled the access completes. -/
def nextTick (w : World) : Tick × World :=
  match w.remoteTicks with
  | [] => ({}, w)
  | t :: rest => (t, { w with toDurable := w.toDurable.drift (t.edit w.remote), remoteTicks := rest })

/-- Take the next local outcome. -/
def nextOutcome (w : World) : Outcome × World :=
  match w.localOutcomes with
  | [] => (.completes, w)
  | o :: rest => (o, { w with localOutcomes := rest })

end World

namespace M

variable {α : Type}

/-- Raise an exception. -/
def throw (e : Error) : M α := Prog.raise (.raised e)

/-- A pure computation that may raise. -/
def ofExcept (x : Except Error α) : M α := Prog.lift (x.mapError .raised)

/-- Perform an access to the durable state that ends as scheduled. -/
def perform (o : Outcome) (act : Durable → Except Error α × Durable) (w : World) :
    Except Stop α × World :=
  let after := { w with toDurable := (act w.toDurable).2 }
  match o with
  | .completes => ((act w.toDurable).1.mapError .raised, after)
  | .raises e => (.error (.raised e), w)
  | .raisesAfter e => (.error (.raised e), after)
  | .stops => (.error .crashed, w)
  | .stopsAfter => (.error .crashed, after)

/-- A remote access. -/
def remote (act : Durable → Except Error α × Durable) : M α := fun w =>
  perform w.nextTick.1.outcome act w.nextTick.2

/-- A write of the local disk: the database or the compensation log. -/
def disk (act : Durable → Except Error α × Durable) : M α := fun w =>
  perform w.nextOutcome.1 act w.nextOutcome.2

/-- A remote read. -/
def readRemote (f : Remote → Except Error α) : M α := remote fun d => (f d.remote, d)

/-- Run a transaction on the database: its writes are kept when it returns. -/
def transact (tx : Tx α) : Durable → Except Error α × Durable :=
  Prog.transaction Durable.db (fun db d => { d with db := db }) tx

/-- One SQLite transaction. -/
def commit (tx : Tx α) : M α := disk (transact tx)

/-- Handle exceptions; a process that stopped runs no handler. -/
def tryCatch (m : M α) (handler : Error → M α) : M α :=
  Prog.rescue m fun
    | .crashed => Prog.raise .crashed
    | .raised e => handler e

/-- Write to the journal. -/
def journal (entry : JournalEntry) : M Unit :=
  Prog.alter fun w => { w with toDurable := w.toDurable.note entry }

end M

/-! ## Storage -/

namespace Storage

/-- `get_cash_flows`, with the account cache every caller fills from it. -/
def getCashFlows : M (List CashFlow) := do
  let flows ← M.readRemote fun r => .ok r.ledger
  Prog.alter fun w => { w with flowsRead := some flows }
  return flows

/-- `get_cash_holdings_fresh`. -/
def getCashHoldingsFresh (account : Option String) : M (List Holding) :=
  M.readRemote fun r => r.holdings.getCashHoldingsFresh account

/-- `get_holding_fresh`. -/
def getHoldingFresh (assetId account broker : String) : M (Option Holding) :=
  M.readRemote fun r => r.holdings.getHoldingFresh assetId account broker

/-- The write request of `_apply_holding_target`, journalled with the amounts it replaces. -/
def send (effect : Effect) (writer : Writer) (target : HoldingTarget) (base : Option Holding)
    (d : Durable) : Except Error Unit × Durable :=
  let table := d.remote.holdings
  let latest := (d.db.effects.get effect.id).bind fun e => d.db.effects.latest e.key
  match base with
  | none =>
    (.ok (), d.write (table.createRecord target d.remote.today)
      { effect := effect
        latest := latest
        writer := writer
        target := target
        base := none
        identity := target.identity
        before := 0
        after := money target.values.quantity })
  | some row =>
    match table.rows.find? fun h => h.recordId = row.recordId with
    | none => (.error ⟨.requestError, "record not found"⟩, d)
    | some current =>
      (.ok (), d.write (table.updateRecord row.recordId target d.remote.today)
        { effect := effect
          latest := latest
          writer := writer
          target := target
          base := some row
          identity := current.identity
          before := money current.values.quantity
          after := money (target.applyTo current.values).quantity })

/-- `replace_holding`: compare the fresh base, write, and prove the write by a fresh readback. -/
def replaceHolding (effect : Effect) (writer : Writer) (target : HoldingTarget) : M Unit := do
  let base ← M.readRemote fun r => r.holdings.freshBaseForTarget target
  M.remote (send effect writer target base)
  M.readRemote fun r => r.holdings.proveTarget target

end Storage

end PortfolioManagement
