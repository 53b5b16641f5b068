import PortfolioManagement.Nav.KeyedTable

/-!
# Runs of NAV writes

A run is a sequence of calls of `write_nav_record` and `write_nav_records`, each with the outcomes
of its requests, one after another under the writer lock.
-/

namespace PortfolioManagement.Nav

open Prog (EndsIn)

/-- A call that writes NAV records. -/
inductive WriteCall
  /-- `write_nav_record` -/
  | one (nav : NAVHistory) (overwriteExisting dryRun : Bool)
  /-- `write_nav_records` -/
  | many (navs : List NAVHistory) (mode : WriteMode) (allowPartial dryRun : Bool)

namespace WriteCall

/-- The program of a call; its result are the errors it reports. -/
def program : WriteCall → NavProg (List (String × NavError))
  | one nav overwriteExisting dryRun => do
    writeNavRecord nav overwriteExisting dryRun
    pure []
  | many navs mode allowPartial dryRun =>
    return (← writeNavRecords navs mode allowPartial dryRun).errors

/-- The keys of the rows that a call may change. -/
def overwrites : WriteCall → List (String × CivilDate)
  | one nav overwriteExisting dryRun => if overwriteExisting && !dryRun then [nav.key] else []
  | many navs _ _ dryRun => if dryRun then [] else navs.map NAVHistory.key

/-- The call writes. -/
def Writes : WriteCall → Prop
  | one _ _ dryRun => dryRun = false
  | many _ _ _ dryRun => dryRun = false

/-- The accounts of a call. -/
def accounts : WriteCall → List String
  | one nav _ _ => [nav.account]
  | many navs _ _ _ => writtenAccounts navs

/-- Every record of the call fits the row it replaces, in all columns. -/
def Fitting (call : WriteCall) (w : NavWorld) : Prop :=
  match call with
  | one nav _ _ => Nav.Fitting w .replace nav.account [nav]
  | many navs mode _ _ => ∀ account, Nav.Fitting w mode account (navsOf account navs)

end WriteCall

/-- A call and the outcomes of its requests. -/
structure AnsweredCall where
  /-- the call -/
  call : WriteCall
  /-- the outcomes of its requests; further requests are carried out -/
  answers : List Answer

namespace AnsweredCall

/-- The state in which the call starts. -/
def start (c : AnsweredCall) (w : NavWorld) : NavWorld := { w with answers := c.answers }

/-- The call's result and the state it leaves. -/
def exec (c : AnsweredCall) (w : NavWorld) : Except NavError (List (String × NavError)) × NavWorld :=
  c.call.program (c.start w)

end AnsweredCall

/-- The state after a run of calls. -/
def NavWorld.after (calls : List AnsweredCall) (w : NavWorld) : NavWorld :=
  calls.foldl (fun w c => (c.exec w).2) w

theorem Sound.start {w : NavWorld} (h : Sound w) (c : AnsweredCall) : Sound (c.start w) :=
  ⟨fun a e he => ⟨(h.mem a e he).built, (h.mem a e he).past, (h.mem a e he).exact⟩,
    fun a e he => ⟨(h.cache a e he).built, (h.cache a e he).past, (h.cache a e he).exact⟩,
    fun a e he => ⟨(h.file a e he).built, (h.file a e he).past, (h.file a e he).exact⟩⟩

/-- What a call does to the table and to the local copies, whether it returns or raises. -/
structure CallKeeps (call : WriteCall) (w w' : NavWorld) : Prop where
  /-- the copies are dated -/
  sound : Sound w'
  /-- a keyed table stays keyed -/
  keyed : w.table.Keyed → w'.table.Keyed
  /-- no row is changed that may not be overwritten -/
  stays : Stays call.overwrites w.table w'.table

/-- A call keeps the table keyed and the rows it may not overwrite; when it writes records that fit
and succeeds without errors, its accounts are refreshed. -/
theorem WriteCall.program_ends (call : WriteCall) {w : NavWorld} (hw : Sound w) :
    EndsIn (fun errors w' => CallKeeps call w w' ∧ (call.Writes → errors = [] → call.Fitting w →
        ∀ account ∈ call.accounts, Refreshed w' account))
      (fun _ w' => CallKeeps call w w') (call.program w) := by
  cases call with
  | one nav overwriteExisting dryRun =>
    have hkeyed : ∀ {w' : NavWorld}, SentPart nav.account [nav] w.table w'.table →
        w.table.Keyed → w'.table.Keyed := fun hpart =>
      hpart.keyed (by simp) (List.nodup_singleton _)
    show EndsIn _ _ ((writeNavRecord nav overwriteExisting dryRun >>= fun _ => pure []) w)
    rw [Prog.ends_bind]
    refine (writeNavRecord_ends nav overwriteExisting dryRun hw).imp ?_ ?_
    · rintro _ w' ⟨hw', hpart, hstays, hrefreshed⟩
      refine ⟨⟨hw', hkeyed hpart, hstays⟩, fun hwrites _ hfits account hin => ?_⟩
      rw [List.mem_singleton.mp hin]
      exact hrefreshed hwrites hfits
    · rintro e w' ⟨hw', hpart, hstays⟩
      exact ⟨hw', hkeyed hpart, hstays⟩
  | many navs mode allowPartial dryRun =>
    show EndsIn _ _ ((writeNavRecords navs mode allowPartial dryRun >>= fun result =>
      pure result.errors) w)
    rw [Prog.ends_bind]
    cases dryRun with
    | true =>
      have hkeeps : ∀ {w' : NavWorld}, Sound w' ∧ SameTable w w' →
          CallKeeps (many navs mode allowPartial true) w w' := by
        rintro w' ⟨hw', hsame⟩
        refine ⟨hw', fun h => ?_, ?_⟩
        · rw [hsame.table]
          exact h
        · rw [hsame.table]
          exact .refl _ _
      exact (dryRun_ends mode allowPartial navs hw).imp (fun _ _ h => ⟨hkeeps h, nofun⟩)
        fun _ _ h => hkeeps h
    | false =>
      refine (writeNavFullRecords_ends mode allowPartial navs hw).imp ?_ ?_
      · rintro result w' ⟨hw', hsteps, hrefreshed⟩
        exact ⟨⟨hw', hsteps.keyed, hsteps.stays⟩, fun _ => hrefreshed⟩
      · rintro e w' ⟨hw', hsteps⟩
        exact ⟨hw', hsteps.keyed, hsteps.stays⟩

theorem AnsweredCall.keeps (c : AnsweredCall) {w : NavWorld} (hw : Sound w) :
    CallKeeps c.call (c.start w) (c.exec w).2 := by
  have h : EndsIn (fun _ w' => CallKeeps c.call (c.start w) w')
      (fun _ w' => CallKeeps c.call (c.start w) w') (c.call.program (c.start w)) :=
    (WriteCall.program_ends c.call (hw.start c)).imp (fun _ _ h => h.1) fun _ _ h => h
  exact h.snd

/-- Every call of a run keeps the copies dated and the table keyed. -/
theorem after_keyed {w : NavWorld} (calls : List AnsweredCall) (hw : Sound w)
    (hkeyed : w.table.Keyed) : Sound (w.after calls) ∧ (w.after calls).table.Keyed := by
  induction calls generalizing w with
  | nil => exact ⟨hw, hkeyed⟩
  | cons c calls ih => exact ih (c.keeps hw).sound ((c.keeps hw).keyed hkeyed)

/-- After every call of every run of writes from a keyed table the table is keyed, and the call
changed no row it may not overwrite. A call that wrote and succeeded leaves its accounts refreshed
when none of its records without a value replaced a row with one. -/
theorem write_runs_keep_the_table_keyed (w : NavWorld) (hw : Sound w) (hkeyed : w.table.Keyed)
    (calls : List AnsweredCall) (c : AnsweredCall) :
    let before := c.start (w.after calls)
    let after := c.exec (w.after calls)
    after.2.table.Keyed ∧ Stays c.call.overwrites before.table after.2.table ∧
      (c.call.Writes → after.1 = .ok [] → c.call.Fitting before →
        ∀ account ∈ c.call.accounts, Refreshed after.2 account) := by
  obtain ⟨hsound, hbefore⟩ := after_keyed calls hw hkeyed
  have hkeeps := c.keeps hsound
  refine ⟨hkeeps.keyed hbefore, hkeeps.stays, fun hwrites hok hfits => ?_⟩
  have hends := WriteCall.program_ends c.call (hsound.start c)
  have hrun : c.call.program (c.start (w.after calls)) = (.ok [], (c.exec (w.after calls)).2) :=
    Prod.ext hok rfl
  rw [hrun] at hends
  exact hends.2 hwrites rfl hfits

/-! ## One row -/

/-- A repository over a table, without local copies. -/
def NavWorld.over (table : NavTable) : NavWorld where
  table := table
  answers := []
  mem := fun _ => none
  cache := fun _ => none
  file := fun _ => none
  revision := fun _ => 0

theorem Sound.over (table : NavTable) : Sound (NavWorld.over table) := ⟨nofun, nofun, nofun⟩

/-- An empty table without the column `updated_at`. -/
def emptyTable : NavTable := ⟨[], 1, false, nofun, List.nodup_nil⟩

/-- A record of account `a` with its profit, if it is known. -/
def profitRecord (pnl : Option Cents) : NAVHistory :=
  { bareRecord ⟨2026, 1, 5, by decide⟩ 100000 100000 1000000 with pnl := pnl }

/-- The first write of a record. -/
def firstWrite : AnsweredCall := ⟨.one (profitRecord (some 500)) false false, []⟩

theorem write_runs_keep_the_table_keyed_first :
    (firstWrite.exec (NavWorld.over emptyTable)).1 = .ok [] ∧
      Refreshed (firstWrite.exec (NavWorld.over emptyTable)).2 "a" := by
  have hok : (firstWrite.exec (NavWorld.over emptyTable)).1 = .ok [] := by decide +kernel
  have hfits : firstWrite.call.Fitting (firstWrite.start (NavWorld.over emptyTable)) := by
    intro pair hpair
    have hrow := (mem_updatedNavs.mp hpair).2
    cases hrow
  obtain ⟨-, -, hrefreshed⟩ := write_runs_keep_the_table_keyed (NavWorld.over emptyTable) (.over _)
    List.nodup_nil [] firstWrite
  exact ⟨hok, hrefreshed rfl hok hfits "a" List.mem_cons_self⟩

/-- The second write of the record, without its profit, over the row of the first. -/
def secondWrite : AnsweredCall := ⟨.one (profitRecord none) true false, []⟩

/-- What the local copy and a fresh read hold in a column of the rows of account `a`. -/
def columnTwice (column : NavColumn) (w : NavWorld) :
    Option (List (Option Cell)) × List (Option Cell) :=
  ((w.cache "a").map fun entry => entry.rows.map (·.cells column),
    (w.table.freshRows "a").map (·.cells column))

theorem Refreshed.columnTwice {w : NavWorld} (h : Refreshed w "a") (column : NavColumn) :
    (columnTwice column w).1 = some (columnTwice column w).2 := by
  obtain ⟨-, -, stamp, hcache⟩ := h
  show (w.cache "a").map _ = _
  rw [hcache]
  rfl

/-- A replacing record without a profit leaves the profit in the table, but not in the local
copy. -/
theorem replaced_profit_is_lost_locally :
    ¬ ∀ (w : NavWorld) (calls : List AnsweredCall) (c : AnsweredCall), Sound w → w.table.Keyed →
      c.call.Writes → (c.exec (w.after calls)).1 = .ok [] →
        ∀ account ∈ c.call.accounts, Refreshed (c.exec (w.after calls)).2 account := by
  intro hclaim
  have hok : (secondWrite.exec ((NavWorld.over emptyTable).after [firstWrite])).1 = .ok [] := by
    decide +kernel
  have hrefreshed := hclaim (NavWorld.over emptyTable) [firstWrite] secondWrite (.over _)
    List.nodup_nil rfl hok "a" List.mem_cons_self
  have hcells : columnTwice .pnl (secondWrite.exec ((NavWorld.over emptyTable).after
      [firstWrite])).2 = (some [none], [some (.number 500)]) := by decide +kernel
  have htwice := hrefreshed.columnTwice .pnl
  rw [hcells] at htwice
  cases htwice

end PortfolioManagement.Nav
