import PortfolioManagement.Nav.WrittenCopies

/-!
# The write of one record

`write_nav_record` previews the write, refuses to overwrite a row unless it is told to, sends one
request and applies its row.
-/

namespace PortfolioManagement.Nav

open Prog (EndsIn ends_bind ends_pure ends_raise ends_reads ends_alter ends_lift ends_rescue ends_fold)

section
variable {w : NavWorld}

/-- One update request, as a batch of one. -/
theorem updateRecord_ends (account : String) (recordId : Nat) (fields : Cells) (w : NavWorld) :
    EndsIn (fun _ w' => Committed account NavTable.updateAll [⟨recordId, fields⟩] w w')
      (fun e w' => ∃ done, done <+: [⟨recordId, fields⟩] ∧
        Committed account NavTable.updateAll done w w' ∧
        (e.namesUnknownField = true → done = [] ∧ .unknownField ∈ w.answers))
      (updateRecord account recordId fields w) := by
  refine (request_ends composes_updateAll account _ [] w).imp (fun _ _ h => h) ?_
  rintro _ w' ⟨done, hdone, hsent, unknown, rfl, hunknown⟩
  exact ⟨done, hdone, hsent, hunknown⟩

/-- One creation request, as a batch of one. -/
theorem createRecord_ends (create : Create) (w : NavWorld) :
    EndsIn (fun recordId w' => Committed create.account NavTable.createAll [create] w w' ∧
        recordId = w.table.nextId ∧ strip create.account ≠ "")
      (fun e w' => ∃ done, done <+: [create] ∧
        Committed create.account NavTable.createAll done w w' ∧
        (e.namesUnknownField = true → done = [] ∧ .unknownField ∈ w.answers))
      (createRecord create w) := by
  unfold createRecord
  rw [ends_bind, ends_lift]
  have haccount : validateCreate "" create = .ok () → strip create.account ≠ "" := by
    intro hvalid hblank
    rw [validateCreate, missingField, if_pos hblank] at hvalid
    cases hvalid
  have hclient : ∀ e, validateCreate "" create = .error e → e.namesUnknownField = false := by
    intro e hvalid
    unfold validateCreate at hvalid
    split at hvalid
    · cases hvalid
      rfl
    · cases hvalid
  cases hvalid : validateCreate "" create with
  | error e =>
    refine ⟨[], List.nil_prefix, .refl composes_createAll _ w, fun hnames => ?_⟩
    rw [hclient e hvalid] at hnames
    cases hnames
  | ok _ =>
    show EndsIn _ _ ((Prog.reads (fun w : NavWorld => w.table.nextId) >>= fun recordId =>
      request create.account NavTable.createAll [create] [] >>= fun _ => pure recordId) w)
    rw [ends_bind, ends_reads, ends_bind]
    refine (request_ends composes_createAll create.account _ [] w).imp ?_ ?_
    · intro _ w' hsent
      exact ⟨hsent, rfl, haccount hvalid⟩
    · rintro _ w' ⟨done, hdone, hsent, unknown, rfl, hunknown⟩
      exact ⟨done, hdone, hsent, hunknown⟩

/-- The request of one record was carried out. -/
structure SentOne (nav : NAVHistory) (fallback fallback' : Bool) (w w' : NavWorld) : Prop where
  /-- the table received the request -/
  table : w'.table = sentTable w.table nav.account [nav] fallback fallback'
  /-- the local copy is as it was -/
  cache : w'.cache = w.cache
  /-- the change is counted -/
  counted : w.revision nav.account < w'.revision nav.account
  /-- outcomes were taken -/
  answers : w'.answers <:+ w.answers
  /-- the details were left out only after they were refused -/
  refused : fallback = true → .unknownField ∈ w.answers
  /-- the account of a created row was checked -/
  account : createdNavs (w.table.freshRows nav.account) [nav] ≠ [] → strip nav.account ≠ ""

/-- The request of one record is carried out and its row returned, or a part of it is sent. -/
theorem executeSingleNavWrite_ends (nav : NAVHistory) (hw : Sound w) :
    EndsIn (fun row w' => Sound w' ∧ ∃ fallback fallback', SentOne nav fallback fallback' w w' ∧
        [row] = appliedRows w.table nav.account [nav] .replace fallback fallback')
      (fun _ w' => Sound w' ∧ SentPart nav.account [nav] w.table w'.table)
      (executeSingleNavWrite nav (rowOn (w.table.freshRows nav.account) nav.date) .replace w) := by
  cases hrow : rowOn (w.table.freshRows nav.account) nav.date with
  | some old =>
    have hpairs : updatedNavs (w.table.freshRows nav.account) [nav] = [(nav, old)] := by
      rw [updatedNavs, List.filterMap_cons, hrow]
      rfl
    have hnews : createdNavs (w.table.freshRows nav.account) [nav] = [] := by
      rw [createdNavs, List.filter_cons, hrow]
      rfl
    have hlocal : OwnRows nav.account w.table [(nav, old)] := hpairs ▸ ownRows_updatedNavs
    have hrow' : ∀ fallback, [if fallback = true then
        keptDetails (some old) (navToCacheRow old.recordId nav none)
          else navToCacheRow old.recordId nav none] =
        appliedRows w.table nav.account [nav] .replace fallback false := by
      intro fallback
      rw [appliedRows, hpairs, hnews]
      cases fallback with
      | false => rfl
      | true =>
        refine congrArg (fun row => [row]) (NavRow.ext_cells rfl rfl rfl fun column => ?_)
        cases column <;> rfl
    -- the state after an update that was carried out, and after one that failed
    have hdone : ∀ (fallback : Bool) {w' : NavWorld},
        (fallback = true → .unknownField ∈ w.answers) →
        Committed nav.account NavTable.updateAll [sentUpdate fallback (nav, old)] w w' →
        Sound w' ∧ SentOne nav fallback false w w' := by
      intro fallback w' hrefused hsent
      have hall : [sentUpdate fallback (nav, old)] <+: [(nav, old)].map (sentUpdate fallback) :=
        List.prefix_rfl
      refine ⟨hsent.sound_update (hlocal.sent hall) hw, ?_, hsent.cache, ?_, hsent.answers,
        hrefused, fun hne => absurd hnews hne⟩
      · rw [hsent.table, sentTable, hpairs, hnews]
        exact (NavTable.createAll_nil _).symm
      · exact lt_of_le_of_ne hsent.counted fun heq => List.cons_ne_nil _ _ (hsent.idle heq.symm)
    have hpart : ∀ (fallback : Bool) {done : List Update} {w' : NavWorld},
        done <+: [sentUpdate fallback (nav, old)] →
        Committed nav.account NavTable.updateAll done w w' →
        Sound w' ∧ SentPart nav.account [nav] w.table w'.table := by
      intro fallback done w' hbegins hsent
      have hbegins' : done <+: [(nav, old)].map (sentUpdate fallback) := hbegins
      refine ⟨hsent.sound_update (hlocal.sent hbegins') hw, fallback, false, done, [],
        hpairs ▸ hbegins', List.nil_prefix, ?_⟩
      rw [hsent.table, NavTable.createAll_nil]
    unfold executeSingleNavWrite
    rw [ends_bind, ends_rescue, ends_bind, ends_bind]
    refine (updateRecord_ends nav.account old.recordId (navToDict nav) w).imp ?_ ?_
    · intro _ w' hsent
      obtain ⟨hw', hone⟩ := hdone false (fun h => absurd h Bool.false_ne_true) hsent
      exact ⟨hw', false, false, hone, hrow' false⟩
    · rintro e w' ⟨done, hbegins, hsent, hidle⟩
      by_cases hnames : e.namesUnknownField = true
      · obtain ⟨rfl, hunknown⟩ := hidle hnames
        rw [if_pos hnames, ends_bind]
        refine (failClosed_ends _ _ w').imp ?_ ?_
        · rintro _ _ rfl
          rw [ends_bind, ends_bind]
          refine (updateRecord_ends nav.account old.recordId _ _).imp ?_ ?_
          · intro _ w'' hsent'
            obtain ⟨hw'', hone⟩ := hdone true (fun _ => hunknown)
              (hsent.trans composes_updateAll hsent')
            exact ⟨hw'', true, false, hone, hrow' true⟩
          · rintro e' w'' ⟨done, hbegins', hsent', -⟩
            exact hpart true hbegins' (hsent.trans composes_updateAll hsent')
        · rintro e' _ ⟨rfl, -⟩
          exact hpart false hbegins hsent
      · rw [if_neg hnames]
        exact hpart false hbegins hsent
  | none =>
    have hpairs : updatedNavs (w.table.freshRows nav.account) [nav] = [] := by
      rw [updatedNavs, List.filterMap_cons, hrow]
      rfl
    have hnews : createdNavs (w.table.freshRows nav.account) [nav] = [nav] := by
      rw [createdNavs, List.filter_cons, hrow]
      rfl
    have hrow' : ∀ fallback, [if fallback = true then
        keptDetails none (navToCacheRow w.table.nextId nav none)
          else navToCacheRow w.table.nextId nav none] =
        appliedRows w.table nav.account [nav] .replace false fallback := by
      intro fallback
      rw [appliedRows, hpairs, hnews]
      cases fallback <;> rfl
    have hlocal : ∀ (fallback : Bool) {done : List Create}, done <+: [sentCreate fallback nav] →
        ∀ create ∈ done, create.account = nav.account := by
      intro fallback done hbegins create hcreate
      rw [List.mem_singleton.mp (hbegins.subset hcreate), sentCreate_account]
    -- the state after a creation that was carried out, and after one that failed
    have hdone : ∀ (fallback : Bool) {w' : NavWorld}, strip nav.account ≠ "" →
        Committed nav.account NavTable.createAll [sentCreate fallback nav] w w' →
        Sound w' ∧ SentOne nav false fallback w w' := by
      intro fallback w' haccount hsent
      refine ⟨hsent.sound_create (hlocal fallback List.prefix_rfl) hw, ?_, hsent.cache, ?_,
        hsent.answers, fun h => absurd h Bool.false_ne_true, fun _ => haccount⟩
      · rw [hsent.table, sentTable, hpairs, hnews]
        exact congrArg (NavTable.createAll _) (NavTable.updateAll_nil _).symm
      · exact lt_of_le_of_ne hsent.counted fun heq => List.cons_ne_nil _ _ (hsent.idle heq.symm)
    have hpart : ∀ (fallback : Bool) {done : List Create} {w' : NavWorld},
        done <+: [sentCreate fallback nav] →
        Committed nav.account NavTable.createAll done w w' →
        Sound w' ∧ SentPart nav.account [nav] w.table w'.table := by
      intro fallback done w' hbegins hsent
      have hbegins' : done <+: [nav].map (sentCreate fallback) := hbegins
      refine ⟨hsent.sound_create (hlocal fallback hbegins) hw, false, fallback, [], done,
        List.nil_prefix, ?_, ?_⟩
      · rw [hnews]
        exact hbegins'
      · rw [hsent.table, NavTable.updateAll_nil]
    unfold executeSingleNavWrite
    rw [ends_bind, ends_rescue, ends_bind]
    refine (createRecord_ends ⟨nav.account, nav.date, navToDict nav⟩ w).imp ?_ ?_
    · rintro _ w' ⟨hsent, rfl, haccount⟩
      obtain ⟨hw', hone⟩ := hdone false haccount hsent
      exact ⟨hw', false, false, hone, hrow' false⟩
    · rintro e w' ⟨done, hbegins, hsent, hidle⟩
      by_cases hnames : e.namesUnknownField = true
      · obtain ⟨rfl, hunknown⟩ := hidle hnames
        rw [if_pos hnames, ends_bind]
        refine (failClosed_ends _ _ w').imp ?_ ?_
        · rintro _ _ rfl
          rw [ends_bind]
          refine (createRecord_ends ⟨nav.account, nav.date, dropDetails (navToDict nav)⟩ _).imp
            ?_ ?_
          · rintro _ w'' ⟨hsent', rfl, haccount⟩
            obtain ⟨hw'', hone⟩ := hdone true haccount
              (hsent.trans composes_createAll hsent')
            refine ⟨hw'', false, true, hone, ?_⟩
            rw [hsent.table, composes_createAll.nil]
            exact hrow' true
          · rintro e' w'' ⟨done, hbegins', hsent', -⟩
            exact hpart true hbegins' (hsent.trans composes_createAll hsent')
        · rintro e' _ ⟨rfl, -⟩
          exact hpart false hbegins hsent
      · rw [if_neg hnames]
        exact hpart false hbegins hsent

end

end PortfolioManagement.Nav
