import PortfolioManagement.Nav.SingleWrite

/-!
# Writes and the copies of other accounts

A write of one account leaves the memory and the local copy of every other account as they are; the
file may receive the local copy.
-/

namespace PortfolioManagement.Nav

open Prog (Within)

/-- The copies of the other accounts are as they were, and outcomes were taken. -/
structure Aside (account : String) (w w' : NavWorld) : Prop where
  /-- the memory -/
  mem : ∀ other, other ≠ account → w'.mem other = w.mem other
  /-- the local copy -/
  cache : ∀ other, other ≠ account → w'.cache other = w.cache other
  /-- the file -/
  file : ∀ other, other ≠ account → w'.file other = w.file other ∨ w'.file other = w.cache other
  /-- outcomes were taken -/
  answers : w'.answers <:+ w.answers

section
variable {account : String}

theorem Aside.refl (w : NavWorld) : Aside account w w :=
  ⟨fun _ _ => rfl, fun _ _ => rfl, fun _ _ => .inl rfl, List.suffix_rfl⟩

theorem Aside.trans (w w' w'' : NavWorld) (h : Aside account w w') (h' : Aside account w' w'') :
    Aside account w w'' where
  mem := fun other hother => (h'.mem other hother).trans (h.mem other hother)
  cache := fun other hother => (h'.cache other hother).trans (h.cache other hother)
  file := by
    intro other hother
    rcases h'.file other hother with hfile | hfile
    · rw [hfile]
      exact h.file other hother
    · exact .inr (hfile.trans (h.cache other hother))
  answers := h'.answers.trans h.answers

/-- A state with the same copies. -/
theorem Aside.of_copies {w w' : NavWorld} (hmem : w'.mem = w.mem) (hcache : w'.cache = w.cache)
    (hfile : w'.file = w.file) (hanswers : w'.answers <:+ w.answers) : Aside account w w' :=
  ⟨fun _ _ => congrFun hmem _, fun _ _ => congrFun hcache _,
    fun _ _ => .inl (congrFun hfile _), hanswers⟩

/-! ## Requests and copies -/

theorem aside_nextAnswer : Within (Aside account) nextAnswer := by
  intro w
  unfold nextAnswer
  split
  · exact .refl w
  · next answer rest h => exact .of_copies rfl rfl rfl (h ▸ List.suffix_cons answer rest)

theorem aside_commit (change : NavTable → NavTable) :
    Within (Aside account) (Prog.alter (NavWorld.commit account change) : NavProg Unit) :=
  fun _ => .of_copies rfl rfl rfl List.suffix_rfl

theorem aside_request {α : Type} (change : List α → NavTable → NavTable) (rows : List α)
    (confirmed : List Nat) : Within (Aside account) (request account change rows confirmed) := by
  refine .bind Aside.trans aside_nextAnswer fun answer => ?_
  cases answer with
  | ok => exact aside_commit _
  | unknownField => exact .raise Aside.refl _
  | refused => exact .raise Aside.refl _
  | lost n => exact .bind Aside.trans (aside_commit _) fun _ => .raise Aside.refl _

theorem aside_requestChunks {α : Type} (change : List α → NavTable → NavTable)
    (results : List α → NavTable → List Nat) (n : Nat) (rows : List α) (confirmed : List Nat) :
    Within (Aside account) (requestChunks account change results n rows confirmed) := by
  induction n generalizing rows confirmed with
  | zero => exact .pure Aside.refl _
  | succ n ih =>
    cases rows with
    | nil => exact .pure Aside.refl _
    | cons row rest =>
      exact .bind Aside.trans (.reads Aside.refl _) fun _ =>
        .bind Aside.trans (aside_request _ _ _) fun _ => ih _ _

theorem aside_batchUpdateRecords (updates : List Update) :
    Within (Aside account) (batchUpdateRecords account updates) := aside_requestChunks _ _ _ _ _

theorem aside_batchCreateRecords (creates : List Create) :
    Within (Aside account) (batchCreateRecords account creates) :=
  .bind Aside.trans (.lift Aside.refl _) fun _ => aside_requestChunks _ _ _ _ _

theorem aside_listRecords (withUpdatedAt : Bool) :
    Within (Aside account) (listRecords account withUpdatedAt) := by
  refine .bind Aside.trans aside_nextAnswer fun answer => ?_
  cases answer with
  | ok => exact .bind Aside.trans (.reads Aside.refl _) fun _ =>
      .ite (.raise Aside.refl _) (.pure Aside.refl _)
  | unknownField => exact .raise Aside.refl _
  | refused => exact .raise Aside.refl _
  | lost n => exact .raise Aside.refl _

theorem aside_readRecords : Within (Aside account) (readRecords account) :=
  .rescue Aside.trans (aside_listRecords _) fun _ =>
    .ite (aside_listRecords _) (.raise Aside.refl _)

theorem aside_setMem (entry : NavWorld → Option Entry) :
    Within (Aside account) (Prog.alter fun w =>
      { w with mem := Function.update w.mem account (entry w) } : NavProg Unit) := by
  intro w
  exact ⟨fun _ hother => Function.update_of_ne hother _ _, fun _ _ => rfl, fun _ _ => .inl rfl,
    List.suffix_rfl⟩

theorem aside_setAccount (entry : Option Entry) (flush : Bool) :
    Within (Aside account) (setAccount account entry flush) := by
  intro w
  refine ⟨fun _ _ => rfl, fun _ hother => Function.update_of_ne hother _ _,
    fun other hother => ?_, List.suffix_rfl⟩
  cases flush with
  | false => exact .inl rfl
  | true => exact .inr (Function.update_of_ne hother _ _)

theorem aside_clearNavIndexAuthority : Within (Aside account) (clearNavIndexAuthority account) :=
  .bind Aside.trans (aside_setMem _) fun _ => aside_setAccount _ _

theorem aside_storeNavIndexPayload (rows : List NavRow) (persistLocal : Bool) :
    Within (Aside account) (storeNavIndexPayload account rows persistLocal) :=
  .bind Aside.trans (.reads Aside.refl _) fun _ => .bind Aside.trans (aside_setMem _) fun _ =>
    .ite (aside_setAccount _ _) (.pure Aside.refl _)

theorem aside_build (x : Except NavError (List NavRow)) :
    Within (Aside account) (Prog.rescue (Prog.lift x) fun e => do
      clearNavIndexAuthority account
      Prog.raise e) :=
  .rescue Aside.trans (.lift Aside.refl _) fun _ =>
    .bind Aside.trans aside_clearNavIndexAuthority fun _ => .raise Aside.refl _

theorem aside_refreshNavIndex (persistLocal : Bool) :
    Within (Aside account) (refreshNavIndex account persistLocal) :=
  .bind Aside.trans aside_readRecords fun _ => .bind Aside.trans (aside_build _) fun _ =>
    aside_storeNavIndexPayload _ _

theorem aside_getNavIndex : Within (Aside account) (getNavIndex account) := by
  refine .bind Aside.trans ?_ fun _ => .reads Aside.refl _
  refine .bind Aside.trans (.reads Aside.refl _) fun loaded => ?_
  cases loaded with
  | some _ => exact .pure Aside.refl _
  | none =>
    refine .bind Aside.trans (.reads Aside.refl _) fun cached => ?_
    cases cached with
    | some entry => exact .bind Aside.trans (aside_build _) fun _ => aside_setMem _
    | none => exact aside_refreshNavIndex _

/-! ## Writes -/

theorem aside_existingRowsForWrite : Within (Aside account) (existingRowsForWrite account) :=
  .bind Aside.trans (aside_refreshNavIndex _) fun _ => .bind Aside.trans aside_getNavIndex fun _ =>
    .ite (.raise Aside.refl _) (.pure Aside.refl _)

theorem aside_raiseBatchError {α : Type} (operation : String) (unknown : Bool)
    (updates creates : List Nat) (updateRows createRows : Nat) :
    Within (Aside account)
      (raiseBatchError account operation unknown updates creates updateRows createRows :
        NavProg α) := by
  refine .bind Aside.trans (.bind Aside.trans (.rescue Aside.trans ?_ fun _ => ?_) fun _ =>
    .pure Aside.refl _) fun _ => .raise Aside.refl _
  · exact .bind Aside.trans aside_clearNavIndexAuthority fun _ =>
      .bind Aside.trans (aside_refreshNavIndex _) fun _ => .pure Aside.refl _
  · exact .bind Aside.trans (aside_setMem _) fun _ => .pure Aside.refl _

theorem aside_failClosed (payloads : List Cells) (operation : String) :
    Within (Aside account) (failClosed payloads operation) :=
  .ite (.raise Aside.refl _) (.pure Aside.refl _)

theorem aside_updateStage (mode : WriteMode) (pairs : List (NAVHistory × NavRow)) :
    Within (Aside account) (updateStage account mode pairs) := by
  refine .ite (.pure Aside.refl _) (.rescue Aside.trans ?_ fun e => .ite ?_ ?_)
  · exact .bind Aside.trans (aside_batchUpdateRecords _) fun _ => .pure Aside.refl _
  · refine .bind Aside.trans (aside_failClosed _ _) fun _ => .rescue Aside.trans ?_ fun _ => ?_
    · exact .bind Aside.trans (aside_batchUpdateRecords _) fun _ => .pure Aside.refl _
    · exact aside_raiseBatchError _ _ _ _ _ _
  · exact aside_raiseBatchError _ _ _ _ _ _

theorem aside_createStage (updated : List Nat) (updateRows : Nat) (navs : List NAVHistory) :
    Within (Aside account) (createStage account updated updateRows navs) := by
  refine .ite (.pure Aside.refl _) (.rescue Aside.trans ?_ fun e => .ite ?_ ?_)
  · exact .bind Aside.trans (aside_batchCreateRecords _) fun _ => .pure Aside.refl _
  · refine .bind Aside.trans (.rescue Aside.trans (aside_failClosed _ _) fun _ =>
      .ite (aside_raiseBatchError _ _ _ _ _ _) (.raise Aside.refl _)) fun _ =>
        .rescue Aside.trans ?_ fun _ => ?_
    · exact .bind Aside.trans (aside_batchCreateRecords _) fun _ => .pure Aside.refl _
    · exact aside_raiseBatchError _ _ _ _ _ _
  · exact aside_raiseBatchError _ _ _ _ _ _

theorem aside_applyNavRows (rows : List NavRow) (exact : Bool) :
    Within (Aside account) (applyNavRowsToLocalCache account rows exact) :=
  .ite (.pure Aside.refl _) (.bind Aside.trans (.reads Aside.refl _) fun _ =>
    .bind Aside.trans (.reads Aside.refl _) fun _ =>
      .bind Aside.trans (aside_setAccount _ _) fun _ => .bind Aside.trans (.lift Aside.refl _)
        fun _ => .bind Aside.trans (aside_setAccount _ _) fun _ => aside_setMem _)

/-- The write of one account leaves the copies of the others as they are. -/
theorem aside_writeAccountBatch (mode : WriteMode) (navs : List NAVHistory) :
    Within (Aside account) (writeAccountBatch account mode navs) :=
  .bind Aside.trans aside_existingRowsForWrite fun _ =>
    .bind Aside.trans (aside_updateStage _ _) fun _ =>
      .bind Aside.trans (aside_createStage _ _ _) fun _ =>
        .bind Aside.trans (aside_applyNavRows _ _) fun _ => .pure Aside.refl _

end

end PortfolioManagement.Nav
