import Mathlib.Data.List.Basic

/-!
# Runs of a state machine

A machine takes labelled steps, and a step that is not enabled gives no state. What every step keeps
holds after every run (`run_invariant`), also when only the steps of some labels keep it
(`run_invariant_of`) or the steps that meet a condition (`run_invariant_always`), and a relation that is reflexive, transitive and holds across every step holds
across every run (`run_relates`).
-/

namespace PortfolioManagement.Machine

variable {σ α : Type} {step : σ → α → Option σ}

/-- The state after a run, when every step is enabled. -/
def run (step : σ → α → Option σ) : List α → σ → Option σ
  | [], s => some s
  | a :: acts, s => (step s a).bind (run step acts)

theorem run_cons {a : α} {acts : List α} {s s' : σ} :
    run step (a :: acts) s = some s' ↔ ∃ s₁, step s a = some s₁ ∧ run step acts s₁ = some s' :=
  Option.bind_eq_some_iff

theorem run_append {acts acts' : List α} {s s' : σ} :
    run step (acts ++ acts') s = some s' ↔
      ∃ s₁, run step acts s = some s₁ ∧ run step acts' s₁ = some s' := by
  induction acts generalizing s with
  | nil => simp [run]
  | cons a acts ih =>
    rw [List.cons_append, run_cons]
    constructor
    · rintro ⟨s₁, hstep, hrun⟩
      obtain ⟨s₂, hfirst, hrest⟩ := ih.mp hrun
      exact ⟨s₂, run_cons.mpr ⟨s₁, hstep, hfirst⟩, hrest⟩
    · rintro ⟨s₂, hfirst, hrest⟩
      obtain ⟨s₁, hstep, hrun⟩ := run_cons.mp hfirst
      exact ⟨s₁, hstep, ih.mpr ⟨s₂, hrun, hrest⟩⟩

/-- What every step with one of some labels keeps, a run of such steps keeps. -/
theorem run_invariant_of {I : σ → Prop} {K : α → Prop}
    (hkeeps : ∀ s a s', K a → I s → step s a = some s' → I s') {acts : List α}
    (hacts : ∀ a ∈ acts, K a) {s s' : σ} (hrun : run step acts s = some s') (hs : I s) : I s' := by
  induction acts generalizing s with
  | nil =>
    cases hrun
    exact hs
  | cons a acts ih =>
    obtain ⟨s₁, hstep, hrest⟩ := run_cons.mp hrun
    have hs₁ := hkeeps s a s₁ (hacts a List.mem_cons_self) hs hstep
    exact ih (fun a' ha' => hacts a' (List.mem_cons_of_mem _ ha')) hrest hs₁

/-- What every step keeps, every run keeps. -/
theorem run_invariant {I : σ → Prop} (hkeeps : ∀ s a s', I s → step s a = some s' → I s')
    {acts : List α} {s s' : σ} (hrun : run step acts s = some s') (hs : I s) : I s' :=
  run_invariant_of (K := fun _ => True) (fun s a s' _ => hkeeps s a s') (fun _ _ => trivial) hrun hs

/-- Every step of a run meets a condition on the state it starts from. -/
def Always (step : σ → α → Option σ) (K : σ → α → Prop) : List α → σ → Prop
  | [], _ => True
  | a :: acts, s => K s a ∧ ∀ s' ∈ step s a, Always step K acts s'

instance Always.decide {K : σ → α → Prop} [∀ s a, Decidable (K s a)] :
    (acts : List α) → (s : σ) → Decidable (Always step K acts s)
  | [], _ => .isTrue trivial
  | a :: acts, s =>
    have (s' : σ) : Decidable (Always step K acts s') := Always.decide acts s'
    inferInstanceAs (Decidable (K s a ∧ ∀ s' ∈ step s a, Always step K acts s'))

/-- What every step that meets a condition keeps, a run of such steps keeps. -/
theorem run_invariant_always {I : σ → Prop} {K : σ → α → Prop}
    (hkeeps : ∀ s a s', K s a → I s → step s a = some s' → I s') {acts : List α} {s s' : σ}
    (hacts : Always step K acts s) (hrun : run step acts s = some s') (hs : I s) : I s' := by
  induction acts generalizing s with
  | nil =>
    cases hrun
    exact hs
  | cons a acts ih =>
    obtain ⟨s₁, hstep, hrest⟩ := run_cons.mp hrun
    exact ih (hacts.2 s₁ hstep) hrest (hkeeps s a s₁ hacts.1 hs hstep)

/-- A preorder that holds across the steps from states with an invariant holds across their runs. -/
theorem run_relates {I : σ → Prop} {R : σ → σ → Prop} (hrefl : ∀ s, R s s)
    (htrans : ∀ s s₁ s', R s s₁ → R s₁ s' → R s s')
    (hkeeps : ∀ s a s', I s → step s a = some s' → I s')
    (hstep : ∀ s a s', I s → step s a = some s' → R s s') {acts : List α} {s s' : σ}
    (hrun : run step acts s = some s') (hs : I s) : R s s' := by
  induction acts generalizing s with
  | nil =>
    cases hrun
    exact hrefl _
  | cons a acts ih =>
    obtain ⟨s₁, hfirst, hrest⟩ := run_cons.mp hrun
    exact htrans _ s₁ s' (hstep _ a s₁ hs hfirst) (ih hrest (hkeeps _ a s₁ hs hfirst))

end PortfolioManagement.Machine
