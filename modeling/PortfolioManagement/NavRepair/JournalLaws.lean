import PortfolioManagement.NavRepair.Journal

/-!
# What a journal says

The view of a journal keeps the plan of its first line; a row has the status that a line gave it, or none
has. An append that gets anywhere leaves the lines that were there, but for an unended last one.
-/

namespace PortfolioManagement.NavRepair

open Nav
open Prog (Spec)

/-! ## Lines -/

namespace JournalFile

variable {file : JournalFile} {event e : JournalEvent} {extent : Extent}

theorem mem_lines_of_mem_events (h : e ∈ file.events) : e ∈ file.lines := by
  unfold lines
  cases file.tail with
  | empty => exact h
  | torn => exact h
  | unended _ => exact List.mem_append_left _ h

/-- The ended lines after an append. -/
theorem events_append : (file.append event extent).events =
    if extent = .whole then file.events ++ [event] else file.events := by
  cases extent <;> rfl

/-- The lines after an append: those before it, the ended ones of them, or these and the new one. -/
theorem lines_append (file : JournalFile) (event : JournalEvent) (extent : Extent) :
    (file.append event extent).lines = file.lines ∨ (file.append event extent).lines = file.events ∨
      (file.append event extent).lines = file.events ++ [event] := by
  cases extent with
  | nothing => exact .inl rfl
  | truncated => exact .inr (.inl rfl)
  | torn => exact .inr (.inl rfl)
  | unended => exact .inr (.inr rfl)
  | whole => exact .inr (.inr rfl)

theorem mem_lines_append (h : e ∈ (file.append event extent).lines) : e ∈ file.lines ∨ e = event := by
  rcases lines_append file event extent with hl | hl | hl
  · exact .inl (hl ▸ h)
  · exact .inl (mem_lines_of_mem_events (hl ▸ h))
  · rcases List.mem_append.mp (hl ▸ h) with hold | hnew
    · exact .inl (mem_lines_of_mem_events hold)
    · exact .inr (List.mem_singleton.mp hnew)

/-- The first line stays. -/
theorem head_append {rest : List JournalEvent} (h : file.events = e :: rest) :
    ∃ rest', (file.append event extent).events = e :: rest' := by
  rw [events_append, h]
  split
  · exact ⟨rest ++ [event], rfl⟩
  · exact ⟨rest, rfl⟩

theorem head_lines {rest : List JournalEvent} (h : file.events = e :: rest) :
    ∃ rest', file.lines = e :: rest' := by
  unfold lines
  rw [h]
  cases file.tail with
  | empty => exact ⟨rest, rfl⟩
  | torn => exact ⟨rest, rfl⟩
  | unended last => exact ⟨rest ++ [last], rfl⟩

end JournalFile

/-! ## Views -/

section
variable {plan : PatchPlan} {view view' : JournalView} {event : JournalEvent}
  {events : List JournalEvent}

theorem checkJournalPlan_ok (h : checkJournalPlan plan = .ok ()) :
    plan.rows ≠ [] ∧ (plan.rows.map (·.recordId)).Nodup ∧ (plan.rows.map (·.date)).Nodup := by
  unfold checkJournalPlan at h
  by_cases hrows : plan.rows = []
  · rw [if_pos hrows] at h
    cases h
  · rw [if_neg hrows] at h
    by_cases hids : ¬ ((plan.rows.map (·.recordId)).Nodup ∧ (plan.rows.map (·.date)).Nodup)
    · rw [if_pos hids] at h
      cases h
    · obtain ⟨hrecords, hdates⟩ := not_not.mp hids
      exact ⟨hrows, hrecords, hdates⟩

/-- What a line changes. -/
structure StepsView (event : JournalEvent) (view view' : JournalView) : Prop where
  plan : view'.plan = view.plan
  targets : view'.rows.map (·.target) = view.rows.map (·.target)
  statuses : ∀ row' ∈ view'.rows, (∃ row ∈ view.rows, row.target = row'.target ∧
    row.status = row'.status) ∨ ∃ a, event = .row row'.target.recordId row'.status a

theorem JournalView.step_ok (h : view.step event = .ok view') : StepsView event view view' := by
  cases event with
  | planned plan =>
    cases h
    exact ⟨rfl, rfl, fun row hrow => .inl ⟨row, hrow, rfl, rfl⟩⟩
  | state s =>
    cases h
    exact ⟨rfl, rfl, fun row hrow => .inl ⟨row, hrow, rfl, rfl⟩⟩
  | row recordId status a =>
    simp only [JournalView.step] at h
    split at h
    · cases h
      refine ⟨rfl, ?_, fun row' hrow' => ?_⟩
      · rw [List.map_map]
        refine List.map_congr_left fun row _ => ?_
        rw [Function.comp_apply]
        split <;> rfl
      · obtain ⟨row, hrow, rfl⟩ := List.mem_map.mp hrow'
        by_cases hid : row.target.recordId = recordId
        · rw [if_pos hid]
          exact .inr ⟨a, by rw [← hid]⟩
        · rw [if_neg hid]
          exact .inl ⟨row, hrow, rfl, rfl⟩
    · cases h

theorem foldSteps_ok (h : events.foldlM JournalView.step view = .ok view') :
    view'.plan = view.plan ∧ view'.rows.map (·.target) = view.rows.map (·.target) ∧
      ∀ row' ∈ view'.rows, (∃ row ∈ view.rows, row.target = row'.target ∧ row.status = row'.status) ∨
        ∃ a, .row row'.target.recordId row'.status a ∈ events := by
  induction events generalizing view with
  | nil =>
    cases h
    exact ⟨rfl, rfl, fun row hrow => .inl ⟨row, hrow, rfl, rfl⟩⟩
  | cons event events ih =>
    rw [List.foldlM_cons] at h
    obtain ⟨middle, hfirst, hrest⟩ := except_bind_ok h
    have hstep := JournalView.step_ok hfirst
    obtain ⟨hplan, htargets, hstatuses⟩ := ih hrest
    refine ⟨hplan.trans hstep.plan, htargets.trans hstep.targets, fun row' hrow' => ?_⟩
    rcases hstatuses row' hrow' with ⟨row, hrow, htarget, hstatus⟩ | ⟨a, hmem⟩
    · rcases hstep.statuses row hrow with ⟨row₀, hrow₀, htarget₀, hstatus₀⟩ | ⟨a, rfl⟩
      · exact .inl ⟨row₀, hrow₀, htarget₀.trans htarget, hstatus₀.trans hstatus⟩
      · refine .inr ⟨a, ?_⟩
        rw [htarget, hstatus]
        exact List.mem_cons_self
    · exact .inr ⟨a, List.mem_cons_of_mem _ hmem⟩

/-- The view of lines that begin with a plan. -/
structure ReadView (plan : PatchPlan) (events : List JournalEvent) (view : JournalView) : Prop where
  /-- the plan passed its checks -/
  checked : checkJournalPlan plan = .ok ()
  /-- it is the plan of the view -/
  planned : view.plan = plan
  /-- its rows -/
  targets : view.rows.map (·.target) = plan.rows
  /-- their statuses come from lines -/
  statuses : ∀ row ∈ view.rows, row.status = .pending ∨
    ∃ a, .row row.target.recordId row.status a ∈ events

theorem readLines_ok (h : readLines (.planned plan :: events) = .ok view) :
    ReadView plan (.planned plan :: events) view := by
  unfold readLines at h
  obtain ⟨u, hchecked, h⟩ := except_bind_ok h
  obtain ⟨hplan, htargets, hstatuses⟩ := foldSteps_ok h
  refine ⟨hchecked, hplan, ?_, fun row hrow => ?_⟩
  · rw [htargets]
    unfold JournalView.start
    rw [List.map_map]
    exact List.map_id _
  · rcases hstatuses row hrow with ⟨row₀, hrow₀, -, hstatus⟩ | ⟨a, hmem⟩
    · obtain ⟨target, -, rfl⟩ := List.mem_map.mp hrow₀
      exact .inl hstatus.symm
    · exact .inr ⟨a, List.mem_cons_of_mem _ hmem⟩

theorem ReadView.mem_plan {row : JournalRow} (h : ReadView plan events view) (hrow : row ∈ view.rows) :
    row.target ∈ plan.rows := by
  rw [← h.targets]
  exact List.mem_map.mpr ⟨row, hrow, rfl⟩

end

/-! ## Steps of a command -/

section
variable {R : PatchWorld → PatchWorld → Prop} {P Q : PatchWorld → Prop} {E : PatchStop → PatchWorld → Prop}

/-- The rule of the next step. -/
theorem nextTurn_spec {R' : PatchWorld → PatchWorld → Prop}
    (hdone : ∀ w, P w → w.turns = [] → Q w)
    (hturn : ∀ w turn rest, P w → w.turns = turn :: rest →
      R' w { w with sheet := turn.edit w.sheet, turns := rest } ∧
        Q { w with sheet := turn.edit w.sheet, turns := rest }) :
    Spec R' P nextTurn (fun _ => Q) E := by
  intro w hw
  unfold nextTurn
  cases hturns : w.turns with
  | nil => exact ⟨.refl, hdone w hw hturns⟩
  | cons turn rest =>
    obtain ⟨hstep, hq⟩ := hturn w turn rest hw hturns
    exact ⟨.single hstep, hq⟩

/-- The rule of `except Exception`. -/
theorem attempt_spec {α : Type} {m : PatchProg α} {T : α → PatchWorld → Prop} {I : PatchWorld → Prop}
    (h : Spec R P m T (fun _ => I)) :
    Spec R P (attempt m) (fun r w => Prog.EndsIn T (fun _ => I) (r, w)) (fun _ => I) := by
  unfold attempt
  refine Spec.rescue (F := fun _ => I) (Spec.bind h fun a => Spec.ret fun w hw => hw) fun stop => ?_
  cases stop with
  | raised refusal => exact Spec.ret fun w hw => hw
  | exits exit => exact Spec.raise fun w hw => hw
  | ended => exact Spec.raise fun w hw => hw

end

end PortfolioManagement.NavRepair
