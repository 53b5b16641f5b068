import Mathlib.Data.List.Pairwise
import PortfolioManagement.Effect.Gate
import PortfolioManagement.Lib.Lists

/-!
# The version table

How the two writes of the table, a new version and a change of one row's columns, act on what is
read from it: the row of an id, the latest row of a chain, and the newest applied row of a chain.
-/

namespace PortfolioManagement

namespace EffectTable

variable {t : EffectTable} {k : EffectKey} {e a b : Effect} {id : Nat}
  {f : EffectColumns → EffectColumns}

/-! ## Rows, ids and versions -/

/-- An id names one row. -/
theorem eq_of_id_eq (ha : a ∈ t.rows) (hb : b ∈ t.rows) (h : a.id = b.id) : a = b := by
  by_contra hne
  have hids : t.rows.Pairwise fun a b => a.id ≠ b.id := t.ids.imp fun hlt => Nat.ne_of_gt hlt
  have : Std.Symm fun a b : Effect => a.id ≠ b.id := ⟨fun _ _ h => h.symm⟩
  exact hids.forall ha hb hne h

theorem mem_of_get (h : t.get id = some e) : e ∈ t.rows := List.mem_of_find?_eq_some h

theorem id_of_get (h : t.get id = some e) : e.id = id := by simpa using List.find?_some h

theorem get_of_mem (h : e ∈ t.rows) : t.get e.id = some e := by
  cases hget : t.get e.id with
  | none => exact absurd (decide_eq_true rfl) (List.find?_eq_none.mp hget e h)
  | some a => rw [eq_of_id_eq (mem_of_get hget) h (id_of_get hget)]

theorem get_of_latest (h : t.latest k = some e) : t.get e.id = some e :=
  get_of_mem (mem_of_latest h)

/-- Latest rows of different chains have different ids. -/
theorem key_eq_of_latest_id (ha : t.latest k = some a) {k' : EffectKey}
    (hb : t.latest k' = some b) (h : a.id = b.id) : k = k' := by
  rw [← key_of_latest ha, ← key_of_latest hb,
    eq_of_id_eq (mem_of_latest ha) (mem_of_latest hb) h]

/-! ## The newest applied version -/

/-- The newest applied row of a chain. -/
def lastApplied (t : EffectTable) (k : EffectKey) : Option Effect :=
  t.rows.find? fun e => e.key = k && e.state = .applied

theorem mem_of_lastApplied (h : t.lastApplied k = some e) : e ∈ t.rows :=
  List.mem_of_find?_eq_some h

theorem key_of_lastApplied (h : t.lastApplied k = some e) : e.key = k := by
  have := List.find?_some h
  simp only [Bool.and_eq_true, decide_eq_true_eq] at this
  exact this.1

theorem state_of_lastApplied (h : t.lastApplied k = some e) : e.state = .applied := by
  have := List.find?_some h
  simp only [Bool.and_eq_true, decide_eq_true_eq] at this
  exact this.2

/-- An applied latest row is the newest applied row. -/
theorem lastApplied_of_latest (h : t.latest k = some e) (hs : e.state = .applied) :
    t.lastApplied k = some e := by
  obtain ⟨hek, newer, older, hrows, hnewer⟩ := List.find?_eq_some_iff_append.mp h
  refine List.find?_eq_some_iff_append.mpr ⟨?_, newer, older, hrows, fun a ha => ?_⟩
  · simpa [hs] using hek
  · have hne : a.key ≠ k := by simpa using hnewer a ha
    simp [hne]

/-! ## Changing the columns of a row -/

@[simp] theorem rows_modify :
    (t.modify id f).rows = t.rows.map fun e => if e.id = id then e.withColumns f else e := rfl

@[simp] theorem nextId_modify : (t.modify id f).nextId = t.nextId := rfl

theorem get_modify (j : Nat) :
    (t.modify id f).get j =
      (t.get j).map fun e => if e.id = id then e.withColumns f else e := by
  unfold get
  rw [rows_modify, List.find?_map]
  congr 2
  funext e
  simp only [Function.comp_apply]
  split <;> rfl

theorem get_modify_self (h : t.get id = some e) :
    (t.modify id f).get id = some (e.withColumns f) := by
  rw [get_modify, h, Option.map_some, if_pos (id_of_get h)]

theorem get_modify_ne {j : Nat} (h : j ≠ id) : (t.modify id f).get j = t.get j := by
  rw [get_modify]
  cases hget : t.get j with
  | none => rfl
  | some e => rw [Option.map_some, if_neg (id_of_get hget ▸ h)]

theorem latest_modify (k : EffectKey) :
    (t.modify id f).latest k =
      (t.latest k).map fun e => if e.id = id then e.withColumns f else e := by
  unfold latest
  rw [rows_modify, List.find?_map]
  congr 2
  funext e
  simp only [Function.comp_apply]
  split <;> rfl

theorem latest_modify_self (h : t.latest k = some e) :
    (t.modify e.id f).latest k = some (e.withColumns f) := by
  rw [latest_modify, h, Option.map_some, if_pos rfl]

/-- Changing a row leaves the latest rows of other chains alone. -/
theorem latest_modify_ne (he : e ∈ t.rows) (h : e.key ≠ k) :
    (t.modify e.id f).latest k = t.latest k := by
  rw [latest_modify]
  cases hl : t.latest k with
  | none => rfl
  | some a =>
    have hne : a.id ≠ e.id := fun hid =>
      h (eq_of_id_eq (mem_of_latest hl) he hid ▸ key_of_latest hl)
    rw [Option.map_some, if_neg hne]

/-- A change that neither takes a row out of `applied` nor into it keeps the newest applied rows. -/
theorem lastApplied_modify (he : e ∈ t.rows) (h1 : e.state ≠ .applied)
    (h2 : (f e.columns).state ≠ .applied) (k : EffectKey) :
    (t.modify e.id f).lastApplied k = t.lastApplied k := by
  unfold lastApplied
  rw [rows_modify, List.find?_map]
  have hcongr : t.rows.find? ((fun a => decide (a.key = k) && decide (a.state = .applied)) ∘
      fun a => if a.id = e.id then a.withColumns f else a) =
      t.rows.find? fun a => decide (a.key = k) && decide (a.state = .applied) := by
    refine find?_congr_mem fun a ha => ?_
    simp only [Function.comp_apply]
    by_cases hid : a.id = e.id
    · have := eq_of_id_eq ha he hid
      subst this
      rw [if_pos rfl]
      simp [h1, h2]
    · rw [if_neg hid]
  rw [hcongr]
  cases hfind : t.rows.find? fun a => decide (a.key = k) && decide (a.state = .applied) with
  | none => rfl
  | some a =>
    have hstate : a.state = .applied := state_of_lastApplied (t := t) (k := k) hfind
    have hne : a.id ≠ e.id := fun hid =>
      h1 (eq_of_id_eq (List.mem_of_find?_eq_some hfind) he hid ▸ hstate)
    rw [Option.map_some, if_neg hne]

/-- A change of a row leaves the newest applied rows of other chains alone. -/
theorem lastApplied_modify_ne (he : e ∈ t.rows) (h : e.key ≠ k) :
    (t.modify e.id f).lastApplied k = t.lastApplied k := by
  unfold lastApplied
  rw [rows_modify, List.find?_map]
  have hcongr : t.rows.find? ((fun a => decide (a.key = k) && decide (a.state = .applied)) ∘
      fun a => if a.id = e.id then a.withColumns f else a) =
      t.rows.find? fun a => decide (a.key = k) && decide (a.state = .applied) := by
    refine find?_congr_mem fun a ha => ?_
    simp only [Function.comp_apply]
    by_cases hid : a.id = e.id
    · have := eq_of_id_eq ha he hid
      subst this
      rw [if_pos rfl]
      simp [h]
    · rw [if_neg hid]
  rw [hcongr]
  cases hfind : t.rows.find? fun a => decide (a.key = k) && decide (a.state = .applied) with
  | none => rfl
  | some a =>
    have hkey : a.key = k := key_of_lastApplied (t := t) hfind
    have hne : a.id ≠ e.id := fun hid =>
      h (eq_of_id_eq (List.mem_of_find?_eq_some hfind) he hid ▸ hkey)
    rw [Option.map_some, if_neg hne]

/-- The latest row that becomes applied is the newest applied row. -/
theorem lastApplied_modify_latest (h : t.latest k = some e)
    (hs : (e.withColumns f).state = .applied) :
    (t.modify e.id f).lastApplied k = some (e.withColumns f) :=
  lastApplied_of_latest (latest_modify_self h) hs

/-! ## A new version -/

variable {kind : EffectKind} {source : Source} {mode : EffectMode} {state : EffectState}

@[simp] theorem id_newRow : (t.newRow kind source mode state).id = t.nextId := rfl
@[simp] theorem kind_newRow : (t.newRow kind source mode state).kind = kind := rfl
@[simp] theorem source_newRow : (t.newRow kind source mode state).source = source := rfl
@[simp] theorem mode_newRow : (t.newRow kind source mode state).mode = mode := rfl
@[simp] theorem state_newRow : (t.newRow kind source mode state).state = state := rfl
@[simp] theorem key_newRow :
    (t.newRow kind source mode state).key = ⟨kind, source.recordId⟩ := rfl

theorem get_lt_nextId (h : t.get id = some e) : id < t.nextId :=
  id_of_get h ▸ t.fresh e (mem_of_get h)

theorem get_insert (j : Nat) :
    (t.insert kind source mode state).get j =
      if j = t.nextId then some (t.newRow kind source mode state) else t.get j := by
  unfold get insert
  rw [List.find?_cons]
  by_cases h : j = t.nextId
  · simp [h]
  · have : t.nextId ≠ j := fun heq => h heq.symm
    simp [h, this]

theorem latest_insert (k : EffectKey) :
    (t.insert kind source mode state).latest k =
      if k = ⟨kind, source.recordId⟩ then some (t.newRow kind source mode state)
      else t.latest k := by
  unfold latest insert
  rw [List.find?_cons]
  by_cases h : k = ⟨kind, source.recordId⟩
  · simp [h]
  · have : (⟨kind, source.recordId⟩ : EffectKey) ≠ k := fun heq => h heq.symm
    simp [h, this]

theorem lastApplied_insert (hs : state ≠ .applied) (k : EffectKey) :
    (t.insert kind source mode state).lastApplied k = t.lastApplied k := by
  unfold lastApplied insert
  rw [List.find?_cons]
  simp [hs]

theorem supersededBy_eq_some (h : t.supersededBy k = some e) :
    t.latest k = some e ∧ e.state ∈ EffectState.unresolved := by
  unfold supersededBy at h
  rw [Option.filter_eq_some_iff] at h
  exact ⟨h.1, by simpa using h.2⟩

theorem nextId_push : (t.push kind source mode state).nextId = t.nextId + 1 := by
  unfold push
  split <;> rfl

/-- A new version is the latest of its chain; other chains keep theirs. -/
theorem latest_push (k : EffectKey) :
    (t.push kind source mode state).latest k =
      if k = ⟨kind, source.recordId⟩ then some (t.newRow kind source mode state)
      else t.latest k := by
  unfold push
  cases hs : t.supersededBy ⟨kind, source.recordId⟩ with
  | none => exact latest_insert k
  | some l =>
    have hl := (supersededBy_eq_some hs).1
    simp only
    rw [latest_modify, latest_insert]
    split
    · have hne : t.nextId ≠ l.id := Nat.ne_of_gt (t.fresh l (mem_of_latest hl))
      rw [Option.map_some, id_newRow, if_neg hne]
    · rename_i hk
      cases hlk : t.latest k with
      | none => rfl
      | some a =>
        have hne : a.id ≠ l.id := fun hid => hk (key_eq_of_latest_id hlk hl hid)
        rw [Option.map_some, if_neg hne]

/-- The row of an id after a new version: the new row, the superseded row, or the row before. -/
theorem get_push (j : Nat) :
    (t.push kind source mode state).get j =
      if j = t.nextId then some (t.newRow kind source mode state)
      else if (t.supersededBy ⟨kind, source.recordId⟩).map Effect.id = some j then
        (t.get j).map fun e => e.withColumns fun c => { c with state := .superseded }
      else t.get j := by
  unfold push
  cases hs : t.supersededBy ⟨kind, source.recordId⟩ with
  | none => simpa using get_insert j
  | some l =>
    have hl := (supersededBy_eq_some hs).1
    simp only
    rw [get_modify, get_insert]
    by_cases hj : j = t.nextId
    · have hne : t.nextId ≠ l.id := Nat.ne_of_gt (t.fresh l (mem_of_latest hl))
      simp [hj, hne]
    · rw [if_neg hj, if_neg hj, Option.map_some]
      cases hget : t.get j with
      | none => simp
      | some a =>
        have hid := id_of_get hget
        by_cases hlj : l.id = j
        · simp [hlj, hid]
        · simp [hlj, hid, Ne.symm hlj]

/-- A version that is not applied keeps the newest applied rows. -/
theorem lastApplied_push (hs : state ≠ .applied) (k : EffectKey) :
    (t.push kind source mode state).lastApplied k = t.lastApplied k := by
  unfold push
  cases hsup : t.supersededBy ⟨kind, source.recordId⟩ with
  | none => exact lastApplied_insert hs k
  | some l =>
    obtain ⟨hl, hunres⟩ := supersededBy_eq_some hsup
    have hmem : l ∈ (t.insert kind source mode state).rows :=
      List.mem_cons_of_mem _ (mem_of_latest hl)
    have hne : l.state ≠ .applied := fun h => by rw [h] at hunres; revert hunres; decide
    simp only
    rw [lastApplied_modify hmem hne (by decide : EffectState.superseded ≠ .applied),
      lastApplied_insert hs]

/-- The latest row of a list of the latest versions. -/
theorem mem_listLatest : e ∈ t.listLatest ↔ t.latest e.key = some e := by
  unfold listLatest
  rw [List.mem_insertionSort, List.mem_filter]
  constructor
  · rintro ⟨-, h⟩
    simpa using h
  · intro h
    exact ⟨mem_of_latest h, by simpa using h⟩

end EffectTable

end PortfolioManagement
