import PortfolioManagement.Lib.Keyed

/-!
# Rows with distinct keys

A table whose rows have distinct keys is read by key (`rowWith`), turned into a dict that refuses a
second row of a key (`keyedBy`), and written by upserts: the row of a key is merged with what is written
or created. After upserts of distinct keys every key has the row that its own upsert leaves
(`rowWith_upsertAll`).
-/

namespace PortfolioManagement

section
variable {α β κ ε : Type} [DecidableEq κ] {f : α → κ}

/-- The first row with a key. -/
def rowWith (f : α → κ) (k : κ) (rows : List α) : Option α := rows.find? fun row => f row = k

theorem mem_of_rowWith {rows : List α} {k : κ} {row : α} (h : rowWith f k rows = some row) :
    row ∈ rows ∧ f row = k :=
  ⟨List.mem_of_find?_eq_some h, by simpa using List.find?_some h⟩

theorem rowWith_cons (row : α) (rows : List α) (k : κ) :
    rowWith f k (row :: rows) = if f row = k then some row else rowWith f k rows := by
  unfold rowWith
  rw [List.find?_cons]
  by_cases h : f row = k
  · rw [if_pos h, decide_eq_true h]
  · rw [if_neg h, decide_eq_false h]

theorem rowWith_eq_none {rows : List α} {k : κ} : rowWith f k rows = none ↔ k ∉ rows.map f := by
  unfold rowWith
  rw [List.find?_eq_none, List.mem_map]
  simp only [decide_eq_true_eq, not_exists, not_and]

theorem rowWith_of_mem {rows : List α} (h : (rows.map f).Nodup) {row : α} (hrow : row ∈ rows) :
    rowWith f (f row) rows = some row := by
  cases hfound : rowWith f (f row) rows with
  | none => exact absurd (List.mem_map_of_mem hrow) (rowWith_eq_none.mp hfound)
  | some found =>
    obtain ⟨hmem, hkey⟩ := mem_of_rowWith hfound
    rw [eq_of_key_eq h hmem hrow hkey]

/-- The row with a key of the rows that pass a test. -/
theorem rowWith_filter {rows : List α} (h : (rows.map f).Nodup) (test : α → Bool) (k : κ) :
    rowWith f k (rows.filter test) = (rowWith f k rows).filter test := by
  induction rows with
  | nil => rfl
  | cons row rows ih =>
    rw [List.map_cons, List.nodup_cons] at h
    rw [rowWith_cons, List.filter_cons]
    by_cases hkey : f row = k
    · rw [if_pos hkey]
      cases htest : test row with
      | true => rw [if_pos rfl, rowWith_cons, if_pos hkey, Option.filter_some, if_pos htest]
      | false =>
        have hrest : rowWith f k rows = none := rowWith_eq_none.mpr (hkey ▸ h.1)
        rw [if_neg Bool.false_ne_true, ih h.2, hrest, Option.filter_some, htest]
        rfl
    · rw [if_neg hkey]
      cases htest : test row with
      | true => rw [if_pos rfl, rowWith_cons, if_neg hkey, ih h.2]
      | false => rw [if_neg Bool.false_ne_true, ih h.2]

/-- The row with a key, when a coarser key of some rows decides it. -/
theorem rowWith_congr {κ' : Type} [DecidableEq κ'] {g : α → κ'} {rows : List α} {k : κ} {k' : κ'}
    (h : ∀ row ∈ rows, f row = k ↔ g row = k') : rowWith f k rows = rowWith g k' rows := by
  induction rows with
  | nil => rfl
  | cons row rows ih =>
    rw [rowWith_cons, rowWith_cons, ih fun r hr => h r (List.mem_cons_of_mem _ hr)]
    simp only [h row List.mem_cons_self]

/-! ## Dicts -/

/-- The dict of the rows by key, which a second row of a key keeps from being built. -/
def keyedBy (f : α → κ) (error : κ → ε) : List α → Items κ α → Except ε (Items κ α)
  | [], d => .ok d
  | row :: rows, d =>
    if (d.lookup (f row)).isSome then .error (error (f row))
    else keyedBy f error rows (d ++ [(f row, row)])

theorem lookup_keyed (rows : List α) (k : κ) :
    List.lookup k (rows.map fun row => (f row, row)) = rowWith f k rows := by
  induction rows with
  | nil => rfl
  | cons row rows ih => rw [List.map_cons, Items.lookup_cons, rowWith_cons, ih]

theorem isSome_lookup_iff {d : Items κ α} {k : κ} : (d.lookup k).isSome ↔ k ∈ d.map Prod.fst := by
  constructor
  · intro h
    by_contra hmem
    rw [Items.lookup_eq_none hmem] at h
    cases h
  · intro h
    obtain ⟨⟨k', row⟩, hitem, rfl⟩ := List.mem_map.mp h
    cases hlookup : d.lookup k' with
    | some _ => rfl
    | none =>
      rw [List.lookup_eq_none_iff] at hlookup
      exact absurd (beq_self_eq_true k') (by simpa using hlookup _ hitem)

/-- The dict holds the rows in order, and their keys are distinct. -/
theorem keyedBy_append_ok {error : κ → ε} {rows : List α} {d d' : Items κ α}
    (h : keyedBy f error rows d = .ok d') :
    d' = d ++ rows.map (fun row => (f row, row)) ∧ (rows.map f).Nodup ∧
      ∀ row ∈ rows, f row ∉ d.map Prod.fst := by
  induction rows generalizing d with
  | nil =>
    cases h
    exact ⟨(List.append_nil _).symm, List.nodup_nil, fun _ h => by cases h⟩
  | cons row rows ih =>
    unfold keyedBy at h
    split at h
    · cases h
    · next hnew =>
      obtain ⟨hd, hnodup, hfresh⟩ := ih h
      have hrow : f row ∉ d.map Prod.fst := fun hmem => hnew (isSome_lookup_iff.mpr hmem)
      refine ⟨?_, ?_, ?_⟩
      · rw [hd, List.append_assoc]
        rfl
      · rw [List.map_cons, List.nodup_cons]
        refine ⟨fun hmem => ?_, hnodup⟩
        obtain ⟨other, hother, hkey⟩ := List.mem_map.mp hmem
        refine hfresh other hother ?_
        rw [hkey, List.map_append]
        exact List.mem_append_right _ (List.mem_singleton_self _)
      · intro other hother
        rcases List.mem_cons.mp hother with rfl | hother
        · exact hrow
        · intro hmem
          refine hfresh other hother ?_
          rw [List.map_append]
          exact List.mem_append_left _ hmem

theorem keyedBy_ok {error : κ → ε} {rows : List α} {d : Items κ α}
    (h : keyedBy f error rows [] = .ok d) :
    d = rows.map (fun row => (f row, row)) ∧ (rows.map f).Nodup := by
  obtain ⟨hd, hnodup, -⟩ := keyedBy_append_ok h
  exact ⟨hd, hnodup⟩

theorem keyedBy_of_fresh (error : κ → ε) {rows : List α} {d : Items κ α} (h : (rows.map f).Nodup)
    (hfresh : ∀ row ∈ rows, f row ∉ d.map Prod.fst) :
    keyedBy f error rows d = .ok (d ++ rows.map fun row => (f row, row)) := by
  induction rows generalizing d with
  | nil => rw [keyedBy, List.map_nil, List.append_nil]
  | cons row rows ih =>
    rw [List.map_cons, List.nodup_cons] at h
    have hrow : f row ∉ d.map Prod.fst := hfresh row List.mem_cons_self
    unfold keyedBy
    rw [if_neg fun hsome => hrow (isSome_lookup_iff.mp hsome), ih h.2, List.append_assoc]
    · rfl
    · intro other hother
      rw [List.map_append, List.mem_append]
      rintro (hmem | hmem)
      · exact hfresh other (List.mem_cons_of_mem _ hother) hmem
      · have hsame : f other = f row := by simpa using hmem
        exact h.1 (hsame ▸ List.mem_map_of_mem hother)

theorem keyedBy_of_nodup (error : κ → ε) {rows : List α} (h : (rows.map f).Nodup) :
    keyedBy f error rows [] = .ok (rows.map fun row => (f row, row)) :=
  keyedBy_of_fresh error h fun _ _ hmem => by cases hmem

/-- Rows with distinct keys are gathered as they are. -/
theorem lookup_gather_of_nodup {rows : List α} (h : (rows.map f).Nodup) (k : κ) :
    (gather f rows).lookup k = rowWith f k rows := by
  rw [lookup_gather]
  cases hrow : rowWith f k rows with
  | none =>
    have hnone : (rows.filter fun row => f row = k) = [] := by
      refine List.filter_eq_nil_iff.mpr fun row hmem hkey => rowWith_eq_none.mp hrow ?_
      exact List.mem_map.mpr ⟨row, hmem, by simpa using hkey⟩
    rw [hnone]
    rfl
  | some row =>
    obtain ⟨hmem, rfl⟩ := mem_of_rowWith hrow
    rw [filter_key_of_nodup h hmem]
    rfl

/-! ## Upserts -/

/-- How a table is written by key. -/
structure Upsert (α β κ : Type) where
  /-- the key of a row -/
  key : α → κ
  /-- the key of what is written -/
  target : β → κ
  /-- the row of the key afterwards -/
  merge : β → α → α
  /-- the row that is created -/
  create : β → α
  /-- merging keeps the key -/
  key_merge : ∀ b row, key (merge b row) = key row
  /-- the created row has the key -/
  key_create : ∀ b, key (create b) = target b

namespace Upsert

variable (u : Upsert α β κ)

/-- One write. -/
def write (b : β) (rows : List α) : List α :=
  if u.target b ∈ rows.map u.key then
    rows.map fun row => if u.key row = u.target b then u.merge b row else row
  else rows ++ [u.create b]

/-- The writes, one after the other. -/
def writeAll (bs : List β) (rows : List α) : List α := bs.foldl (fun rows b => u.write b rows) rows

/-- What one write leaves under its key. -/
def outcome (b : β) (row : Option α) : α := row.elim (u.create b) (u.merge b)

theorem rowWith_write (b : β) (rows : List α) (k : κ) :
    rowWith u.key k (u.write b rows) =
      if u.target b = k then some (u.outcome b (rowWith u.key k rows)) else rowWith u.key k rows := by
  have hmap : ∀ rows : List α,
      rowWith u.key k (rows.map fun row => if u.key row = u.target b then u.merge b row else row) =
        if u.target b = k then (rowWith u.key k rows).map (u.merge b) else rowWith u.key k rows := by
    intro rows
    induction rows with
    | nil => simp [rowWith]
    | cons row rows ih =>
      have hkey : u.key (if u.key row = u.target b then u.merge b row else row) = u.key row := by
        split
        · exact u.key_merge b row
        · rfl
      rw [List.map_cons, rowWith_cons, rowWith_cons, ih, hkey]
      by_cases hrow : u.key row = k
      · subst hrow
        simp only [if_true]
        by_cases htarget : u.target b = u.key row
        · rw [if_pos htarget.symm, if_pos htarget]
          rfl
        · rw [if_neg (Ne.symm htarget), if_neg htarget]
      · rw [if_neg hrow, if_neg hrow]
  unfold write
  split
  · next hmem =>
    rw [hmap]
    by_cases htarget : u.target b = k
    · rw [if_pos htarget, if_pos htarget]
      cases hrow : rowWith u.key k rows with
      | none => exact absurd (htarget ▸ hmem) (rowWith_eq_none.mp hrow)
      | some row => rfl
    · rw [if_neg htarget, if_neg htarget]
  · next hnone =>
    by_cases htarget : u.target b = k
    · subst htarget
      have hrow : rowWith u.key (u.target b) rows = none := rowWith_eq_none.mpr hnone
      rw [if_pos rfl, hrow]
      unfold rowWith at hrow ⊢
      rw [List.find?_append, hrow, Option.none_or, List.find?_cons, decide_eq_true (u.key_create b)]
      rfl
    · rw [if_neg htarget]
      have hother : decide (u.key (u.create b) = k) = false :=
        decide_eq_false (u.key_create b ▸ htarget)
      unfold rowWith
      rw [List.find?_append, List.find?_cons, hother, List.find?_nil, Option.or_none]

theorem nodup_write {rows : List α} (h : (rows.map u.key).Nodup) (b : β) :
    ((u.write b rows).map u.key).Nodup := by
  unfold write
  split
  · have hkeys : (rows.map fun row => if u.key row = u.target b then u.merge b row else row).map u.key =
        rows.map u.key := by
      rw [List.map_map]
      refine List.map_congr_left fun row _ => ?_
      show u.key (if _ then _ else _) = _
      split
      · exact u.key_merge b row
      · rfl
    rwa [hkeys]
  · next hnone =>
    rw [List.map_append, List.map_singleton, u.key_create]
    exact h.append (List.nodup_singleton _) (List.disjoint_singleton.mpr hnone)

theorem nodup_writeAll {rows : List α} (h : (rows.map u.key).Nodup) (bs : List β) :
    ((u.writeAll bs rows).map u.key).Nodup := by
  induction bs generalizing rows with
  | nil => exact h
  | cons b bs ih => exact ih (u.nodup_write h b)

/-- After writes of distinct keys every key has what its own write leaves. -/
theorem rowWith_writeAll {bs : List β} (h : (bs.map u.target).Nodup) (rows : List α) (k : κ) :
    rowWith u.key k (u.writeAll bs rows) =
      (rowWith u.target k bs).elim (rowWith u.key k rows) fun b =>
        some (u.outcome b (rowWith u.key k rows)) := by
  induction bs generalizing rows with
  | nil => rfl
  | cons b bs ih =>
    rw [List.map_cons, List.nodup_cons] at h
    show rowWith u.key k (u.writeAll bs (u.write b rows)) = _
    rw [ih h.2, rowWith_write, rowWith_cons]
    by_cases htarget : u.target b = k
    · have hrest : rowWith u.target k bs = none := rowWith_eq_none.mpr (htarget ▸ h.1)
      rw [hrest, if_pos htarget, if_pos htarget]
      rfl
    · rw [if_neg htarget, if_neg htarget]

end Upsert

end

end PortfolioManagement
