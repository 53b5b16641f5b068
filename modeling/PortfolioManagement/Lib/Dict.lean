import Mathlib.Algebra.BigOperators.Group.List.Basic
import Mathlib.Data.List.Nodup
import Mathlib.Data.List.Perm.Basic

/-!
# Dicts

Items in insertion order, as a Python `dict` keeps them: setting a key that is there replaces its
value in place, setting a new key appends. Reading an entry is `List.lookup`.
-/

namespace PortfolioManagement

/-- The items of a dict. -/
abbrev Items (κ α : Type) := List (κ × α)

namespace Items

section
variable {κ α : Type} [DecidableEq κ]

/-- `d[key] = f(d.get(key, default))`. -/
def update (f : α → α) (default : α) (key : κ) : Items κ α → Items κ α
  | [] => [(key, f default)]
  | (k, v) :: d => if k = key then (k, f v) :: d else (k, v) :: update f default key d

/-- `d[key] = value`. -/
def set (key : κ) (value : α) (d : Items κ α) : Items κ α := update (fun _ => value) value key d

theorem lookup_cons (k key : κ) (v : α) (d : Items κ α) :
    List.lookup key ((k, v) :: d) = if k = key then some v else List.lookup key d := by
  by_cases h : k = key
  · subst h
    simp
  · have hne : (key == k) = false := by simpa using Ne.symm h
    rw [List.lookup_cons, hne, if_neg h]

/-- An updated key holds the updated value, every other key what it held. -/
theorem lookup_update (f : α → α) (default : α) (key k : κ) (d : Items κ α) :
    List.lookup k (update f default key d) =
      if k = key then some (f ((List.lookup key d).getD default)) else List.lookup k d := by
  induction d with
  | nil =>
    rw [update, lookup_cons]
    by_cases h : key = k
    · rw [if_pos h, if_pos h.symm]
      simp
    · rw [if_neg h, if_neg (Ne.symm h)]
  | cons item d ih =>
    obtain ⟨k', v⟩ := item
    rw [update]
    by_cases hk' : k' = key
    · subst hk'
      rw [if_pos rfl, lookup_cons, lookup_cons, lookup_cons, if_pos rfl]
      by_cases h : k = k'
      · rw [if_pos h, if_pos h.symm]
        simp
      · rw [if_neg h, if_neg (Ne.symm h), if_neg (Ne.symm h)]
    · rw [if_neg hk', lookup_cons, lookup_cons, lookup_cons, if_neg hk', ih]
      by_cases h : k' = k
      · subst h
        rw [if_pos rfl, if_neg hk', if_pos rfl]
      · rw [if_neg h, if_neg h]

/-- Setting a key to what its value becomes updates it. -/
theorem set_eq_update (f : α → α) (default : α) (key : κ) (d : Items κ α) :
    set key (f ((List.lookup key d).getD default)) d = update f default key d := by
  unfold set
  induction d with
  | nil => rfl
  | cons item d ih =>
    obtain ⟨k, v⟩ := item
    rw [update, update, lookup_cons]
    by_cases hk : k = key
    · rw [if_pos hk, if_pos hk, if_pos hk]
      rfl
    · rw [if_neg hk, if_neg hk, if_neg hk, ← ih]

/-- The keys of an updated dict. -/
theorem keys_update (f : α → α) (default : α) (key : κ) (d : Items κ α) :
    (update f default key d).map Prod.fst =
      if key ∈ d.map Prod.fst then d.map Prod.fst else d.map Prod.fst ++ [key] := by
  induction d with
  | nil => rfl
  | cons item d ih =>
    obtain ⟨k, v⟩ := item
    rw [update]
    by_cases hk : k = key
    · subst hk
      simp
    · rw [if_neg hk, List.map_cons, ih]
      by_cases hmem : key ∈ d.map Prod.fst
      · simp [hmem]
      · simp [hmem, Ne.symm hk]

theorem nodup_update {f : α → α} {default : α} {key : κ} {d : Items κ α}
    (h : (d.map Prod.fst).Nodup) : ((update f default key d).map Prod.fst).Nodup := by
  rw [keys_update]
  split
  · exact h
  · next hmem =>
    rw [← List.concat_eq_append]
    exact List.Nodup.concat hmem h

/-- The items whose key passes a test. -/
theorem lookup_filter_key (test : κ → Bool) (k : κ) (d : Items κ α) :
    List.lookup k (d.filter fun item => test item.1) = if test k then List.lookup k d else none := by
  induction d with
  | nil => simp
  | cons item d ih =>
    obtain ⟨k', v⟩ := item
    rw [List.filter_cons, lookup_cons]
    by_cases hk : k' = k
    · subst hk
      cases htest : test k' with
      | true => rw [if_pos rfl, lookup_cons, if_pos rfl, if_pos rfl, if_pos rfl]
      | false =>
        rw [if_neg (by simp), ih, htest]
        rfl
    · rw [if_neg hk]
      split
      · rw [lookup_cons, if_neg hk, ih]
      · exact ih

/-- A function of the values. -/
theorem lookup_map_value (f : α → α) (k : κ) (d : Items κ α) :
    List.lookup k (d.map fun item => (item.1, f item.2)) = (List.lookup k d).map f := by
  induction d with
  | nil => rfl
  | cons item d ih =>
    obtain ⟨k', v⟩ := item
    rw [List.map_cons, lookup_cons, lookup_cons, ih]
    split <;> rfl

/-- `UPDATE … SET … WHERE …`: the items that pass a test get another value. -/
def updateWhere (test : κ → α → Bool) (f : α → α) (d : Items κ α) : Items κ α :=
  d.map fun item => (item.1, if test item.1 item.2 then f item.2 else item.2)

theorem lookup_updateWhere (test : κ → α → Bool) (f : α → α) (k : κ) (d : Items κ α) :
    List.lookup k (updateWhere test f d) =
      (List.lookup k d).map fun v => if test k v then f v else v := by
  unfold updateWhere
  induction d with
  | nil => rfl
  | cons item d ih =>
    obtain ⟨k', v⟩ := item
    rw [List.map_cons, lookup_cons, lookup_cons]
    by_cases hk : k' = k
    · subst hk
      rw [if_pos rfl, if_pos rfl]
      rfl
    · rw [if_neg hk, if_neg hk, ih]

omit [DecidableEq κ] in
@[simp] theorem keys_updateWhere (test : κ → α → Bool) (f : α → α) (d : Items κ α) :
    (updateWhere test f d).map Prod.fst = d.map Prod.fst := by
  unfold updateWhere
  rw [List.map_map]
  rfl

/-- One more item, under a key the dict does not have. -/
theorem lookup_append_singleton (k key : κ) (v : α) {d : Items κ α}
    (h : List.lookup key d = none) :
    List.lookup k (d ++ [(key, v)]) = if key = k then some v else List.lookup k d := by
  rw [List.lookup_append, lookup_cons]
  by_cases hk : key = k
  · subst hk
    rw [if_pos rfl, if_pos rfl, h]
    rfl
  · rw [if_neg hk, if_neg hk, List.lookup_nil, Option.or_none]

/-- What is read under a key is an item. -/
theorem mem_of_lookup {k : κ} {v : α} {d : Items κ α} (h : List.lookup k d = some v) : (k, v) ∈ d := by
  induction d with
  | nil => cases h
  | cons item d ih =>
    obtain ⟨k', v'⟩ := item
    rw [lookup_cons] at h
    split at h
    · next hk =>
      cases h
      rw [hk]
      exact List.mem_cons_self
    · exact List.mem_cons_of_mem _ (ih h)

/-- A key that no item has. -/
theorem lookup_eq_none {k : κ} {d : Items κ α} (h : k ∉ d.map Prod.fst) : List.lookup k d = none := by
  induction d with
  | nil => rfl
  | cons item d ih =>
    obtain ⟨k', v⟩ := item
    rw [List.map_cons, List.mem_cons, not_or] at h
    rw [lookup_cons, if_neg (Ne.symm h.1), ih h.2]

omit [DecidableEq κ] in
/-- The keys of the items a list of rows gives are keys of the rows. -/
theorem keys_filterMap_sublist {β : Type} (key : β → κ) (f : β → Option α) (rows : List β) :
    ((rows.filterMap fun r => (f r).map fun v => (key r, v)).map Prod.fst).Sublist (rows.map key) := by
  induction rows with
  | nil => exact List.Sublist.slnil
  | cons first rest ih =>
    cases hf : f first with
    | none =>
      rw [List.filterMap_cons_none (by rw [hf]; rfl)]
      exact ih.cons _
    | some v =>
      rw [List.filterMap_cons_some (by rw [hf]; rfl)]
      exact ih.cons_cons _

/-- The items a list of rows with distinct keys gives. -/
theorem lookup_filterMap {β : Type} (key : β → κ) (f : β → Option α) {rows : List β}
    (h : (rows.map key).Nodup) {row : β} (hrow : row ∈ rows) :
    List.lookup (key row) (rows.filterMap fun r => (f r).map fun v => (key r, v)) = f row := by
  induction rows with
  | nil => cases hrow
  | cons first rest ih =>
    rw [List.map_cons, List.nodup_cons] at h
    rcases List.mem_cons.mp hrow with rfl | hrest
    · have hnone : List.lookup (key row) (rest.filterMap fun r => (f r).map fun v => (key r, v)) = none :=
        lookup_eq_none fun hmem => h.1 ((keys_filterMap_sublist key f rest).subset hmem)
      cases hf : f row with
      | none => rw [List.filterMap_cons_none (by rw [hf]; rfl), hnone]
      | some v => rw [List.filterMap_cons_some (by rw [hf]; rfl), lookup_cons, if_pos rfl]
    · have hne : key first ≠ key row := fun heq => h.1 (List.mem_map.mpr ⟨row, hrest, heq.symm⟩)
      cases hf : f first with
      | none => rw [List.filterMap_cons_none (by rw [hf]; rfl), ih h.2 hrest]
      | some v => rw [List.filterMap_cons_some (by rw [hf]; rfl), lookup_cons, if_neg hne, ih h.2 hrest]

theorem mem_iff_lookup {d : Items κ α} (h : (d.map Prod.fst).Nodup) {k : κ} {v : α} :
    (k, v) ∈ d ↔ List.lookup k d = some v := by
  induction d with
  | nil => simp
  | cons item d ih =>
    obtain ⟨k', v'⟩ := item
    rw [List.map_cons, List.nodup_cons] at h
    rw [lookup_cons, List.mem_cons, ih h.2]
    by_cases hk : k' = k
    · subst hk
      have hnone : List.lookup k' d ≠ some v := fun hsome =>
        h.1 (List.mem_map.mpr ⟨(k', v), (ih h.2).mpr hsome, rfl⟩)
      simp [hnone, eq_comm]
    · rw [if_neg hk]
      simp [Ne.symm hk]

/-- One more item under a new key keeps the keys distinct. -/
theorem nodup_append_singleton {d : Items κ α} (h : (d.map Prod.fst).Nodup) {key : κ}
    (hnone : List.lookup key d = none) (v : α) : ((d ++ [(key, v)]).map Prod.fst).Nodup := by
  rw [List.map_append]
  refine h.append (List.nodup_singleton key) ?_
  intro k hk hkey
  obtain ⟨item, hitem, rfl⟩ := List.mem_map.mp hk
  have hsame : item.1 = key := List.mem_singleton.mp hkey
  rw [(mem_iff_lookup h).mp (hsame ▸ hitem : (key, item.2) ∈ d)] at hnone
  cases hnone

end

end Items

end PortfolioManagement
