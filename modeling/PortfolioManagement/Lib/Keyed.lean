import Mathlib.Data.List.Induction
import Mathlib.Data.List.Lex
import Mathlib.Data.List.Sort
import PortfolioManagement.Lib.Dict

/-!
# Rows keyed by one of their fields

Rows are gathered in a dict under a key, where a later row replaces an earlier one, and listed in
the order of the key. Both are determined by the rows they hold: two lists without a repeated key
that hold the same rows are sorted to the same list.
-/

namespace PortfolioManagement

/-! ## Gathering -/

section
variable {α κ : Type} [DecidableEq κ] (key : α → κ)

/-- `{key(row): row for row in rows}`. -/
def gather (rows : List α) : Items κ α :=
  rows.foldl (fun d row => Items.set (key row) row d) []

/-- `list({key(row): row for row in rows}.values())`: the last row of each key. -/
def valuesBy (rows : List α) : List α := (gather key rows).map Prod.snd

variable {key}

theorem gather_append_singleton (rows : List α) (row : α) :
    gather key (rows ++ [row]) = Items.set (key row) row (gather key rows) := by
  rw [gather, List.foldl_append, List.foldl_cons, List.foldl_nil, ← gather]

theorem nodup_gather (rows : List α) : ((gather key rows).map Prod.fst).Nodup := by
  induction rows using List.reverseRecOn with
  | nil => exact List.nodup_nil
  | append_singleton rows row ih =>
    rw [gather_append_singleton]
    exact Items.nodup_update ih

theorem lookup_gather (rows : List α) (k : κ) :
    (gather key rows).lookup k = (rows.filter fun row => key row = k).getLast? := by
  induction rows using List.reverseRecOn with
  | nil => rfl
  | append_singleton rows row ih =>
    rw [gather_append_singleton, Items.set, Items.lookup_update, ih, List.filter_append]
    by_cases h : k = key row
    · subst h
      simp
    · simp [h, Ne.symm h]

theorem key_of_mem_gather {rows : List α} {k : κ} {row : α} (h : (k, row) ∈ gather key rows) :
    key row = k := by
  have hlast := (Items.mem_iff_lookup (nodup_gather rows)).mp h
  rw [lookup_gather] at hlast
  simpa using List.of_mem_filter (List.mem_of_getLast? hlast)

/-- A row is gathered exactly when it is the last of its key. -/
theorem mem_valuesBy {rows : List α} {x : α} :
    x ∈ valuesBy key rows ↔ (rows.filter fun row => key row = key x).getLast? = some x := by
  rw [← lookup_gather, ← Items.mem_iff_lookup (nodup_gather rows), valuesBy]
  constructor
  · intro h
    obtain ⟨⟨k, row⟩, hmem, rfl⟩ := List.mem_map.mp h
    have hkey : key row = k := key_of_mem_gather hmem
    subst hkey
    exact hmem
  · exact fun h => List.mem_map.mpr ⟨(key x, x), h, rfl⟩

theorem mem_of_mem_valuesBy {rows : List α} {x : α} (h : x ∈ valuesBy key rows) : x ∈ rows :=
  List.mem_of_mem_filter (List.mem_of_getLast? (mem_valuesBy.mp h))

/-- Every key of the rows has its last row gathered. -/
theorem exists_mem_valuesBy {rows : List α} {x : α} (h : x ∈ rows) :
    ∃ y ∈ valuesBy key rows, key y = key x := by
  have hmem : x ∈ rows.filter fun row => key row = key x := by simpa using h
  have hlast := List.getLast?_eq_getLast_of_ne_nil (List.ne_nil_of_mem hmem)
  have hkey : key ((rows.filter fun row => key row = key x).getLast (List.ne_nil_of_mem hmem)) =
      key x := by
    simpa using List.of_mem_filter (List.getLast_mem (List.ne_nil_of_mem hmem))
  refine ⟨_, mem_valuesBy.mpr ?_, hkey⟩
  rw [hkey]
  exact hlast

/-- The gathered rows have distinct keys. -/
theorem nodup_valuesBy (rows : List α) : ((valuesBy key rows).map key).Nodup := by
  have hkeys : (valuesBy key rows).map key = (gather key rows).map Prod.fst := by
    rw [valuesBy, List.map_map]
    exact List.map_congr_left fun ⟨k, row⟩ hitem => @key_of_mem_gather _ _ _ key rows k row hitem
  rw [hkeys]
  exact nodup_gather rows

omit [DecidableEq κ] in
/-- Of rows with distinct keys at most one has a given key. -/
theorem eq_of_key_eq {rows : List α} (h : (rows.map key).Nodup) {x y : α} (hx : x ∈ rows)
    (hy : y ∈ rows) (hkey : key x = key y) : x = y :=
  List.inj_on_of_nodup_map h hx hy hkey

theorem filter_key_of_nodup {rows : List α} (h : (rows.map key).Nodup) {x : α} (hx : x ∈ rows) :
    (rows.filter fun row => key row = key x) = [x] := by
  induction rows with
  | nil => cases hx
  | cons row rows ih =>
    rw [List.map_cons, List.nodup_cons] at h
    rcases List.mem_cons.mp hx with rfl | hx
    · have hrest : (rows.filter fun r => key r = key x) = [] := by
        refine List.filter_eq_nil_iff.mpr fun r hr hkey => h.1 ?_
        exact List.mem_map.mpr ⟨r, hr, by simpa using hkey⟩
      rw [List.filter_cons_of_pos (by simp), hrest]
    · have hne : key row ≠ key x := fun hkey => h.1 (hkey ▸ List.mem_map_of_mem hx)
      rw [List.filter_cons_of_neg (by simpa using hne), ih h.2 hx]

/-- Rows laid over others: the new rows, and the old ones whose key no new row has. -/
theorem mem_valuesBy_append {base rows : List α} (hbase : (base.map key).Nodup)
    (hrows : (rows.map key).Nodup) {x : α} :
    x ∈ valuesBy key (base ++ rows) ↔ x ∈ rows ∨ (x ∈ base ∧ key x ∉ rows.map key) := by
  rw [mem_valuesBy, List.filter_append]
  by_cases hkey : key x ∈ rows.map key
  · obtain ⟨y, hy, hyx⟩ := List.mem_map.mp hkey
    have hfilter : (rows.filter fun row => key row = key x) = [y] := by
      rw [← hyx]
      exact filter_key_of_nodup hrows hy
    rw [hfilter, List.getLast?_append, List.getLast?_singleton, Option.some_or]
    constructor
    · intro h
      cases h
      exact .inl hy
    · rintro (hx | ⟨-, hnone⟩)
      · exact congrArg some (eq_of_key_eq hrows hy hx hyx)
      · exact absurd hkey hnone
  · have hfilter : (rows.filter fun row => key row = key x) = [] := by
      refine List.filter_eq_nil_iff.mpr fun r hr h => hkey ?_
      exact List.mem_map.mpr ⟨r, hr, by simpa using h⟩
    rw [hfilter, List.append_nil]
    constructor
    · intro h
      exact .inr ⟨List.mem_of_mem_filter (List.mem_of_getLast? h), hkey⟩
    · rintro (hx | ⟨hx, -⟩)
      · exact absurd (List.mem_map_of_mem hx) hkey
      · rw [filter_key_of_nodup hbase hx, List.getLast?_singleton]

end

/-! ## Collecting -/

section
variable {α κ : Type} [DecidableEq κ] (key : α → Option κ)

/-- The rows that have a key are listed under it: `d[key(row)].append(row)`. -/
def collect (rows : List α) : Items κ (List α) :=
  rows.foldl (fun d row =>
    match key row with
    | some k => Items.update (· ++ [row]) [] k d
    | none => d) []

variable {key}

theorem collect_append_singleton (rows : List α) (row : α) :
    collect key (rows ++ [row]) = match key row with
      | some k => Items.update (· ++ [row]) [] k (collect key rows)
      | none => collect key rows := by
  unfold collect
  rw [List.foldl_append, List.foldl_cons, List.foldl_nil]

theorem nodup_collect (rows : List α) : ((collect key rows).map Prod.fst).Nodup := by
  induction rows using List.reverseRecOn with
  | nil => exact List.nodup_nil
  | append_singleton rows row ih =>
    rw [collect_append_singleton]
    split
    · exact Items.nodup_update ih
    · exact ih

theorem lookup_collect (rows : List α) (k : κ) :
    (collect key rows).lookup k =
      if (rows.filter fun row => key row = some k) = [] then none
      else some (rows.filter fun row => key row = some k) := by
  induction rows using List.reverseRecOn with
  | nil => rfl
  | append_singleton rows row ih =>
    rw [collect_append_singleton, List.filter_append, List.filter_singleton]
    cases hkey : key row with
    | none => simpa using ih
    | some k' =>
      simp only [Items.lookup_update]
      by_cases h : k = k'
      · subst h
        rw [if_pos rfl, ih, decide_eq_true rfl]
        by_cases hempty : (rows.filter fun row => key row = some k) = []
        · rw [if_pos hempty, hempty]
          rfl
        · rw [if_neg hempty]
          simp
      · rw [if_neg h, ih]
        simp [Ne.symm h]

/-- A list is collected under a key exactly when it holds all the rows of the key, in order. -/
theorem mem_collect {rows rows' : List α} {k : κ} :
    (k, rows') ∈ collect key rows ↔
      rows' = (rows.filter fun row => key row = some k) ∧ rows' ≠ [] := by
  rw [Items.mem_iff_lookup (nodup_collect rows), lookup_collect]
  split
  · next hempty =>
    rw [hempty]
    exact ⟨fun h => absurd h.symm (Option.some_ne_none _), fun h => absurd h.1 h.2⟩
  · next hne =>
    rw [Option.some.injEq]
    constructor
    · rintro rfl
      exact ⟨rfl, hne⟩
    · exact fun h => h.1.symm

end

/-! ## Sorting -/

section
variable {α κ : Type} [LinearOrder κ] {key : α → κ}

/-- `sorted(rows, key=key)`. -/
def sortBy (key : α → κ) (rows : List α) : List α :=
  rows.insertionSort fun a b => key a ≤ key b

@[simp] theorem mem_sortBy {rows : List α} {x : α} : x ∈ sortBy key rows ↔ x ∈ rows :=
  List.mem_insertionSort _

theorem perm_sortBy (rows : List α) : (sortBy key rows).Perm rows := List.perm_insertionSort _ rows

theorem nodup_sortBy {rows : List α} (h : (rows.map key).Nodup) :
    ((sortBy key rows).map key).Nodup :=
  ((perm_sortBy rows).map key).nodup_iff.mpr h

theorem map_sortBy {f : α → α} (hf : ∀ a, key (f a) = key a) (rows : List α) :
    (sortBy key rows).map f = sortBy key (rows.map f) :=
  List.map_insertionSort _ _ f rows fun a _ b _ => by rw [hf, hf]

/-- Rows are mapped in order when the map keeps how they compare. -/
theorem map_sortBy_of_iff {f : α → α} {rows : List α}
    (h : ∀ a ∈ rows, ∀ b ∈ rows, key a ≤ key b ↔ key (f a) ≤ key (f b)) :
    (sortBy key rows).map f = sortBy key (rows.map f) := List.map_insertionSort _ _ f rows h

/-- Sorted rows stay as they are. -/
theorem sortBy_sortBy (rows : List α) : sortBy key (sortBy key rows) = sortBy key rows := by
  have : IsTrans α fun a b => key a ≤ key b := ⟨fun _ _ _ => le_trans⟩
  have : Std.Total fun a b : α => key a ≤ key b := ⟨fun a b => le_total (key a) (key b)⟩
  exact (List.pairwise_insertionSort _ rows).insertionSort_eq

/-- Rows with distinct keys are sorted to a list that depends on which rows they are alone. -/
theorem sortBy_congr {rows rows' : List α} (h : (rows.map key).Nodup)
    (h' : (rows'.map key).Nodup) (hmem : ∀ x, x ∈ rows ↔ x ∈ rows') :
    sortBy key rows = sortBy key rows' := by
  have : IsTrans α fun a b => key a ≤ key b := ⟨fun _ _ _ => le_trans⟩
  have : Std.Total fun a b : α => key a ≤ key b := ⟨fun a b => le_total (key a) (key b)⟩
  have hperm : rows.Perm rows' :=
    (List.perm_ext_iff_of_nodup (List.Nodup.of_map key h) (List.Nodup.of_map key h')).mpr hmem
  refine List.Perm.eq_of_pairwise ?_ (List.pairwise_insertionSort _ rows)
    (List.pairwise_insertionSort _ rows') (((perm_sortBy rows).trans hperm).trans
      (perm_sortBy rows').symm)
  intro a b ha hb hab hba
  have ha' : a ∈ rows' := (hmem a).mp (mem_sortBy.mp ha)
  exact eq_of_key_eq h' ha' (mem_sortBy.mp hb) (le_antisymm hab hba)

end

/-- Lists with different fronts of one length compare as the fronts do. -/
theorem append_le_append_iff {α : Type} [LinearOrder α] {l m : List α} (s t : List α)
    (hlen : l.length = m.length) (hne : l ≠ m) : l ++ s ≤ m ++ t ↔ l ≤ m := by
  induction l generalizing m with
  | nil =>
    cases m with
    | nil => exact absurd rfl hne
    | cons b m => simp at hlen
  | cons a l ih =>
    cases m with
    | nil => simp at hlen
    | cons b m =>
      have hcons : ∀ k n : List α, b :: k < a :: n ↔ b < a ∨ b = a ∧ k < n :=
        fun k n => List.cons_lt_cons_iff
      rw [List.cons_append, List.cons_append, ← not_lt, ← not_lt, hcons, hcons, not_iff_not]
      by_cases hab : b = a
      · subst hab
        have hrest := ih (by simpa using hlen) fun h => hne (by rw [h])
        rw [← not_lt, ← not_lt, not_iff_not] at hrest
        rw [hrest]
      · simp [hab]

end PortfolioManagement
