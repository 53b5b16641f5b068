import Mathlib.Data.List.Dedup
import Mathlib.Data.List.Perm.Subperm

/-!
# Proposals that do not disturb each other

A judge of a state proposes values for some of its keys. A round writes some of the proposals at
once, after which the state is judged again. If writing one proposal settles its key and leaves the
other proposals as they are, the order and the grouping of the writes do not matter: a state reached
by rounds has the proposals of some keys written and the others still proposed (`Written`), no run is
longer than the first state's proposals are many, and all runs that settle every key end alike.
-/

namespace PortfolioManagement.Proposals

section
variable {σ κ α β : Type} [DecidableEq κ] {store : α → β}
  {read : σ → κ → β} {write : σ → κ → α → σ} {propose : σ → κ → Option α}

/-- What is written under a key is read there, and nowhere else. -/
def ReadsBack (store : α → β) (read : σ → κ → β) (write : σ → κ → α → σ) : Prop :=
  ∀ s k v k', read (write s k v) k' = if k' = k then store v else read s k'

/-- Writing a proposal settles its key and no other. -/
def IndependentWrites (write : σ → κ → α → σ) (propose : σ → κ → Option α) : Prop :=
  ∀ s k v, propose s k = some v → ∀ k', propose (write s k v) k' = if k' = k then none else propose s k'

/-- Some proposals of one judgement, written one after another. -/
def writeProposed (write : σ → κ → α → σ) (propose : σ → κ → Option α) (s : σ) (keys : List κ) : σ :=
  keys.foldl (fun t k => (propose s k).elim t (write t k)) s

/-- A round may write some keys, each once, that have proposals. -/
def IsRound (propose : σ → κ → Option α) (s : σ) (keys : List κ) : Prop :=
  keys ≠ [] ∧ keys.Nodup ∧ ∀ k ∈ keys, (propose s k).isSome

/-- The states that rounds reach, with the keys of each round. -/
inductive Rounds (write : σ → κ → α → σ) (propose : σ → κ → Option α) (s : σ) : List (List κ) → σ → Prop
  | start : Rounds write propose s [] s
  | round {groups : List (List κ)} {t : σ} {keys : List κ} :
      Rounds write propose s groups t → IsRound propose t keys →
      Rounds write propose s (groups ++ [keys]) (writeProposed write propose t keys)

/-- No key has a proposal. -/
def Settled (propose : σ → κ → Option α) (s : σ) : Prop := ∀ k, propose s k = none

/-- The state with the proposals of the keys written, and of no other. -/
structure Written (store : α → β) (read : σ → κ → β) (propose : σ → κ → Option α) (s : σ) (keys : List κ) (t : σ) :
    Prop where
  /-- a written key has what was proposed for it -/
  reads : ∀ k, read t k = if k ∈ keys then ((propose s k).map store).getD (read s k) else read s k
  /-- only the other keys are proposed still -/
  proposes : ∀ k, propose t k = if k ∈ keys then none else propose s k

theorem Written.refl (s : σ) : Written store read propose s [] s := ⟨fun _ => rfl, fun _ => rfl⟩

/-- One more proposal is written. -/
theorem Written.snoc (hread : ReadsBack store read write) (hfree : IndependentWrites write propose)
    {s t : σ} {keys : List κ} (h : Written store read propose s keys t) {k : κ} {v : α}
    (hv : propose t k = some v) : Written store read propose s (keys ++ [k]) (write t k v) := by
  have hmem : ∀ k', k' ∈ keys ++ [k] ↔ k' = k ∨ k' ∈ keys := by
    intro k'
    rw [List.mem_append, List.mem_singleton, or_comm]
  have hnot : k ∉ keys := by
    intro hk
    have hnone := h.proposes k
    rw [hv, if_pos hk] at hnone
    cases hnone
  have hfirst : propose s k = some v := by
    have hsame := h.proposes k
    rwa [if_neg hnot, hv, eq_comm] at hsame
  constructor
  · intro k'
    rw [hread, h.reads k']
    by_cases hk : k' = k
    · subst hk
      rw [if_pos rfl, if_pos ((hmem k').mpr (.inl rfl)), hfirst, Option.map_some,
        Option.getD_some]
    · rw [if_neg hk]
      simp only [hmem, hk, false_or]
  · intro k'
    rw [hfree t k v hv k', h.proposes k']
    by_cases hk : k' = k
    · rw [if_pos hk, if_pos ((hmem k').mpr (.inl hk))]
    · rw [if_neg hk]
      simp only [hmem, hk, false_or]

/-- A round writes the proposals of its keys. -/
theorem Written.round (hread : ReadsBack store read write) (hfree : IndependentWrites write propose)
    {s t : σ} {done keys : List κ} (h : Written store read propose s done t) (hkeys : IsRound propose t keys) :
    Written store read propose s (done ++ keys) (writeProposed write propose t keys) := by
  obtain ⟨-, hnodup, hsome⟩ := hkeys
  -- the keys written so far, and those to come, which `t` and the state in between propose alike
  have hfold : ∀ (rest : List κ) (u : σ) (written : List κ), rest.Nodup →
      (∀ k ∈ rest, (propose t k).isSome) → (∀ k ∈ rest, propose u k = propose t k) →
      Written store read propose s written u →
      Written store read propose s (written ++ rest)
        (rest.foldl (fun u k => (propose t k).elim u (write u k)) u) := by
    intro rest
    induction rest with
    | nil =>
      intro u written _ _ _ hu
      rw [List.append_nil]
      exact hu
    | cons k rest ih =>
      intro u written hnodup hsome hsame hu
      obtain ⟨hk, hrest⟩ := List.nodup_cons.mp hnodup
      obtain ⟨v, hv⟩ := Option.isSome_iff_exists.mp (hsome k List.mem_cons_self)
      have huv : propose u k = some v := (hsame k List.mem_cons_self).trans hv
      have hnext := hu.snoc hread hfree huv
      have hlater : ∀ k' ∈ rest, propose (write u k v) k' = propose t k' := by
        intro k' hk'
        have hne : k' ≠ k := fun heq => hk (heq ▸ hk')
        rw [hfree u k v huv, if_neg hne]
        exact hsame k' (List.mem_cons_of_mem k hk')
      have hend := ih (write u k v) (written ++ [k]) hrest
        (fun k' hk' => hsome k' (List.mem_cons_of_mem k hk')) hlater hnext
      rw [List.append_assoc, List.singleton_append] at hend
      rw [List.foldl_cons, hv]
      exact hend
  exact hfold keys t done hnodup hsome (fun _ _ => rfl) h

/-- A run writes the proposals of the first state for the keys of its rounds, each key once. -/
theorem Rounds.written (hread : ReadsBack store read write) (hfree : IndependentWrites write propose)
    {s t : σ} {groups : List (List κ)} (h : Rounds write propose s groups t) :
    Written store read propose s groups.flatten t ∧ groups.flatten.Nodup ∧
      ∀ k ∈ groups.flatten, (propose s k).isSome := by
  induction h with
  | start => exact ⟨.refl s, List.nodup_nil, by simp⟩
  | @round groups t keys _ hround ih =>
    obtain ⟨hwritten, hnodup, hsome⟩ := ih
    have hfresh : ∀ k ∈ keys, k ∉ groups.flatten ∧ (propose s k).isSome := by
      intro k hk
      have hpending := hround.2.2 k hk
      rw [hwritten.proposes k] at hpending
      by_cases hdone : k ∈ groups.flatten
      · rw [if_pos hdone] at hpending
        cases hpending
      · rw [if_neg hdone] at hpending
        exact ⟨hdone, hpending⟩
    rw [List.flatten_append, List.flatten_singleton]
    refine ⟨hwritten.round hread hfree hround, ?_, ?_⟩
    · rw [List.nodup_append]
      refine ⟨hnodup, hround.2.1, ?_⟩
      intro k hk k' hk' heq
      exact (hfresh k' hk').1 (heq ▸ hk)
    · intro k hk
      cases List.mem_append.mp hk with
      | inl hk => exact hsome k hk
      | inr hk => exact (hfresh k hk).2

/-- A run has at most one round for each proposal of its first state. -/
theorem Rounds.length_le (hread : ReadsBack store read write) (hfree : IndependentWrites write propose)
    {s t : σ} {groups : List (List κ)} (h : Rounds write propose s groups t) {keys : List κ}
    (hkeys : ∀ k, (propose s k).isSome → k ∈ keys) : groups.length ≤ keys.length := by
  obtain ⟨-, hnodup, hsome⟩ := h.written hread hfree
  have hsub : groups.flatten.length ≤ keys.length :=
    (List.subperm_of_subset hnodup fun k hk => hkeys k (hsome k hk)).length_le
  have hgroups : groups.length ≤ groups.flatten.length := by
    clear hnodup hsome hsub
    induction h with
    | start => simp
    | @round groups t keys _ hround ih =>
      have hkeys := List.length_pos_of_ne_nil hround.1
      rw [List.flatten_append, List.flatten_singleton, List.length_append, List.length_append,
        List.length_singleton]
      omega
  omega

/-- A run that settles every key has written every proposal of its first state. -/
theorem Rounds.read_settled (hread : ReadsBack store read write) (hfree : IndependentWrites write propose)
    {s t : σ} {groups : List (List κ)} (h : Rounds write propose s groups t) (hend : Settled propose t)
    (k : κ) : read t k = ((propose s k).map store).getD (read s k) := by
  obtain ⟨hwritten, -, -⟩ := h.written hread hfree
  have hnone := hend k
  rw [hwritten.proposes k] at hnone
  rw [hwritten.reads k]
  by_cases hk : k ∈ groups.flatten
  · rw [if_pos hk]
  · rw [if_neg hk] at hnone ⊢
    rw [hnone, Option.map_none, Option.getD_none]

/-- From wherever a run has come, one more round settles every key. -/
theorem Rounds.exists_settled (hread : ReadsBack store read write) (hfree : IndependentWrites write propose)
    {s t : σ} {groups : List (List κ)} (h : Rounds write propose s groups t) {keys : List κ}
    (hkeys : ∀ t k, (propose t k).isSome → k ∈ keys) :
    ∃ more u, Rounds write propose s (groups ++ more) u ∧ Settled propose u := by
  by_cases hnone : ∀ k, propose t k = none
  · exact ⟨[], t, by rwa [List.append_nil], hnone⟩
  · have hround : IsRound propose t (keys.dedup.filter fun k => (propose t k).isSome) := by
      refine ⟨?_, (List.nodup_dedup keys).filter _, fun k hk => (List.mem_filter.mp hk).2⟩
      push Not at hnone
      obtain ⟨k, hk⟩ := hnone
      have hsome : (propose t k).isSome := Option.isSome_iff_ne_none.mpr hk
      exact List.ne_nil_of_mem (List.mem_filter.mpr ⟨List.mem_dedup.mpr (hkeys t k hsome), hsome⟩)
    refine ⟨[_], _, h.round hround, ?_⟩
    intro k
    have hstart : Written store read propose t [] t := .refl t
    have hwritten := hstart.round hread hfree hround
    rw [hwritten.proposes k]
    split
    · rfl
    · next hk =>
      by_contra hsome
      have hsome' : (propose t k).isSome := Option.isSome_iff_ne_none.mpr hsome
      exact hk (List.mem_append_right _
        (List.mem_filter.mpr ⟨List.mem_dedup.mpr (hkeys t k hsome'), hsome'⟩))

end

end PortfolioManagement.Proposals
