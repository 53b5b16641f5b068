import Mathlib.Logic.Relation

/-!
# Programs that keep their state when they raise

A service method reads and changes durable state step by step and may raise between two steps; what
it changed before it raised stays changed. `Prog σ ε α` is that: a function of the state that gives
a result or an exception, and in both cases the state it reached. `Prog.Spec` is the program logic
used for such programs. Beside a postcondition for each way of ending it states that the program
moves the state along a path of a step relation `R`, so that one traversal of a program serves every
property whose preservation by `R` is proved afterwards.
-/

namespace PortfolioManagement

open Relation (ReflTransGen)

/-- A program over states `σ` that returns an `α` or raises an `ε`, in the state it reached. -/
def Prog (σ ε α : Type) : Type := σ → Except ε α × σ

namespace Prog

variable {σ τ ε ε' α β : Type}

/-- The program that returns a value and changes nothing. -/
def ret (a : α) : Prog σ ε α := fun s => (.ok a, s)

/-- Sequential composition: an exception skips the rest and keeps the state. -/
def andThen (m : Prog σ ε α) (k : α → Prog σ ε β) : Prog σ ε β := fun s =>
  match m s with
  | (.ok a, s') => k a s'
  | (.error e, s') => (.error e, s')

instance : Monad (Prog σ ε) where
  pure := ret
  bind := andThen

/-- Raise an exception. -/
def raise (e : ε) : Prog σ ε α := fun s => (.error e, s)

/-- The current state. -/
def read : Prog σ ε σ := fun s => (.ok s, s)

/-- A value computed from the current state. -/
def reads (f : σ → α) : Prog σ ε α := fun s => (.ok (f s), s)

/-- Replace the state. -/
def alter (f : σ → σ) : Prog σ ε Unit := fun s => (.ok (), f s)

/-- A pure computation that may raise. -/
def lift (x : Except ε α) : Prog σ ε α := fun s => (x, s)

/-- Raise unless the condition holds. -/
def require (c : Prop) [Decidable c] (e : ε) : Prog σ ε Unit :=
  if c then ret () else raise e

/-- Run a program and forget its result. -/
def discard (m : Prog σ ε α) : Prog σ ε Unit := andThen m fun _ => ret ()

/-- Run a program only when the condition holds. -/
def onlyIf (c : Prop) [Decidable c] (m : Prog σ ε Unit) : Prog σ ε Unit :=
  if c then m else ret ()

/-- Run a handler on the exceptions it accepts; it starts in the state the body left. -/
def rescue (m : Prog σ ε α) (handler : ε → Prog σ ε α) : Prog σ ε α := fun s =>
  match m s with
  | (.ok a, s') => (.ok a, s')
  | (.error e, s') => handler e s'

/-- A loop over a list with an accumulator. -/
def fold : List α → β → (β → α → Prog σ ε β) → Prog σ ε β
  | [], b, _ => ret b
  | a :: as, b, f => andThen (f b a) fun b' => fold as b' f

/-- A transaction over a part of the state: its changes are kept when it returns and discarded
when it raises. -/
def transaction (get : σ → τ) (set : τ → σ → σ) (m : Prog τ ε α) : Prog σ ε α := fun s =>
  match m (get s) with
  | (.ok a, t) => (.ok a, set t s)
  | (.error e, _) => (.error e, s)

/-! ## Runs that return -/

section
variable {s s' : σ}

/-- A run of a composition that returns is a run of each part that returns. -/
theorem bind_ok {m : Prog σ ε α} {k : α → Prog σ ε β} {b : β} (h : (m >>= k) s = (.ok b, s')) :
    ∃ a t, m s = (.ok a, t) ∧ k a t = (.ok b, s') := by
  have hrun : andThen m k s = (.ok b, s') := h
  unfold andThen at hrun
  rcases hm : m s with ⟨_ | a, t⟩
  · rw [hm] at hrun
    cases hrun
  · rw [hm] at hrun
    exact ⟨a, t, rfl, hrun⟩

theorem ret_ok {a b : α} (h : (pure a : Prog σ ε α) s = (.ok b, s')) : a = b ∧ s = s' := by
  cases h
  exact ⟨rfl, rfl⟩

theorem reads_ok {f : σ → α} {b : α} (h : (reads f : Prog σ ε α) s = (.ok b, s')) :
    f s = b ∧ s = s' := by
  cases h
  exact ⟨rfl, rfl⟩

theorem alter_ok {f : σ → σ} {b : Unit} (h : (alter f : Prog σ ε Unit) s = (.ok b, s')) :
    f s = s' := by
  cases h
  rfl

theorem lift_ok {x : Except ε α} {b : α} (h : lift x s = (.ok b, s')) : x = .ok b ∧ s = s' :=
  Prod.mk.inj h

theorem onlyIf_ok {c : Prop} [Decidable c] {m : Prog σ ε Unit} {b : Unit}
    (h : onlyIf c m s = (.ok b, s')) : (c ∧ m s = (.ok (), s')) ∨ (¬ c ∧ s = s') := by
  unfold onlyIf at h
  by_cases hc : c
  · rw [if_pos hc] at h
    exact .inl ⟨hc, h⟩
  · rw [if_neg hc] at h
    exact .inr ⟨hc, (ret_ok h).2⟩

end

/-! ## Weakest preconditions -/

/-- The two postconditions of a run. -/
def EndsIn (Q : α → σ → Prop) (E : ε → σ → Prop) : Except ε α × σ → Prop
  | (.ok a, s) => Q a s
  | (.error e, s) => E e s

theorem EndsIn.imp {Q Q' : α → σ → Prop} {E E' : ε → σ → Prop} {r : Except ε α × σ} (h : EndsIn Q E r)
    (hQ : ∀ a s, Q a s → Q' a s) (hE : ∀ e s, E e s → E' e s) : EndsIn Q' E' r := by
  rcases r with ⟨_ | _, _⟩
  · exact hE _ _ h
  · exact hQ _ _ h

/-- What holds in both ends of a run holds of the state it reached. -/
theorem EndsIn.snd {P : σ → Prop} {r : Except ε α × σ} (h : EndsIn (fun _ => P) (fun _ => P) r) :
    P r.2 := by
  rcases r with ⟨_ | _, _⟩
  · exact h
  · exact h

theorem ends_of_snd {P : σ → Prop} {r : Except ε α × σ} (h : P r.2) :
    EndsIn (fun _ => P) (fun _ => P) r := by
  rcases r with ⟨_ | _, _⟩
  · exact h
  · exact h

/-- Two postconditions of a run hold together. -/
theorem EndsIn.and {Q Q' : α → σ → Prop} {E E' : ε → σ → Prop} {r : Except ε α × σ} (h : EndsIn Q E r)
    (h' : EndsIn Q' E' r) : EndsIn (fun a s => Q a s ∧ Q' a s) (fun e s => E e s ∧ E' e s) r := by
  rcases r with ⟨_ | _, _⟩
  · exact ⟨h, h'⟩
  · exact ⟨h, h'⟩

section
variable {Q : α → σ → Prop} {E : ε → σ → Prop} {s : σ}

@[simp] theorem ends_pure {a : α} : EndsIn Q E ((pure a : Prog σ ε α) s) ↔ Q a s := Iff.rfl

@[simp] theorem ends_raise {e : ε} : EndsIn Q E ((raise e : Prog σ ε α) s) ↔ E e s := Iff.rfl

@[simp] theorem ends_reads {f : σ → α} : EndsIn Q E ((reads f : Prog σ ε α) s) ↔ Q (f s) s := Iff.rfl

@[simp] theorem ends_alter {f : σ → σ} {Q : Unit → σ → Prop} :
    EndsIn Q E ((alter f : Prog σ ε Unit) s) ↔ Q () (f s) := Iff.rfl

@[simp] theorem ends_lift {x : Except ε α} : EndsIn Q E (lift x s) ↔ EndsIn Q E (x, s) := Iff.rfl

@[simp] theorem ends_require {c : Prop} [Decidable c] {e : ε} {Q : Unit → σ → Prop} :
    EndsIn Q E ((require c e : Prog σ ε Unit) s) ↔ (c → Q () s) ∧ (¬ c → E e s) := by
  unfold require
  by_cases hc : c
  · rw [if_pos hc]
    exact ⟨fun h => ⟨fun _ => h, fun hn => absurd hc hn⟩, fun h => h.1 hc⟩
  · rw [if_neg hc]
    exact ⟨fun h => ⟨fun hp => absurd hp hc, fun _ => h⟩, fun h => h.2 hc⟩

@[simp] theorem ends_bind {m : Prog σ ε α} {k : α → Prog σ ε β} {Q : β → σ → Prop} :
    EndsIn Q E ((m >>= k) s) ↔ EndsIn (fun a t => EndsIn Q E (k a t)) E (m s) := by
  show EndsIn Q E (andThen m k s) ↔ _
  unfold andThen
  rcases m s with ⟨_ | _, _⟩ <;> rfl

@[simp] theorem ends_rescue {m : Prog σ ε α} {handler : ε → Prog σ ε α} :
    EndsIn Q E (rescue m handler s) ↔ EndsIn Q (fun e t => EndsIn Q E (handler e t)) (m s) := by
  unfold rescue
  rcases m s with ⟨_ | _, _⟩ <;> rfl

/-- The rule of the loop. The invariant `I` may speak of the part of the list still to come. -/
theorem ends_fold {l : List α} {b : β} {f : β → α → Prog σ ε β} (I : List α → β → σ → Prop)
    (hf : ∀ a rest b t, (a :: rest) <:+ l → I (a :: rest) b t → EndsIn (I rest) E (f b a t))
    (h : I l b s) : EndsIn (I []) E (fold l b f s) := by
  induction l generalizing b s with
  | nil => exact h
  | cons a as ih =>
    have hrest : ∀ a' rest b t, (a' :: rest) <:+ as → I (a' :: rest) b t →
        EndsIn (I rest) E (f b a' t) := fun a' rest b t hsuf =>
      hf a' rest b t (hsuf.trans (List.suffix_cons a as))
    show EndsIn (I []) E ((f b a >>= fun b' => fold as b' f) s)
    rw [ends_bind]
    exact (hf a as b s List.suffix_rfl h).imp (fun b' t ht => ih hrest ht) fun _ _ => id

end

/-! ## Programs within a relation -/

/-- Every run of the program, however it ends, takes the state along the relation. -/
def Within (R : σ → σ → Prop) (m : Prog σ ε α) : Prop := ∀ s, R s (m s).2

namespace Within

variable {R : σ → σ → Prop}

theorem pure (hrefl : ∀ s, R s s) (a : α) : Within R (Pure.pure a : Prog σ ε α) := hrefl

theorem raise (hrefl : ∀ s, R s s) (e : ε) : Within R (Prog.raise e : Prog σ ε α) := hrefl

theorem reads (hrefl : ∀ s, R s s) (f : σ → α) : Within R (Prog.reads f : Prog σ ε α) := hrefl

theorem lift (hrefl : ∀ s, R s s) (x : Except ε α) : Within R (Prog.lift x : Prog σ ε α) := hrefl

theorem bind (htrans : ∀ s t u, R s t → R t u → R s u) {m : Prog σ ε α} {k : α → Prog σ ε β}
    (hm : Within R m) (hk : ∀ a, Within R (k a)) : Within R (m >>= k) := by
  intro s
  have hfirst := hm s
  show R s (andThen m k s).2
  unfold andThen
  rcases hrun : m s with ⟨_ | a, t⟩
  · rw [hrun] at hfirst
    exact hfirst
  · rw [hrun] at hfirst
    exact htrans _ _ _ hfirst (hk a t)

theorem rescue (htrans : ∀ s t u, R s t → R t u → R s u) {m : Prog σ ε α}
    {handler : ε → Prog σ ε α} (hm : Within R m) (hh : ∀ e, Within R (handler e)) :
    Within R (Prog.rescue m handler) := by
  intro s
  have hfirst := hm s
  unfold Prog.rescue
  rcases hrun : m s with ⟨e | a, t⟩
  · rw [hrun] at hfirst
    exact htrans _ _ _ hfirst (hh e t)
  · rw [hrun] at hfirst
    exact hfirst

theorem ite {c : Prop} [Decidable c] {m n : Prog σ ε α} (hm : Within R m) (hn : Within R n) :
    Within R (if c then m else n) := by
  split
  · exact hm
  · exact hn

theorem ends {m : Prog σ ε α} (h : Within R m) (s : σ) :
    EndsIn (fun _ t => R s t) (fun _ t => R s t) (m s) := by
  have hrun := h s
  rcases hm : m s with ⟨_ | _, t⟩
  · rw [hm] at hrun
    exact hrun
  · rw [hm] at hrun
    exact hrun

end Within

/-! ## The program logic -/

/-- What every step of a relation preserves holds at the end of every path. -/
theorem path_invariant {R : σ → σ → Prop} {I : σ → Prop} (hI : ∀ s s', R s s' → I s → I s')
    {s s' : σ} (hpath : ReflTransGen R s s') (h0 : I s) : I s' := by
  induction hpath with
  | refl => exact h0
  | tail _ hstep ih => exact hI _ _ hstep ih

/-- On a path from a state without `I` to one with it some step brings it about. -/
theorem path_crossing {R : σ → σ → Prop} {I : σ → Prop} {s t : σ} (hpath : ReflTransGen R s t)
    (hs : ¬ I s) (ht : I t) :
    ∃ a b, ReflTransGen R s a ∧ R a b ∧ ReflTransGen R b t ∧ ¬ I a ∧ I b := by
  induction hpath with
  | refl => exact absurd ht hs
  | @tail u v hu hstep ih =>
    by_cases hI : I u
    · obtain ⟨a, b, ha, hab, hb, h⟩ := ih hI
      exact ⟨a, b, ha, hab, hb.tail hstep, h⟩
    · exact ⟨u, v, hu, hstep, .refl, hI, ht⟩

/-- From a state with `P` the program moves along `R` and ends in `Q` or, raising, in `E`. -/
def Spec (R : σ → σ → Prop) (P : σ → Prop) (m : Prog σ ε α) (Q : α → σ → Prop)
    (E : ε → σ → Prop) : Prop :=
  ∀ s, P s → ReflTransGen R s (m s).2 ∧ EndsIn Q E (m s)

variable {R : σ → σ → Prop} {P P' : σ → Prop} {Q Q' : α → σ → Prop} {E E' : ε → σ → Prop}

namespace Spec

/-- The rule of consequence. -/
theorem conseq {m : Prog σ ε α} (h : Spec R P m Q E) (hP : ∀ s, P' s → P s)
    (hQ : ∀ a s, Q a s → Q' a s) (hE : ∀ e s, E e s → E' e s) : Spec R P' m Q' E' := by
  intro s hs
  obtain ⟨hpath, hend⟩ := h s (hP s hs)
  exact ⟨hpath, hend.imp hQ hE⟩

theorem pre {m : Prog σ ε α} (h : Spec R P m Q E) (hP : ∀ s, P' s → P s) : Spec R P' m Q E :=
  h.conseq hP (fun _ _ => id) (fun _ _ => id)

theorem post {m : Prog σ ε α} (h : Spec R P m Q E) (hQ : ∀ a s, Q a s → Q' a s) :
    Spec R P m Q' E :=
  h.conseq (fun _ => id) hQ (fun _ _ => id)

/-- A path of a stronger relation is a path of the weaker one. -/
theorem mono {R' : σ → σ → Prop} {m : Prog σ ε α} (h : Spec R P m Q E)
    (hR : ∀ s s', R s s' → R' s s') : Spec R' P m Q E := by
  intro s hs
  obtain ⟨hpath, hend⟩ := h s hs
  exact ⟨ReflTransGen.mono hR _ _ hpath, hend⟩

theorem ret {a : α} (h : ∀ s, P s → Q a s) : Spec R P (pure a) Q E :=
  fun s hs => ⟨.refl, h s hs⟩

theorem raise {e : ε} (h : ∀ s, P s → E e s) : Spec R P (Prog.raise e : Prog σ ε α) Q E :=
  fun s hs => ⟨.refl, h s hs⟩

theorem reads {f : σ → α} (h : ∀ s, P s → Q (f s) s) : Spec R P (Prog.reads f) Q E :=
  fun s hs => ⟨.refl, h s hs⟩

theorem read {Q : σ → σ → Prop} (h : ∀ s, P s → Q s s) : Spec R P Prog.read Q E :=
  fun s hs => ⟨.refl, h s hs⟩

theorem lift {x : Except ε α} (h : ∀ s, P s → EndsIn Q E (x, s)) : Spec R P (Prog.lift x) Q E :=
  fun s hs => ⟨.refl, h s hs⟩

/-- A change of the state is one step of the relation. -/
theorem alter {f : σ → σ} {Q : Unit → σ → Prop} (hR : ∀ s, P s → R s (f s))
    (hQ : ∀ s, P s → Q () (f s)) : Spec R P (Prog.alter f) Q E :=
  fun s hs => ⟨.single (hR s hs), hQ s hs⟩

/-- The rule of composition: what the first program establishes is what the second starts from. -/
theorem bind {m : Prog σ ε α} {k : α → Prog σ ε β} {Q : α → σ → Prop} {S : β → σ → Prop}
    (hm : Spec R P m Q E) (hk : ∀ a, Spec R (Q a) (k a) S E) : Spec R P (m >>= k) S E := by
  intro s hs
  obtain ⟨hpath, hend⟩ := hm s hs
  show ReflTransGen R s (andThen m k s).2 ∧ EndsIn S E (andThen m k s)
  unfold andThen
  rcases hrun : m s with ⟨_ | a, s'⟩
  · rw [hrun] at hpath hend
    exact ⟨hpath, hend⟩
  · rw [hrun] at hpath hend
    obtain ⟨hpath', hend'⟩ := hk a s' hend
    exact ⟨hpath.trans hpath', hend'⟩

theorem require {c : Prop} [Decidable c] {e : ε} {Q : Unit → σ → Prop}
    (hc : ∀ s, P s → c → Q () s) (he : ∀ s, P s → ¬ c → E e s) :
    Spec R P (Prog.require c e) Q E := by
  intro s hs
  unfold Prog.require
  by_cases h : c
  · rw [if_pos h]
    exact ⟨.refl, hc s hs h⟩
  · rw [if_neg h]
    exact ⟨.refl, he s hs h⟩

theorem discard {m : Prog σ ε α} (h : Spec R P m Q E) :
    Spec R P (Prog.discard m) (fun _ s => ∃ a, Q a s) E :=
  Spec.bind h fun a => Spec.ret fun _ hs => ⟨a, hs⟩

theorem onlyIf {c : Prop} [Decidable c] {m : Prog σ ε Unit} {Q : Unit → σ → Prop}
    (hm : c → Spec R P m Q E) (hn : ∀ s, P s → ¬ c → Q () s) :
    Spec R P (Prog.onlyIf c m) Q E := by
  intro s hs
  unfold Prog.onlyIf
  by_cases h : c
  · rw [if_pos h]
    exact hm h s hs
  · rw [if_neg h]
    exact ⟨.refl, hn s hs h⟩

/-- The rule of the handler: the states in which the body may raise are those the handler starts
from. -/
theorem rescue {m : Prog σ ε α} {handler : ε → Prog σ ε α} {F : ε → σ → Prop}
    (hm : Spec R P m Q F) (hh : ∀ e, Spec R (F e) (handler e) Q E) :
    Spec R P (Prog.rescue m handler) Q E := by
  intro s hs
  obtain ⟨hpath, hend⟩ := hm s hs
  unfold Prog.rescue
  rcases hrun : m s with ⟨e | a, s'⟩
  · rw [hrun] at hpath hend
    obtain ⟨hpath', hend'⟩ := hh e s' hend
    exact ⟨hpath.trans hpath', hend'⟩
  · rw [hrun] at hpath hend
    exact ⟨hpath, hend⟩

/-- The rule of the loop. The invariant `I` may speak of the part of the list still to come. -/
theorem fold {l : List α} {b : β} {f : β → α → Prog σ ε β} (I : List α → β → σ → Prop)
    (hf : ∀ a rest b, (a :: rest) <:+ l → Spec R (I (a :: rest) b) (f b a) (I rest) E) :
    Spec R (I l b) (Prog.fold l b f) (I []) E := by
  induction l generalizing b with
  | nil => exact fun s hs => ⟨.refl, hs⟩
  | cons a as ih =>
    refine Spec.bind (hf a as b List.suffix_rfl) fun b' => ?_
    exact ih fun a' rest b'' hsuf => hf a' rest b'' (hsuf.trans (List.suffix_cons a as))

/-- The rule of the loop with an invariant of the state alone. -/
theorem fold_inv {l : List α} {b : β} {f : β → α → Prog σ ε β}
    (hf : ∀ b, ∀ a ∈ l, Spec R P (f b a) (fun _ => P) E) :
    Spec R P (Prog.fold l b f) (fun _ => P) E :=
  Spec.fold (fun _ _ => P) fun a _ b hsuf => hf b a (hsuf.subset List.mem_cons_self)

/-- Both branches of a conditional. -/
theorem ite {c : Prop} [Decidable c] {m n : Prog σ ε α} (hm : c → Spec R P m Q E)
    (hn : ¬ c → Spec R P n Q E) : Spec R P (if c then m else n) Q E := by
  by_cases h : c
  · rw [if_pos h]; exact hm h
  · rw [if_neg h]; exact hn h

/-- A precondition that fixes the state may be assumed for one state at a time. -/
theorem of_eq {m : Prog σ ε α} (h : ∀ s, P s → Spec R (fun t => t = s) m Q E) : Spec R P m Q E :=
  fun s hs => h s hs s rfl

/-- What each step of `R` preserves may be carried through a program that follows `R`. -/
theorem keep {m : Prog σ ε α} {I : σ → Prop} (h : Spec R P m Q E)
    (hI : ∀ s s', R s s' → I s → I s') :
    Spec R (fun s => P s ∧ I s) m (fun a s => Q a s ∧ I s) (fun e s => E e s ∧ I s) := by
  intro s hs
  obtain ⟨hpath, hend⟩ := h s hs.1
  have hinv := path_invariant hI hpath hs.2
  refine ⟨hpath, ?_⟩
  rcases hrun : m s with ⟨_ | _, _⟩
  · rw [hrun] at hend hinv
    exact ⟨hend, hinv⟩
  · rw [hrun] at hend hinv
    exact ⟨hend, hinv⟩

/-- What a program that follows `R` preserves when each step of `R` preserves it. -/
theorem invariant {m : Prog σ ε α} (h : Spec R P m Q E) {I : σ → Prop}
    (hI : ∀ s s', R s s' → I s → I s') {s : σ} (hs : P s) (h0 : I s) : I (m s).2 :=
  path_invariant hI (h s hs).1 h0

end Spec

end Prog

end PortfolioManagement
