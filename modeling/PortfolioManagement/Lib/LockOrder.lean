import Mathlib.Logic.Function.Basic
import Mathlib.Logic.Relation
import Mathlib.Order.Basic

/-!
# Locks taken in ascending order

Processes run pieces of code that take exclusive locks, each released on the way out of the block
that took it. Of the code only its control flow is kept: which locks it requests and where it may
raise. When every request is above all locks the process holds (`Code.Ascends`), no process requests
a lock it holds, and the processes that wait for one another form no cycle (`no_deadlock`).
-/

namespace PortfolioManagement.LockOrder

/-- What a process does to a lock. -/
inductive LockEvent (κ : Type)
  | request (key : κ)
  | release (key : κ)
deriving DecidableEq

/-! ## Code -/

/-- The control flow of code between its locks. -/
inductive Code (κ : Type) : Type 1
  /-- code that takes no lock; it returns or raises -/
  | calm
  /-- `raise` -/
  | fail
  /-- one piece after the other -/
  | seq (first second : Code κ)
  /-- the piece that some data select -/
  | branch {ι : Type} (pieces : ι → Code κ)
  /-- a piece any number of times -/
  | loop (body : Code κ)
  /-- `try` and `except` -/
  | rescue (body handler : Code κ)
  /-- `with lock(key)` -/
  | locked (key : κ) (body : Code κ)

namespace Code

variable {κ : Type}

/-- Nested `with` blocks, as an `ExitStack` enters them. -/
def lockedAll (keys : List κ) (body : Code κ) : Code κ := keys.foldr locked body

/-- `if` -/
def onlyIf (body : Code κ) : Code κ := branch fun taken : Bool => if taken then body else calm

/-- Either piece. -/
def either (first second : Code κ) : Code κ := branch fun taken : Bool => if taken then first else second

/-- The requests and releases of a run, and whether it raised. -/
inductive Runs : Code κ → List (LockEvent κ) → Bool → Prop
  | calm (raised : Bool) : Runs calm [] raised
  | fail : Runs fail [] true
  | seq {first second : Code κ} {es fs : List (LockEvent κ)} {raised : Bool} :
      Runs first es false → Runs second fs raised → Runs (seq first second) (es ++ fs) raised
  | seqRaised {first second : Code κ} {es : List (LockEvent κ)} :
      Runs first es true → Runs (seq first second) es true
  | branch {ι : Type} {pieces : ι → Code κ} {es : List (LockEvent κ)} {raised : Bool} (i : ι) :
      Runs (pieces i) es raised → Runs (branch pieces) es raised
  | loopDone {body : Code κ} : Runs (loop body) [] false
  | loopMore {body : Code κ} {es fs : List (LockEvent κ)} {raised : Bool} :
      Runs body es false → Runs (loop body) fs raised → Runs (loop body) (es ++ fs) raised
  | loopRaised {body : Code κ} {es : List (LockEvent κ)} :
      Runs body es true → Runs (loop body) es true
  | rescued {body handler : Code κ} {es fs : List (LockEvent κ)} {raised : Bool} :
      Runs body es true → Runs handler fs raised → Runs (rescue body handler) (es ++ fs) raised
  | returned {body handler : Code κ} {es : List (LockEvent κ)} :
      Runs body es false → Runs (rescue body handler) es false
  | locked {key : κ} {body : Code κ} {es : List (LockEvent κ)} {raised : Bool} :
      Runs body es raised →
        Runs (locked key body) (.request key :: (es ++ [.release key])) raised
  /-- the lock file cannot be opened -/
  | unlocked {key : κ} {body : Code κ} : Runs (locked key body) [] true

/-- Every lock the code requests is above those held at the time. -/
def Ascends [LT κ] : List κ → Code κ → Prop
  | _, calm | _, fail => True
  | held, seq first second | held, rescue first second => Ascends held first ∧ Ascends held second
  | held, branch pieces => ∀ i, Ascends held (pieces i)
  | held, loop body => Ascends held body
  | held, locked key body => (∀ k ∈ held, k < key) ∧ Ascends (key :: held) body

/-- Locks taken in ascending order, above those held, around code that ascends. -/
theorem ascends_lockedAll [LT κ] {keys held : List κ} {body : Code κ}
    (hkeys : keys.Pairwise (· < ·)) (habove : ∀ k ∈ held, ∀ key ∈ keys, k < key)
    (hbody : body.Ascends (keys.reverse ++ held)) : (lockedAll keys body).Ascends held := by
  induction keys generalizing held with
  | nil => simpa [lockedAll] using hbody
  | cons key keys ih =>
    rw [List.pairwise_cons] at hkeys
    refine ⟨fun k hk => habove k hk key List.mem_cons_self, ih hkeys.2 (fun k hk key' hkey' => ?_) ?_⟩
    · rcases List.mem_cons.mp hk with rfl | hk
      · exact hkeys.1 key' hkey'
      · exact habove k hk key' (List.mem_cons_of_mem _ hkey')
    · simpa using hbody

theorem ascends_onlyIf [LT κ] {held : List κ} {body : Code κ} (h : body.Ascends held) :
    (onlyIf body).Ascends held := by
  rintro (_ | _)
  · trivial
  · exact h

theorem ascends_either [LT κ] {held : List κ} {first second : Code κ} (hfirst : first.Ascends held)
    (hsecond : second.Ascends held) : (either first second).Ascends held := by
  rintro (_ | _)
  · exact hsecond
  · exact hfirst

end Code

/-! ## Runs of events -/

section
variable {κ : Type} [LT κ]

/-- The events that follow while some locks are held: requests are above the locks held, the lock
taken last is released first, and none is held at the end. -/
def Ascending : List κ → List (LockEvent κ) → Prop
  | held, [] => held = []
  | held, .request key :: events => (∀ k ∈ held, k < key) ∧ Ascending (key :: held) events
  | held, .release key :: events => ∃ rest, held = key :: rest ∧ Ascending rest events

theorem Code.Ascends.ascending {code : Code κ} {held : List κ} {es rest : List (LockEvent κ)}
    {raised : Bool} (hcode : code.Ascends held) (hruns : code.Runs es raised)
    (hrest : Ascending held rest) : Ascending held (es ++ rest) := by
  induction hruns generalizing held rest with
  | calm | fail | loopDone | unlocked => exact hrest
  | seq _ _ ihfirst ihsecond =>
    rw [List.append_assoc]
    exact ihfirst hcode.1 (ihsecond hcode.2 hrest)
  | seqRaised _ ih => exact ih hcode.1 hrest
  | branch i _ ih => exact ih (hcode i) hrest
  | loopMore _ _ ihbody ihloop =>
    rw [List.append_assoc]
    exact ihbody hcode (ihloop hcode hrest)
  | loopRaised _ ih => exact ih hcode hrest
  | rescued _ _ ihbody ihhandler =>
    rw [List.append_assoc]
    exact ihbody hcode.1 (ihhandler hcode.2 hrest)
  | returned _ ih => exact ih hcode.1 hrest
  | @locked key body es raised _ ih =>
    rw [List.cons_append, List.append_assoc]
    exact ⟨hcode.1, ih hcode.2 ⟨held, rfl, hrest⟩⟩

end

/-! ## Processes -/

/-- The processes: what each has still to do, and the locks it holds, the last one first. -/
structure State (π κ : Type) where
  remaining : π → List (LockEvent κ)
  held : π → List κ

namespace State

variable {π κ : Type} [DecidableEq π]

/-- No process runs. -/
def idle : State π κ := ⟨fun _ => [], fun _ => []⟩

/-- One process gets other events and locks. -/
def set (s : State π κ) (p : π) (events : List (LockEvent κ)) (locks : List κ) : State π κ :=
  ⟨Function.update s.remaining p events, Function.update s.held p locks⟩

/-- The process is at a request for the lock. -/
def Requests (s : State π κ) (p : π) (key : κ) : Prop := ∃ rest, s.remaining p = .request key :: rest

/-- The first process requests a lock that the second holds. -/
def WaitsFor (s : State π κ) (p q : π) : Prop := ∃ key, s.Requests p key ∧ key ∈ s.held q

/-- One step of one process. A process starts a piece of code when it has finished the one before,
takes a lock that no process holds, releases one, or dies, and then the kernel releases its locks. -/
inductive Step (codes : Set (Code κ)) : State π κ → State π κ → Prop
  | start {s : State π κ} {p : π} {code : Code κ} {events : List (LockEvent κ)} {raised : Bool} :
      code ∈ codes → code.Runs events raised → s.remaining p = [] →
        Step codes s (s.set p events (s.held p))
  | acquire {s : State π κ} {p : π} {key : κ} {rest : List (LockEvent κ)} :
      s.remaining p = .request key :: rest → (∀ q, key ∉ s.held q) →
        Step codes s (s.set p rest (key :: s.held p))
  | release {s : State π κ} {p : π} {key : κ} {rest : List (LockEvent κ)} {locks : List κ} :
      s.remaining p = .release key :: rest → s.held p = key :: locks →
        Step codes s (s.set p rest locks)
  | crash {s : State π κ} {p : π} : Step codes s (s.set p [] [])

/-- The states that processes running the codes reach. -/
def Reachable (codes : Set (Code κ)) (s : State π κ) : Prop :=
  Relation.ReflTransGen (Step codes) idle s

/-- Every process has ascending events ahead. -/
def Ordered [LT κ] (s : State π κ) : Prop := ∀ p, Ascending (s.held p) (s.remaining p)

theorem Ordered.set [LT κ] {s : State π κ} (h : s.Ordered) {p : π} {events : List (LockEvent κ)}
    {locks : List κ} (hp : Ascending locks events) : (s.set p events locks).Ordered := by
  intro q
  unfold State.set
  by_cases hq : q = p
  · subst hq
    simpa using hp
  · simpa [hq] using h q

variable {codes : Set (Code κ)} {s s' : State π κ}

/-- A step keeps the order when every code ascends. -/
theorem Ordered.step [LT κ] (hcodes : ∀ code ∈ codes, code.Ascends []) (h : s.Ordered)
    (hstep : Step codes s s') : s'.Ordered := by
  cases hstep with
  | @start p code events raised hcode hruns hidle =>
    have hnone := h p
    rw [hidle] at hnone
    have hahead : Ascending [] (events ++ []) := (hcodes code hcode).ascending hruns rfl
    refine h.set ?_
    rw [show s.held p = [] from hnone]
    simpa using hahead
  | @acquire p key rest hrequest hfree =>
    have hahead := h p
    rw [hrequest] at hahead
    exact h.set hahead.2
  | @release p key rest locks hrelease hheld =>
    have hahead := h p
    rw [hrelease, hheld] at hahead
    obtain ⟨locks', hlocks, hrest⟩ := hahead
    cases hlocks
    exact h.set hrest
  | crash => exact h.set rfl

theorem Reachable.ordered [LT κ] (hcodes : ∀ code ∈ codes, code.Ascends [])
    (h : Reachable codes s) : s.Ordered := by
  induction h with
  | refl => exact fun _ => rfl
  | tail _ hstep ih => exact ih.step hcodes hstep

section
variable [Preorder κ]

omit [DecidableEq π] in
/-- A lock that is requested is above all locks the process holds. -/
theorem Ordered.lt_of_requests (h : s.Ordered) {p : π} {key k : κ} (hrequest : s.Requests p key)
    (hk : k ∈ s.held p) : k < key := by
  obtain ⟨rest, hrest⟩ := hrequest
  have hahead := h p
  rw [hrest] at hahead
  exact hahead.1 k hk

omit [DecidableEq π] in
/-- Along a chain of waiting processes the locks ascend. -/
theorem Ordered.chain (h : s.Ordered) {p q : π} (hchain : Relation.TransGen s.WaitsFor p q) :
    ∃ key k, s.Requests p key ∧ k ∈ s.held q ∧ key ≤ k := by
  induction hchain with
  | single hwaits =>
    obtain ⟨key, hrequest, hheld⟩ := hwaits
    exact ⟨key, key, hrequest, hheld, le_rfl⟩
  | tail _ hwaits ih =>
    obtain ⟨key, k, hrequest, hheld, hle⟩ := ih
    obtain ⟨next, hnext, hnextHeld⟩ := hwaits
    exact ⟨key, next, hrequest, hnextHeld, (hle.trans_lt (h.lt_of_requests hnext hheld)).le⟩

/-- Processes whose codes ascend never request a lock they hold, and never wait in a cycle. -/
theorem no_deadlock (hcodes : ∀ code ∈ codes, code.Ascends []) (hs : Reachable codes s) :
    (∀ p key, s.Requests p key → key ∉ s.held p) ∧
      ∀ p, ¬ Relation.TransGen s.WaitsFor p p := by
  have h := hs.ordered hcodes
  refine ⟨fun p key hrequest hheld => lt_irrefl key (h.lt_of_requests hrequest hheld),
    fun p hcycle => ?_⟩
  obtain ⟨key, k, hrequest, hheld, hle⟩ := h.chain hcycle
  exact lt_irrefl key (hle.trans_lt (h.lt_of_requests hrequest hheld))

end

end State

end PortfolioManagement.LockOrder
