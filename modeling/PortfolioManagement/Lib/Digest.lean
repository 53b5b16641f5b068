import Mathlib.Logic.Function.Basic

/-!
# Digests of canonical encodings

A content hash over a canonical encoding, with the hash taken as injective. `Digest α` keeps the
hashed value itself, so that equality of digests is equality of what was hashed and nothing else
can be done with a digest than compare it.
-/

namespace PortfolioManagement

/-- The digest of a value of type `α`. -/
structure Digest (α : Type) where
  /-- the hashed value -/
  preimage : α
deriving DecidableEq

namespace Digest

variable {α : Type}

/-- The digest function. -/
def of (a : α) : Digest α := ⟨a⟩

/-- The collision freedom every use of a digest rests on. -/
theorem of_injective : Function.Injective (of : α → Digest α) := fun _ _ h => congrArg preimage h

@[simp] theorem of_inj {a b : α} : of a = of b ↔ a = b := of_injective.eq_iff

@[simp] theorem of_preimage (d : Digest α) : of d.preimage = d := rfl

@[simp] theorem preimage_of (a : α) : (of a).preimage = a := rfl

end Digest

end PortfolioManagement
