import PortfolioManagement.Compensation.Log
import PortfolioManagement.Lib.JsonIndented
import PortfolioManagement.Lib.Machine

/-!
# A cache in a file

The local caches share one way of life. A dict is loaded when a cache is made, changed in memory, and
written to its file at once or when enough changes have come together; the file is truncated and
rewritten in place, so a crash leaves a part of the new bytes. Loading takes a missing file and a file
that is no JSON text for an empty cache, but a file that ends inside a character raises.

The dicts in memory are kept in key order. A save writes their items in the order they were set, which
the model does not keep, so it may write them in any order.
-/

namespace PortfolioManagement.LocalCache

/-- `FLUSH_MAX_DIRTY_COUNT`. -/
def flushMaxDirtyCount : Nat := 10

/-- What a cache class does with its dict. -/
structure CacheClass where
  /-- an operation that may change the cache, with what it takes and the time it happens -/
  Op : Type
  /-- the dict after an operation and the number of changes counted; `none` when nothing changes -/
  perform : Op → Dict → Option (Dict × Nat)
  /-- the operation asks for a write at once -/
  flushes : Op → Bool
  /-- what is written, with the text of the time it is written at -/
  payload : Codes → Dict → Dict
  /-- what `_load_unlocked` keeps of what it loads -/
  accept : Json → Json

/-- A cache object. -/
structure CacheObject where
  /-- `_cache` -/
  cache : Dict
  /-- `_dirty_count` -/
  dirtyCount : Nat
  /-- `_dirty_flag` -/
  dirtyFlag : Bool

/-- `UnicodeDecodeError`, which loading does not catch. -/
inductive LoadError
  | unicodeDecodeError
deriving DecidableEq, Repr

/-- `json.load(f)` of a file opened as UTF-8; `none` is a `JSONDecodeError`. -/
def readFile (bytes : List UInt8) : Except LoadError (Option Json) :=
  match decodeUtf8 bytes with
  | none => .error .unicodeDecodeError
  | some text => .ok (loads (universalNewlines false text))

/-- The text of a payload with its items in some order. -/
structure Writes (payload : Dict) (bytes : List UInt8) : Prop where
  /-- some arrangement of the items is written -/
  arranged : ∃ ms : Members, Indented.ordered (.object ms) = .object payload.items ∧
    Indented.Literal (.object ms) ∧ encodeUtf8 (Indented.dump 0 (.object ms)) = some bytes

/-! ## Reading a part -/

/-- What was written completely is read back. -/
theorem readFile_written {payload : Dict} {bytes : List UInt8} (h : Writes payload bytes) :
    readFile bytes = .ok (some (.object payload.items)) := by
  obtain ⟨ms, hordered, hliteral, hbytes⟩ := h.arranged
  unfold readFile
  rw [decodeUtf8_of_encodeUtf8 hbytes]
  simp only
  rw [universalNewlines_of_notMem (Indented.return_notMem_dump hliteral 0), Indented.loads_dump ms hliteral,
    hordered]

/-- A part of what was written is no JSON text, if it is a text at all. -/
theorem readFile_torn {payload : Dict} {bytes : List UInt8} (h : Writes payload bytes) {reached : Nat}
    (htorn : reached < bytes.length) :
    readFile (bytes.take reached) =
      if (decodeUtf8 (bytes.take reached)).isSome then .ok none else .error .unicodeDecodeError := by
  obtain ⟨ms, hordered, hliteral, hbytes⟩ := h.arranged
  unfold readFile
  cases hdecode : decodeUtf8 (bytes.take reached) with
  | none => rfl
  | some part =>
    rw [← List.take_append_drop reached bytes] at hbytes
    obtain ⟨rest, htext, hrest⟩ := prefix_of_decodeUtf8 hbytes hdecode
    have hne : rest ≠ [] := by
      rintro rfl
      rw [encodeUtf8_nil, Option.some.injEq, eq_comm, List.drop_eq_nil_iff] at hrest
      omega
    have hreturn : '\r'.toNat ∉ part := by
      intro hmem
      have hall := Indented.return_notMem_dump hliteral 0
      rw [htext] at hall
      exact hall (List.mem_append_left rest hmem)
    simp only [Option.isSome_some, if_true]
    rw [universalNewlines_of_notMem hreturn, Indented.loads_of_strictPart hliteral htext hne]

/-! ## Runs -/

namespace CacheClass

variable (K : CacheClass)

/-- `_load_unlocked`. -/
def load (file : Option (List UInt8)) : Except LoadError Json :=
  match file with
  | none => .ok (.object [])
  | some bytes => (readFile bytes).map fun loaded => (loaded.map K.accept).getD (.object [])

/-- What is asked of a cache object: an operation, or a flush (by hand, by the timer, on closing). -/
inductive Request
  | op (op : K.Op)
  | flush

/-- The object when a request has been carried out in memory, and whether it writes now. -/
def serve (i : CacheObject) : K.Request → CacheObject × Bool
  | .op op =>
    match K.perform op i.cache with
    | none => (i, false)
    | some (cache, changes) =>
      (⟨cache, i.dirtyCount + changes, true⟩,
        K.flushes op || flushMaxDirtyCount ≤ i.dirtyCount + changes)
  | .flush => (i, i.dirtyFlag)

/-- A cache object and its file. -/
structure World where
  /-- the bytes of the file, if there is one -/
  file : Option (List UInt8)
  /-- the object, if there is one -/
  running : Option CacheObject
  /-- the dict of the last save, if that was completed -/
  saved : Option Dict

/-- Before any cache. -/
def World.initial : World := ⟨none, none, none⟩

/-- What happens next. -/
inductive Step : World → World → Prop
  /-- a cache is made from the file -/
  | start {w : World} {cache : Dict} :
      w.running = none → K.load w.file = .ok (.object cache.items) →
      Step w { w with running := some ⟨cache, 0, false⟩ }
  /-- a request that does not write -/
  | request {w : World} {i i' : CacheObject} {r : K.Request} :
      w.running = some i → K.serve i r = (i', false) → Step w { w with running := some i' }
  /-- a request that writes -/
  | save {w : World} {i i' : CacheObject} {r : K.Request} {now : Codes} {bytes : List UInt8} :
      w.running = some i → K.serve i r = (i', true) → Writes (K.payload now i'.cache) bytes →
      Step w ⟨some bytes, some { i' with dirtyCount := 0, dirtyFlag := false }, some i'.cache⟩
  /-- a crash during a write, which has reached some of the bytes -/
  | crash {w : World} {i i' : CacheObject} {r : K.Request} {now : Codes} {bytes : List UInt8}
      {reached : Nat} :
      w.running = some i → K.serve i r = (i', true) → Writes (K.payload now i'.cache) bytes →
      reached ≤ bytes.length →
      Step w ⟨some (bytes.take reached), none, if reached = bytes.length then some i'.cache else none⟩
  /-- the object goes away, with what it has not written -/
  | gone {w : World} : Step w { w with running := none }

/-- A crash leaves a whole number of characters. -/
def WholeCharacters (w : World) : Prop := ∀ bytes, w.file = some bytes → (decodeUtf8 bytes).isSome

/-- The worlds that are reached. -/
inductive Run : World → Prop
  | initial : Run World.initial
  | step {w w' : World} : Run w → K.Step w w' → Run w'

end CacheClass

end PortfolioManagement.LocalCache
