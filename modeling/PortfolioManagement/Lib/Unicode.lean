import Mathlib.Data.List.Basic
import Mathlib.Data.Option.Basic

/-!
# Texts as code points, and their UTF-8 form

A text is a list of code points. Halves of surrogate pairs are code points and can stand in a text,
but UTF-8 encodes characters only: `encodeUtf8` refuses a text that holds anything else. Encoding
and decoding are those of the core library, so what is shown here is only how they act on texts
that are put together from parts.
-/

namespace PortfolioManagement

/-- A text: its code points. -/
abbrev Codes := List Nat

/-- The code points of a string. -/
def codes (s : String) : Codes := s.toList.map Char.toNat

/-- The character of a code point, when the code point is one. -/
def charOf? (n : Nat) : Option Char :=
  if n.isValidChar then some (Char.ofNat n) else none

/-- The bytes of a text, when every code point of it is a character. -/
def encodeUtf8 (text : Codes) : Option (List UInt8) :=
  (text.mapM charOf?).map fun cs => cs.flatMap String.utf8EncodeChar

/-- The text of a byte string, when it is the encoding of one. -/
def decodeUtf8 (bytes : List UInt8) : Option Codes :=
  bytes.toByteArray.utf8Decode?.map fun cs => cs.toList.map Char.toNat

theorem toNat_charOf? {n : Nat} {c : Char} (h : charOf? n = some c) : c.toNat = n := by
  unfold charOf? at h
  split at h
  next hvalid =>
    cases h
    rw [Char.ofNat, dif_pos hvalid]
    rfl
  · cases h

theorem charOf?_toNat (c : Char) : charOf? c.toNat = some c := by
  unfold charOf?
  rw [if_pos (show c.toNat.isValidChar from c.valid), Char.ofNat_toNat]

theorem mapM_charOf?_toNat (cs : List Char) : (cs.map Char.toNat).mapM charOf? = some cs := by
  induction cs with
  | nil => rfl
  | cons c cs ih => simp [List.mapM_cons, charOf?_toNat, ih]

theorem map_toNat_of_mapM {text : Codes} {cs : List Char} (h : text.mapM charOf? = some cs) :
    cs.map Char.toNat = text := by
  induction text generalizing cs with
  | nil => cases h; rfl
  | cons n text ih =>
    rw [List.mapM_cons] at h
    cases hn : charOf? n with
    | none => simp [hn] at h
    | some c =>
      cases ht : text.mapM charOf? with
      | none => simp [hn, ht] at h
      | some ds =>
        simp only [hn, ht, Option.bind_eq_bind, Option.bind_some, Option.pure_def,
          Option.some.injEq] at h
        rw [← h, List.map_cons, toNat_charOf? hn, ih ht]

/-- The bytes of a list of characters decode to it. -/
theorem decodeUtf8_flatMap (cs : List Char) :
    decodeUtf8 (cs.flatMap String.utf8EncodeChar) = some (cs.map Char.toNat) := by
  have hbytes : (cs.flatMap String.utf8EncodeChar).toByteArray = cs.utf8Encode := rfl
  rw [decodeUtf8, hbytes, List.utf8Decode?_utf8Encode]
  simp

/-- An encoded text decodes to itself. -/
theorem decodeUtf8_of_encodeUtf8 {text : Codes} {bytes : List UInt8}
    (h : encodeUtf8 text = some bytes) : decodeUtf8 bytes = some text := by
  obtain ⟨cs, hcs, rfl⟩ := Option.map_eq_some_iff.mp h
  rw [decodeUtf8_flatMap, map_toNat_of_mapM hcs]

/-- What decodes is the encoding of what it decodes to. -/
theorem encodeUtf8_of_decodeUtf8 {text : Codes} {bytes : List UInt8}
    (h : decodeUtf8 bytes = some text) : encodeUtf8 text = some bytes := by
  obtain ⟨cs, hcs, rfl⟩ := Option.map_eq_some_iff.mp h
  have hsome : bytes.toByteArray.utf8Decode?.isSome := by simp [hcs]
  have hget : bytes.toByteArray.utf8Decode?.get hsome = cs := by simp [hcs]
  have henc : (cs.toList.flatMap String.utf8EncodeChar).toByteArray = bytes.toByteArray := by
    rw [← hget]
    exact ByteArray.utf8Encode_get_utf8Decode?
  rw [encodeUtf8, mapM_charOf?_toNat, Option.map_some, List.toByteArray_inj.mp henc]

@[simp] theorem encodeUtf8_nil : encodeUtf8 [] = some [] := rfl

@[simp] theorem decodeUtf8_nil : decodeUtf8 [] = some [] :=
  decodeUtf8_of_encodeUtf8 encodeUtf8_nil

/-- A text is encoded part by part. -/
theorem encodeUtf8_append (s t : Codes) :
    encodeUtf8 (s ++ t) = (encodeUtf8 s).bind fun b => (encodeUtf8 t).map fun b' => b ++ b' := by
  unfold encodeUtf8
  rw [List.mapM_append]
  cases hs : s.mapM charOf? with
  | none => simp
  | some cs =>
    cases ht : t.mapM charOf? with
    | none => simp
    | some ds => simp

/-- A character at the front of a byte string is decoded first. -/
theorem decodeUtf8_char_append (c : Char) (bytes : List UInt8) :
    decodeUtf8 (String.utf8EncodeChar c ++ bytes) =
      (decodeUtf8 bytes).map fun text => c.toNat :: text := by
  have hfirst : (String.utf8EncodeChar c ++ bytes).toByteArray =
      [c].utf8Encode ++ bytes.toByteArray := by
    rw [List.toByteArray_append, List.utf8Encode_singleton]
  rw [decodeUtf8, hfirst, ByteArray.utf8Decode?_utf8Encode_singleton_append, decodeUtf8,
    Option.map_map, Option.map_map]
  congr 1
  funext cs
  simp

/-- Bytes after an encoded text are decoded on their own. -/
theorem decodeUtf8_append {text : Codes} {bytes : List UInt8} (h : encodeUtf8 text = some bytes)
    (rest : List UInt8) :
    decodeUtf8 (bytes ++ rest) = (decodeUtf8 rest).map fun t => text ++ t := by
  obtain ⟨cs, hcs, rfl⟩ := Option.map_eq_some_iff.mp h
  rw [← map_toNat_of_mapM hcs]
  clear h hcs
  induction cs with
  | nil => simp
  | cons c cs ih =>
    rw [List.flatMap_cons, List.append_assoc, decodeUtf8_char_append, ih, Option.map_map]
    rfl

/-- A prefix of an encoded text that decodes at all decodes to a prefix of the text. -/
theorem prefix_of_decodeUtf8 {text part : Codes} {bytes rest : List UInt8}
    (h : encodeUtf8 text = some (bytes ++ rest)) (hpart : decodeUtf8 bytes = some part) :
    ∃ t, text = part ++ t ∧ encodeUtf8 t = some rest := by
  have henc := encodeUtf8_of_decodeUtf8 hpart
  have hdec := decodeUtf8_of_encodeUtf8 h
  rw [decodeUtf8_append henc] at hdec
  obtain ⟨t, ht, htext⟩ := Option.map_eq_some_iff.mp hdec
  exact ⟨t, htext.symm, encodeUtf8_of_decodeUtf8 ht⟩

end PortfolioManagement
