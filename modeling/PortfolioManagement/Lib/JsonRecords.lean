import PortfolioManagement.Lib.JsonLines

/-!
# Dicts as bytes, one a line

The bytes of a dict's text hold no line end (`lineEnd_notMem_render`), and only all of them are read
(`loads_of_strictBytes`): a file of such lines falls apart at its line ends, and its last line shows
whether it is whole.
-/

namespace PortfolioManagement

/-- The byte that ends a line. -/
def lineEnd : UInt8 := 10

/-! ## Line ends -/

theorem lineEnd_notMem_char {c : Char} (h : c.toNat ≠ '\n'.toNat) :
    lineEnd ∉ String.utf8EncodeChar c := by
  have hhigh : ∀ n base : Nat, 128 ≤ base → base + n < 256 → lineEnd ≠ UInt8.ofNat (n + base) := by
    intro n base hbase hbyte heq
    have hnat := congrArg UInt8.toNat heq
    rw [UInt8.toNat_ofNat', Nat.mod_eq_of_lt (by omega)] at hnat
    change 10 = n + base at hnat
    omega
  have hsmall : c.val.toNat ≤ 127 → lineEnd ≠ UInt8.ofNat c.val.toNat := by
    intro hle heq
    have hnat := congrArg UInt8.toNat heq
    rw [UInt8.toNat_ofNat', Nat.mod_eq_of_lt (by omega)] at hnat
    exact h hnat.symm
  show lineEnd ∉
    if c.val.toNat ≤ 0x7f then [UInt8.ofNat c.val.toNat]
    else if c.val.toNat ≤ 0x7ff then
      [UInt8.ofNat (c.val.toNat / 64 % 0x20 + 0xc0), UInt8.ofNat (c.val.toNat % 0x40 + 0x80)]
    else if c.val.toNat ≤ 0xffff then
      [UInt8.ofNat (c.val.toNat / 4096 % 0x10 + 0xe0), UInt8.ofNat (c.val.toNat / 64 % 0x40 + 0x80),
        UInt8.ofNat (c.val.toNat % 0x40 + 0x80)]
    else
      [UInt8.ofNat (c.val.toNat / 262144 % 0x08 + 0xf0), UInt8.ofNat (c.val.toNat / 4096 % 0x40 + 0x80),
        UInt8.ofNat (c.val.toNat / 64 % 0x40 + 0x80), UInt8.ofNat (c.val.toNat % 0x40 + 0x80)]
  split_ifs with h1 h2 h3
  · simp only [List.mem_singleton]
    exact hsmall h1
  · simp only [List.mem_cons, List.not_mem_nil, or_false, not_or]
    exact ⟨hhigh _ _ (by omega) (by omega), hhigh _ _ (by omega) (by omega)⟩
  · simp only [List.mem_cons, List.not_mem_nil, or_false, not_or]
    exact ⟨hhigh _ _ (by omega) (by omega), hhigh _ _ (by omega) (by omega),
      hhigh _ _ (by omega) (by omega)⟩
  · simp only [List.mem_cons, List.not_mem_nil, or_false, not_or]
    exact ⟨hhigh _ _ (by omega) (by omega), hhigh _ _ (by omega) (by omega),
      hhigh _ _ (by omega) (by omega), hhigh _ _ (by omega) (by omega)⟩

theorem lineEnd_notMem {text : Codes} {bytes : List UInt8} (h : encodeUtf8 text = some bytes)
    (hline : '\n'.toNat ∉ text) : lineEnd ∉ bytes := by
  obtain ⟨cs, hcs, rfl⟩ := Option.map_eq_some_iff.mp h
  rw [← map_toNat_of_mapM hcs] at hline
  intro hmem
  obtain ⟨c, hc, hbyte⟩ := List.mem_flatMap.mp hmem
  refine lineEnd_notMem_char (fun heq => hline ?_) hbyte
  exact heq ▸ List.mem_map_of_mem hc

theorem lineEnd_notMem_render {j : Json} (hj : Canonical j) {bytes : List UInt8}
    (h : encodeUtf8 (render j) = some bytes) : lineEnd ∉ bytes := by
  refine lineEnd_notMem h fun hmem => ?_
  have hhigh := ((mem_render (.inl (by decide)) j hj).mp hmem).2
  exact absurd hhigh (by decide)

/-! ## Parts -/

/-- A part of a text that is read as a dict and ends with its brace is no text of a value. -/
theorem loads_of_strictPart {text part rest : Codes} {items : Members}
    (hrun : Reader.start.run text = some ⟨.done (.object items), []⟩)
    (hclose : text.getLast? = some '}'.toNat) (htext : text = part ++ rest) (hrest : rest ≠ []) :
    loads part = none := by
  have hmem : '}'.toNat ∈ rest := by
    rw [htext, List.getLast?_append_of_ne_nil _ hrest] at hclose
    exact List.mem_of_getLast? hclose
  unfold loads
  rw [Option.bind_eq_none_iff]
  intro r hr
  cases hresult : r.result with
  | none => rfl
  | some v =>
    have hr' : Reader.start.run part = some r := hr
    rw [htext, Reader.run_append, hr', Option.bind_some] at hrun
    have hwhole : (Reader.mk (.done (.object items)) []).result = some (.object items) := rfl
    have hspace := Reader.space_of_result hresult hrun hwhole _ hmem
    cases hspace

theorem getLast?_render (ms : Members) : (render (.object ms)).getLast? = some '}'.toNat := by
  cases ms with
  | nil => rfl
  | cons m ms =>
    obtain ⟨k, v⟩ := m
    have hconcat : render (.object ((k, v) :: ms)) =
        ('{'.toNat :: (renderString k ++ (codes ": " ++ (render v ++ renderMembers ms)))) ++ ['}'.toNat] := by
      simp only [render, List.cons_append, List.append_assoc]
    rw [hconcat, List.getLast?_concat]

/-- A part of the bytes of a dict's text is no JSON text, or no text at all. -/
theorem loads_of_strictBytes {ms : Members} (h : Canonical (.object ms)) {part rest : List UInt8}
    (hbytes : encodeUtf8 (render (.object ms)) = some (part ++ rest)) (hrest : rest ≠ []) :
    (decodeUtf8 part).bind loads = none := by
  rw [Option.bind_eq_none_iff]
  intro text hdecode
  obtain ⟨t, htext, ht⟩ := prefix_of_decodeUtf8 hbytes hdecode
  refine loads_of_strictPart (run_object ms h) (getLast?_render ms) htext ?_
  rintro rfl
  rw [encodeUtf8_nil, Option.some.injEq] at ht
  exact hrest ht.symm

/-- All the bytes are read as the dict. -/
theorem loads_of_bytes {ms : Members} (h : Canonical (.object ms)) {bytes : List UInt8}
    (hbytes : encodeUtf8 (render (.object ms)) = some bytes) :
    (decodeUtf8 bytes).bind loads = some (.object ms) := by
  rw [decodeUtf8_of_encodeUtf8 hbytes, Option.bind_some, loads_render _ h]

end PortfolioManagement
