import PortfolioManagement.Compensation.Log
import PortfolioManagement.Lib.JsonRecords
import PortfolioManagement.NavRepair.Journal

/-!
# The bytes of the journal

Appending looks at the last byte of the file: what follows the last line end is cut off first. Reading
looks at the last line: it counts when it is a JSON text, whether it has its end or not. So a line that
lacks its end alone is read until the next append takes it away (`journal_prefix_consistent_iff`).
-/

namespace PortfolioManagement.NavRepair

/-! ## Appending -/

/-- An event that can be written, with the bytes of its text. -/
structure JournalLine where
  /-- the event -/
  event : Dict
  /-- `json.dumps(event, ensure_ascii=False, sort_keys=True)`, encoded -/
  bytes : List UInt8
  /-- they are its bytes -/
  encoded : encodeUtf8 (render (.object event.items)) = some bytes

/-- An append that has cut the old tail off and written some of its bytes. One that stops before that
leaves the file as it is, and one that cannot encode its event leaves what one leaves that wrote none. -/
structure JournalAppend where
  /-- what is appended -/
  line : JournalLine
  /-- how many bytes reached the file -/
  reached : Nat

namespace JournalAppend

/-- The bytes that reached the file. -/
def written (a : JournalAppend) : List UInt8 := (a.line.bytes ++ [lineEnd]).take a.reached

/-- The append returned normally. -/
def returned (a : JournalAppend) : Bool := a.line.bytes.length < a.reached

/-- All of the text reached the file, if not its line end. -/
def textReached (a : JournalAppend) : Bool := a.line.bytes.length ≤ a.reached

end JournalAppend

/-- `data.rfind(b"\n") + 1`. -/
def lastLineStart (data : List UInt8) : Nat := (data.reverse.dropWhile (· ≠ lineEnd)).length

/-- The file after an append has looked at its last byte. -/
def cutTail (data : List UInt8) : List UInt8 :=
  if data = [] ∨ data.getLast? = some lineEnd then data else data.take (lastLineStart data)

/-- `_append_journal`. -/
def appendBytes (data : List UInt8) (a : JournalAppend) : List UInt8 := cutTail data ++ a.written

/-- The journal after some appends; there is none before the first. -/
def journalData (run : List JournalAppend) : Option (List UInt8) :=
  run.foldl (fun file a => some (appendBytes (file.getD []) a)) none

/-! ## Reading -/

/-- What reading raises. -/
inductive JournalReadError
  /-- `journal not found` -/
  | notFound
  /-- `invalid journal JSON at line` -/
  | invalidJson (lineNumber : Nat)
  /-- `invalid journal event at line` -/
  | invalidEvent (lineNumber : Nat)
deriving DecidableEq, Repr

/-- `bytes.strip()` removes the byte. -/
def isAsciiSpace (b : UInt8) : Bool := b == 32 || (9 ≤ b && b ≤ 13)

/-- The lines from a number on; whether the data ends with a line end decides what a last line that
cannot be read means. -/
def readRawLines (endsWithLineEnd : Bool) (lineNumber : Nat) :
    List (List UInt8) → Except JournalReadError (List Members)
  | [] => .ok []
  | rawLine :: rawLines =>
    if rawLine.all isAsciiSpace then readRawLines endsWithLineEnd (lineNumber + 1) rawLines
    else match (decodeUtf8 rawLine).bind loads with
      | none =>
        if rawLines = [] ∧ ¬ endsWithLineEnd then .ok [] else .error (.invalidJson lineNumber)
      | some (.object event) =>
        (readRawLines endsWithLineEnd (lineNumber + 1) rawLines).map fun events => event :: events
      | some _ => .error (.invalidEvent lineNumber)

/-- The events that `_read_journal` finds. What it checks and returns is made of them alone
(`readLines`). -/
def readEvents : Option (List UInt8) → Except JournalReadError (List Members)
  | none => .error .notFound
  | some data => readRawLines (data.getLast? = some lineEnd) 1 (data.splitOn lineEnd)

/-! ## What is in the file -/

namespace JournalLine

/-- The line with its end. -/
def ended (line : JournalLine) : List UInt8 := line.bytes ++ [lineEnd]

theorem lineEnd_notMem_bytes (line : JournalLine) : lineEnd ∉ line.bytes :=
  lineEnd_notMem_render line.event.canonical line.encoded

/-- A text begins with a brace. -/
theorem bytes_eq (line : JournalLine) : ∃ rest, line.bytes = 123 :: rest := by
  have hhead : ∃ text, render (.object line.event.items) = codes "\x7b" ++ text := by
    cases line.event.items with
    | nil => exact ⟨codes "\x7d", rfl⟩
    | cons m ms => exact ⟨_, rfl⟩
  obtain ⟨text, htext⟩ := hhead
  have hbytes := line.encoded
  have hbrace : encodeUtf8 (codes "\x7b") = some [123] := by decide
  rw [htext, encodeUtf8_append, hbrace, Option.bind_some] at hbytes
  obtain ⟨rest, -, hrest⟩ := Option.map_eq_some_iff.mp hbytes
  exact ⟨rest, hrest.symm⟩

theorem notBlank (line : JournalLine) : line.bytes.all isAsciiSpace = false := by
  obtain ⟨rest, hbytes⟩ := line.bytes_eq
  rw [hbytes]
  rfl

theorem loads_bytes (line : JournalLine) :
    (decodeUtf8 line.bytes).bind loads = some (.object line.event.items) :=
  loads_of_bytes line.event.canonical line.encoded

end JournalLine

/-- What may follow the last line end: a part of a line, not of its end. -/
def IsTail (tail : List UInt8) : Prop := ∃ line : JournalLine, tail <+: line.bytes

/-- What is read of the tail. -/
def tailEvents (tail : List UInt8) : List Members :=
  match (decodeUtf8 tail).bind loads with
  | some (.object event) => [event]
  | _ => []

section
variable {lines : List JournalLine} {tail : List UInt8}

theorem lineEnd_notMem_tail (h : IsTail tail) : lineEnd ∉ tail := by
  obtain ⟨line, hpart⟩ := h
  exact fun hmem => line.lineEnd_notMem_bytes (hpart.subset hmem)

theorem splitOn_lines (htail : lineEnd ∉ tail) : ∀ lines : List JournalLine,
    (lines.flatMap JournalLine.ended ++ tail).splitOn lineEnd = lines.map JournalLine.bytes ++ [tail]
  | [] => List.splitOn_eq_singleton htail
  | line :: lines => by
    have hcons : (line :: lines).flatMap JournalLine.ended ++ tail =
        line.bytes ++ lineEnd :: (lines.flatMap JournalLine.ended ++ tail) := by
      simp [JournalLine.ended]
    rw [hcons, List.splitOn_append_cons_self_of_not_mem line.lineEnd_notMem_bytes,
      splitOn_lines htail lines]
    rfl

theorem readRawLines_lines (endsWithLineEnd : Bool) (rawLines : List (List UInt8)) :
    ∀ (lines : List JournalLine) (lineNumber : Nat),
    readRawLines endsWithLineEnd lineNumber (lines.map JournalLine.bytes ++ rawLines) =
      (readRawLines endsWithLineEnd (lineNumber + lines.length) rawLines).map fun events =>
        lines.map (·.event.items) ++ events
  | [], lineNumber => by
    cases h : readRawLines endsWithLineEnd lineNumber rawLines <;> simp [h, Except.map]
  | line :: lines, lineNumber => by
    have hnumber : lineNumber + 1 + lines.length = lineNumber + (line :: lines).length := by
      rw [List.length_cons]
      omega
    rw [List.map_cons, List.cons_append, readRawLines, line.notBlank, line.loads_bytes]
    simp only [Bool.false_eq_true, if_false, readRawLines_lines endsWithLineEnd rawLines lines, hnumber]
    cases readRawLines endsWithLineEnd (lineNumber + (line :: lines).length) rawLines <;> rfl

/-- A tail that is not all of a line is not read. -/
theorem tailEvents_strict {line : JournalLine} {rest : List UInt8} (h : line.bytes = tail ++ rest)
    (hrest : rest ≠ []) : (decodeUtf8 tail).bind loads = none :=
  loads_of_strictBytes line.event.canonical (h ▸ line.encoded) hrest

theorem tailEvents_whole (line : JournalLine) : tailEvents line.bytes = [line.event.items] := by
  rw [tailEvents, line.loads_bytes]

theorem tailEvents_part {line : JournalLine} {rest : List UInt8} (h : line.bytes = tail ++ rest)
    (hrest : rest ≠ []) : tailEvents tail = [] := by
  rw [tailEvents, tailEvents_strict h hrest]

theorem readRawLines_tail (h : IsTail tail) (lineNumber : Nat) :
    readRawLines false lineNumber [tail] = .ok (tailEvents tail) := by
  obtain ⟨line, rest, hpart⟩ := h
  cases hrest : rest with
  | nil =>
    have hwhole : tail = line.bytes := by rw [← hpart, hrest, List.append_nil]
    rw [hwhole, tailEvents_whole, readRawLines, line.notBlank, line.loads_bytes]
    rfl
  | cons b rest' =>
    have hne : rest ≠ [] := by rw [hrest]; exact List.cons_ne_nil b rest'
    rw [tailEvents_part hpart.symm hne, readRawLines, tailEvents_strict hpart.symm hne]
    split
    · rfl
    · rfl

theorem getLast?_ended : ∀ lines : List JournalLine, lines ≠ [] →
    (lines.flatMap JournalLine.ended).getLast? = some lineEnd := by
  intro lines hne
  obtain ⟨front, line, rfl⟩ := List.eq_nil_or_concat lines |>.resolve_left hne
  rw [List.concat_eq_append, List.flatMap_append, List.flatMap_singleton, JournalLine.ended,
    ← List.append_assoc, List.getLast?_concat]

theorem getLast?_tail (h : lineEnd ∉ tail) (hne : tail ≠ []) (data : List UInt8) :
    (data ++ tail).getLast? ≠ some lineEnd := by
  rw [List.getLast?_append_of_ne_nil _ hne]
  exact fun hlast => h (List.mem_of_getLast? hlast)

/-- What is read of a file of lines and a tail. -/
theorem readEvents_lines (h : IsTail tail) :
    readEvents (some (lines.flatMap JournalLine.ended ++ tail)) =
      .ok (lines.map (·.event.items) ++ tailEvents tail) := by
  rw [readEvents, splitOn_lines (lineEnd_notMem_tail h), readRawLines_lines]
  cases htail : tail with
  | nil =>
    have hempty : tailEvents [] = [] := by
      rw [tailEvents, decodeUtf8_nil]
      rfl
    rw [readRawLines, hempty]
    rfl
  | cons b bs =>
    have hne : tail ≠ [] := by rw [htail]; exact List.cons_ne_nil b bs
    have hlast := getLast?_tail (lineEnd_notMem_tail h) hne (lines.flatMap JournalLine.ended)
    rw [← htail, decide_eq_false hlast, readRawLines_tail h]
    rfl

/-- An append keeps the lines and cuts the tail off. -/
theorem cutTail_lines (h : lineEnd ∉ tail) :
    cutTail (lines.flatMap JournalLine.ended ++ tail) = lines.flatMap JournalLine.ended := by
  unfold cutTail
  by_cases htail : tail = []
  · rw [htail, List.append_nil, if_pos]
    by_cases hlines : lines = []
    · exact .inl (by rw [hlines, List.flatMap_nil])
    · exact .inr (getLast?_ended lines hlines)
  · have hne : lines.flatMap JournalLine.ended ++ tail ≠ [] := by simp [htail]
    have hstart : lastLineStart (lines.flatMap JournalLine.ended ++ tail) =
        (lines.flatMap JournalLine.ended).length := by
      rw [lastLineStart, List.reverse_append, List.dropWhile_append_of_pos, ← List.length_reverse]
      · congr 1
        by_cases hlines : lines = []
        · rw [hlines]
          rfl
        · have hhead := getLast?_ended lines hlines
          rw [← List.head?_reverse] at hhead
          obtain ⟨bs, hbs⟩ := List.head?_eq_some_iff.mp hhead
          rw [hbs, List.dropWhile_cons_of_neg (by simp), ← hbs, List.reverse_reverse]
      · intro b hb
        rw [List.mem_reverse] at hb
        simp only [decide_eq_true_eq]
        exact fun heq => h (heq ▸ hb)
    rw [if_neg (not_or.mpr ⟨hne, getLast?_tail h htail _⟩), hstart, List.take_left']
    rfl

end

/-! ## Runs -/

/-- The lines of the appends that returned. -/
def endedLines (run : List JournalAppend) : List JournalLine :=
  (run.filter JournalAppend.returned).map JournalAppend.line

/-- What an append leaves of its event, as it is read. -/
def JournalAppend.leaves (a : JournalAppend) : List Members :=
  if a.textReached then [a.line.event.items] else []

theorem endedLines_concat (run : List JournalAppend) (a : JournalAppend) :
    endedLines (run ++ [a]) = endedLines run ++ if a.returned then [a.line] else [] := by
  rw [endedLines, List.filter_append, List.map_append]
  cases h : a.returned <;> simp [endedLines, h]

theorem JournalAppend.written_of_returned {a : JournalAppend} (h : a.returned = true) :
    a.written = a.line.ended := by
  have hlength : (a.line.bytes ++ [lineEnd]).length ≤ a.reached := by
    simp only [returned, decide_eq_true_eq] at h
    rw [List.length_append, List.length_singleton]
    omega
  rw [written, List.take_of_length_le hlength]
  rfl

theorem JournalAppend.written_of_cut {a : JournalAppend} (h : a.returned = false) :
    a.written = a.line.bytes.take a.reached := by
  simp only [returned, decide_eq_false_iff_not, Nat.not_lt] at h
  rw [written, List.take_append_of_le_length h]

theorem JournalAppend.isTail {a : JournalAppend} (h : a.returned = false) : IsTail a.written :=
  ⟨a.line, by rw [written_of_cut h]; exact List.take_prefix _ _⟩

theorem JournalAppend.tailEvents_cut {a : JournalAppend} (h : a.returned = false) :
    tailEvents a.written = a.leaves := by
  rw [written_of_cut h, leaves]
  by_cases htext : a.textReached = true
  · simp only [textReached, decide_eq_true_eq] at htext
    rw [List.take_of_length_le htext, tailEvents_whole, if_pos (by simpa [textReached] using htext)]
  · rw [if_neg htext]
    simp only [textReached, decide_eq_true_eq, Nat.not_le] at htext
    refine tailEvents_part (List.take_append_drop a.reached _).symm ?_
    rw [Ne, List.drop_eq_nil_iff]
    omega

theorem cutTail_written (run : List JournalAppend) (a : JournalAppend) :
    cutTail ((endedLines run).flatMap JournalLine.ended ++ a.written) =
      (endedLines (run ++ [a])).flatMap JournalLine.ended := by
  rw [endedLines_concat]
  cases hreturned : a.returned with
  | true =>
    have hlines : (endedLines run).flatMap JournalLine.ended ++ a.written =
        (endedLines run ++ [a.line]).flatMap JournalLine.ended ++ [] := by
      rw [a.written_of_returned hreturned, List.flatMap_append, List.flatMap_singleton, List.append_nil]
    rw [hlines, cutTail_lines List.not_mem_nil, if_pos rfl]
  | false =>
    rw [cutTail_lines (lineEnd_notMem_tail (a.isTail hreturned)), if_neg Bool.false_ne_true,
      List.append_nil]

/-- The file after some appends: the lines of those that returned, and what the last one left. -/
theorem journalData_concat (run : List JournalAppend) (a : JournalAppend) :
    journalData (run ++ [a]) = some ((endedLines run).flatMap JournalLine.ended ++ a.written) := by
  induction run using List.reverseRecOn generalizing a with
  | nil => rfl
  | append_singleton front b ih =>
    have hfold : journalData ((front ++ [b]) ++ [a]) =
        some (appendBytes ((journalData (front ++ [b])).getD []) a) := by
      rw [journalData, List.foldl_append]
      rfl
    rw [hfold, ih b, Option.getD_some, appendBytes, cutTail_written]

/-- What is read after some appends. -/
theorem readEvents_concat (run : List JournalAppend) (a : JournalAppend) :
    readEvents (journalData (run ++ [a])) =
      .ok ((endedLines run).map (·.event.items) ++ a.leaves) := by
  rw [journalData_concat]
  cases hreturned : a.returned with
  | true =>
    have hlines : (endedLines run).flatMap JournalLine.ended ++ a.written =
        (endedLines run ++ [a.line]).flatMap JournalLine.ended ++ [] := by
      rw [a.written_of_returned hreturned, List.flatMap_append, List.flatMap_singleton,
        List.append_nil]
    have htext : a.textReached = true := by
      simp only [JournalAppend.returned, JournalAppend.textReached, decide_eq_true_eq] at hreturned ⊢
      omega
    rw [hlines, readEvents_lines ⟨a.line, List.nil_prefix⟩, JournalAppend.leaves, if_pos htext,
      List.map_append, tailEvents, decodeUtf8_nil]
    exact congrArg Except.ok (List.append_nil _)
  | false => rw [readEvents_lines (a.isTail hreturned), a.tailEvents_cut hreturned]

/-! ## The file as lines -/

/-- The bytes of a tail. -/
def TailIs (encode : JournalEvent → JournalLine) (tail : List UInt8) : Tail → Prop
  | .empty => tail = []
  | .torn => ∃ event rest, rest ≠ [] ∧ (encode event).bytes = tail ++ rest
  | .unended event => tail = (encode event).bytes

/-- The bytes of a journal file. -/
def Represents (encode : JournalEvent → JournalLine) (data : List UInt8) (file : JournalFile) : Prop :=
  ∃ tail, data = (file.events.map encode).flatMap JournalLine.ended ++ tail ∧ TailIs encode tail file.tail

/-- Events as they are appended to the bytes, each with how far it gets. -/
def appendsOf (encode : JournalEvent → JournalLine) (events : List (JournalEvent × Nat)) :
    List JournalAppend :=
  events.map fun e => ⟨encode e.1, e.2⟩

/-- Events appended to a file, each as far as it gets. -/
def JournalFile.appendAll (file : JournalFile) (events : List (JournalEvent × Extent)) : JournalFile :=
  events.foldl (fun file e => file.append e.1 e.2) file

section
variable {encode : JournalEvent → JournalLine} {data tail : List UInt8} {file : JournalFile}

theorem TailIs.isTail {t : Tail} (h : TailIs encode tail t) : IsTail tail := by
  cases t with
  | empty => exact ⟨encode (.state .planned), h ▸ List.nil_prefix⟩
  | torn =>
    obtain ⟨event, rest, -, hbytes⟩ := h
    exact ⟨encode event, rest, hbytes.symm⟩
  | unended event => exact ⟨encode event, h ▸ List.prefix_refl _⟩

/-- The bytes are read as the lines of the file. -/
theorem Represents.read (h : Represents encode data file) :
    readEvents (some data) = .ok (file.lines.map fun event => (encode event).event.items) := by
  obtain ⟨tail, rfl, htail⟩ := h
  rw [readEvents_lines htail.isTail, List.map_map, JournalFile.lines]
  cases ht : file.tail with
  | empty =>
    rw [ht] at htail
    have hempty : tailEvents tail = [] := by
      rw [show tail = [] from htail, tailEvents, decodeUtf8_nil]
      rfl
    rw [hempty, List.append_nil]
    rfl
  | torn =>
    rw [ht] at htail
    obtain ⟨event, rest, hrest, hbytes⟩ := htail
    rw [tailEvents_part hbytes hrest, List.append_nil]
    rfl
  | unended event =>
    rw [ht] at htail
    rw [show tail = (encode event).bytes from htail, tailEvents_whole]
    simp only [List.map_append, List.map_cons, List.map_nil]
    rfl

/-- An append to the bytes is one to the file, and reaches the whole exactly when it returns. -/
theorem Represents.append (h : Represents encode data file) (event : JournalEvent) (reached : Nat) :
    ∃ extent, Represents encode (appendBytes data ⟨encode event, reached⟩) (file.append event extent) ∧
      (extent = .whole ↔ (JournalAppend.mk (encode event) reached).returned = true) := by
  obtain ⟨tail, rfl, htail⟩ := h
  have hcut : cutTail ((file.events.map encode).flatMap JournalLine.ended ++ tail) =
      (file.events.map encode).flatMap JournalLine.ended :=
    cutTail_lines (lineEnd_notMem_tail htail.isTail)
  rw [appendBytes, hcut]
  cases hreturned : (JournalAppend.mk (encode event) reached).returned with
  | true =>
    refine ⟨.whole, ⟨[], ?_, rfl⟩, iff_of_true rfl rfl⟩
    rw [JournalAppend.written_of_returned hreturned, JournalFile.append, List.map_append,
      List.flatMap_append, List.append_nil]
    rw [List.map_singleton, List.flatMap_singleton]
  | false =>
    rw [JournalAppend.written_of_cut hreturned]
    by_cases htext : (encode event).bytes.length ≤ reached
    · refine ⟨.unended, ⟨(encode event).bytes, ?_, rfl⟩, iff_of_false (by decide) (by decide)⟩
      rw [List.take_of_length_le htext]
      rfl
    · refine ⟨.torn, ⟨_, rfl, event, (encode event).bytes.drop reached, ?_, ?_⟩,
        iff_of_false (by decide) (by decide)⟩
      · rw [Ne, List.drop_eq_nil_iff]
        exact htext
      · exact (List.take_append_drop reached _).symm

/-- A run of appends to the bytes is one to the file. -/
theorem Represents.run (h : Represents encode data file) (events : List (JournalEvent × Nat)) :
    ∃ extents, List.Forall₂ (fun a extent => extent = .whole ↔ a.returned = true)
        (appendsOf encode events) extents ∧
      Represents encode ((appendsOf encode events).foldl appendBytes data)
        (file.appendAll ((events.map (·.1)).zip extents)) := by
  induction events generalizing data file with
  | nil => exact ⟨[], .nil, h⟩
  | cons e rest ih =>
    obtain ⟨extent, happend, hwhole⟩ := h.append e.1 e.2
    obtain ⟨extents, hextents, hrun⟩ := ih happend
    exact ⟨extent :: extents, .cons hwhole hextents, hrun⟩

end

/-- The bytes of a journal are the journal of its events, each appended as far as it got: whatever came
before and wherever the appends were cut off, an append returns exactly if its event is there as a whole,
and what is read are the lines of that journal. -/
theorem journal_bytes_are_its_events (encode : JournalEvent → JournalLine)
    (events : List (JournalEvent × Nat)) :
    ∃ extents, List.Forall₂ (fun a extent => extent = .whole ↔ a.returned = true)
        (appendsOf encode events) extents ∧
      readEvents (some ((appendsOf encode events).foldl appendBytes [])) =
        .ok ((JournalFile.appendAll ⟨[], .empty⟩ ((events.map (·.1)).zip extents)).lines.map
          fun event => (encode event).event.items) := by
  have hempty : Represents encode [] ⟨[], .empty⟩ := ⟨[], rfl, rfl⟩
  obtain ⟨extents, hextents, hrun⟩ := hempty.run events
  exact ⟨extents, hextents, hrun.read⟩

/-! ## What a read keeps -/

/-- The reads during a run of appends, each of which may be cut off. -/
structure PrefixConsistent (run : List JournalAppend) : Prop where
  /-- what a read returned, every later one returns at the same place -/
  stable : ∀ part later, part <+: later → later <+: run → ∀ events,
    readEvents (journalData part) = .ok events →
      ∃ more, readEvents (journalData later) = .ok (events ++ more)
  /-- an append that returned is returned at its place -/
  returned : ∀ before a later, before ++ [a] <+: later → later <+: run → a.returned = true →
    ∃ events, readEvents (journalData later) = .ok events ∧
      events[(endedLines before).length]? = some a.line.event.items
  /-- only events are returned whose text reached the file, in their order -/
  whole : ∀ later, later <+: run → ∀ events, readEvents (journalData later) = .ok events →
    events.Sublist ((later.filter JournalAppend.textReached).map (·.line.event.items))

/-- No append cuts off a line that lacks its end alone, unless it writes the text of the same event
again. -/
def Careful (run : List JournalAppend) : Prop :=
  ∀ before a b after, run = before ++ a :: b :: after → a.returned = false → a.textReached = true →
    b.textReached = true ∧ b.line.event.items = a.line.event.items

section
variable {run : List JournalAppend}

theorem JournalAppend.textReached_of_returned (a : JournalAppend) (h : a.returned = true) :
    a.textReached = true := by
  simp only [JournalAppend.returned, JournalAppend.textReached, decide_eq_true_eq] at h ⊢
  omega

/-- An append after a read keeps what was read. -/
theorem Careful.keeps {before after : List JournalAppend} {a b : JournalAppend}
    (h : Careful (before ++ a :: b :: after)) :
    ∃ more, (endedLines (before ++ [a])).map (·.event.items) ++ b.leaves =
      ((endedLines before).map (·.event.items) ++ a.leaves) ++ more := by
  rw [endedLines_concat]
  cases hreturned : a.returned with
  | true =>
    have hleaves : a.leaves = [a.line.event.items] := if_pos (a.textReached_of_returned hreturned)
    refine ⟨b.leaves, ?_⟩
    rw [hleaves, if_pos rfl, List.map_append]
    rfl
  | false =>
    rw [if_neg Bool.false_ne_true, List.append_nil]
    cases htext : a.textReached with
    | true =>
      obtain ⟨hb, hitems⟩ := h before a b after rfl hreturned htext
      refine ⟨[], ?_⟩
      rw [List.append_nil, JournalAppend.leaves, JournalAppend.leaves, if_pos hb, if_pos htext, hitems]
    | false =>
      refine ⟨b.leaves, ?_⟩
      have hleaves : a.leaves = [] := by
        rw [JournalAppend.leaves, htext]
        rfl
      rw [hleaves, List.append_nil]

theorem Careful.part {part : List JournalAppend} (h : Careful run) (hpart : part <+: run) :
    Careful part := by
  obtain ⟨rest, rfl⟩ := hpart
  intro before a b after hsplit
  refine h before a b (after ++ rest) ?_
  rw [hsplit, List.append_assoc, List.cons_append, List.cons_append]

theorem Careful.stable {later : List JournalAppend} (h : Careful later) :
    ∀ part, part <+: later → ∀ events, readEvents (journalData part) = .ok events →
      ∃ more, readEvents (journalData later) = .ok (events ++ more) := by
  induction later using List.reverseRecOn with
  | nil =>
    intro part hpart events hread
    rw [List.prefix_nil.mp hpart] at hread
    cases hread
  | append_singleton later b ih =>
    intro part hpart events hread
    rcases List.prefix_concat_iff.mp hpart with rfl | hpart
    · exact ⟨[], by rw [hread, List.append_nil]⟩
    · obtain ⟨more, hlater⟩ := ih (h.part (List.prefix_append later [b])) part hpart events hread
      rcases List.eq_nil_or_concat later with rfl | ⟨before, a, rfl⟩
      · cases hlater
      · rw [List.concat_eq_append] at hlater h ⊢
        rw [readEvents_concat, Except.ok.injEq] at hlater
        rw [List.append_assoc, List.cons_append, List.nil_append] at h
        obtain ⟨more', hkeeps⟩ := h.keeps
        refine ⟨more ++ more', ?_⟩
        rw [readEvents_concat, hkeeps, hlater, List.append_assoc]

theorem endedLines_part {part later : List JournalAppend} (h : part <+: later) :
    endedLines part <+: endedLines later := by
  obtain ⟨rest, rfl⟩ := h
  rw [endedLines, endedLines, List.filter_append, List.map_append]
  exact List.prefix_append _ _

/-- What returned is read at its place. -/
theorem read_returned {before later : List JournalAppend} {a : JournalAppend}
    (hlater : before ++ [a] <+: later) (hreturned : a.returned = true) :
    ∃ events, readEvents (journalData later) = .ok events ∧
      events[(endedLines before).length]? = some a.line.event.items := by
  rcases List.eq_nil_or_concat later with rfl | ⟨front, b, rfl⟩
  · exact absurd (List.prefix_nil.mp hlater) (by simp)
  · rw [List.concat_eq_append] at hlater ⊢
    refine ⟨_, readEvents_concat front b, ?_⟩
    have hlength : ((endedLines before).map (·.event.items)).length = (endedLines before).length :=
      List.length_map _
    rcases List.prefix_concat_iff.mp hlater with heq | hpart
    · obtain ⟨rfl, hlast⟩ := List.append_inj' heq rfl
      obtain rfl : a = b := by simpa using hlast
      rw [List.getElem?_append_right hlength.le, hlength, Nat.sub_self, JournalAppend.leaves,
        if_pos (a.textReached_of_returned hreturned)]
      rfl
    · obtain ⟨rest, hrest⟩ := endedLines_part hpart
      rw [endedLines_concat, hreturned, if_pos rfl] at hrest
      rw [← hrest]
      simp only [List.map_append, List.append_assoc, List.map_cons, List.map_nil]
      rw [List.getElem?_append_right hlength.le, hlength, Nat.sub_self]
      rfl

theorem read_whole {later : List JournalAppend} {events : List Members}
    (h : readEvents (journalData later) = .ok events) :
    events.Sublist ((later.filter JournalAppend.textReached).map (·.line.event.items)) := by
  rcases List.eq_nil_or_concat later with rfl | ⟨front, b, rfl⟩
  · cases h
  · rw [List.concat_eq_append] at h ⊢
    rw [readEvents_concat, Except.ok.injEq] at h
    rw [← h, List.filter_append, List.map_append, endedLines, List.map_map]
    refine List.Sublist.append ?_ ?_
    · exact (List.monotone_filter_right front fun a => a.textReached_of_returned).map _
    · rw [JournalAppend.leaves]
      cases hb : b.textReached <;> simp [hb]

theorem PrefixConsistent.careful (h : PrefixConsistent run) : Careful run := by
  rintro before a b after rfl hcut htext
  have hpart : before ++ [a] <+: (before ++ [a]) ++ [b] := List.prefix_append _ _
  have hlater : (before ++ [a]) ++ [b] <+: before ++ a :: b :: after :=
    ⟨after, by simp only [List.append_assoc, List.cons_append, List.nil_append]⟩
  obtain ⟨more, hread⟩ := h.stable _ _ hpart hlater _ (readEvents_concat before a)
  rw [readEvents_concat, Except.ok.injEq, endedLines_concat, hcut, if_neg Bool.false_ne_true,
    List.append_nil, List.append_assoc, List.append_cancel_left_eq, JournalAppend.leaves,
    JournalAppend.leaves, if_pos htext] at hread
  split at hread
  · next hb =>
    rw [List.singleton_append, List.cons.injEq] at hread
    exact ⟨hb, hread.1⟩
  · cases hread

theorem Careful.prefixConsistent (h : Careful run) : PrefixConsistent run where
  stable part _ hpart hlater := (h.part hlater).stable part hpart
  returned _ _ _ hlater _ hreturned := read_returned hlater hreturned
  whole _ _ _ hread := read_whole hread

end

/-- The reads of a run agree exactly when no append takes away a line that was read without its end. -/
theorem journal_prefix_consistent_iff (run : List JournalAppend) :
    PrefixConsistent run ↔ Careful run :=
  ⟨PrefixConsistent.careful, Careful.prefixConsistent⟩

/-- The line of an event whose texts can be encoded. -/
def journalLine (event : Dict) (h : (encodeUtf8 (render (.object event.items))).isSome = true) :
    JournalLine :=
  ⟨event, (encodeUtf8 (render (.object event.items))).get h, (Option.some_get h).symm⟩

/-- A row is applied. -/
def rowApplied : JournalLine :=
  journalLine (.ofItems [(codes "event", ⟨.string (codes "ROW"), trivial⟩),
    (codes "record_id", ⟨.string (codes "rec1"), trivial⟩),
    (codes "status", ⟨.string (codes "applied"), trivial⟩)]) (by decide +kernel)

/-- The patch is resumed. -/
def stateApplying : JournalLine :=
  journalLine (.ofItems [(codes "event", ⟨.string (codes "STATE"), trivial⟩),
    (codes "state", ⟨.string (codes "APPLYING"), trivial⟩)]) (by decide +kernel)

/-- An event lacks its line end; the next append takes it away. -/
theorem unended_event_lost :
    ¬ PrefixConsistent [⟨rowApplied, rowApplied.bytes.length⟩, ⟨stateApplying, 100⟩] := by
  intro h
  have hcut : (JournalAppend.mk rowApplied rowApplied.bytes.length).returned = false :=
    decide_eq_false (Nat.lt_irrefl _)
  have htext : (JournalAppend.mk rowApplied rowApplied.bytes.length).textReached = true :=
    decide_eq_true (Nat.le_refl _)
  obtain ⟨-, hitems⟩ := h.careful [] _ _ [] rfl hcut htext
  have hlength := congrArg List.length hitems
  exact absurd hlength (by decide)

end PortfolioManagement.NavRepair
