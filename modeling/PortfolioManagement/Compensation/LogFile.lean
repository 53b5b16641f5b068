import PortfolioManagement.Compensation.Log

/-!
# What the log gives back

A run of appends, each of which may be cut short after some of its bytes. `settled` are the appends
whose event is read from the closed lines: those that returned, whose event has no line break JSON
leaves unescaped, and that found the file at the start of a line. Reading gives the events of these
and nothing else (`readEvents_run`), except that the last append is read too if only its newline is
missing.

`log_gives_back` and `log_survives_torn_append` say from this when the log loses nothing.
-/

namespace PortfolioManagement

/-! ## Appends -/

/-- An append of which some bytes have reached the file. -/
structure Append where
  /-- the event -/
  event : LogEvent
  /-- the bytes of its line -/
  bytes : List UInt8
  /-- the line could be encoded -/
  encoded : encodeUtf8 event.line = some bytes
  /-- how many of them reached the file -/
  reached : Nat
  /-- not more than there are -/
  le : reached ≤ bytes.length

namespace Append

/-- The bytes that reached the file. -/
def written (a : Append) : List UInt8 := a.bytes.take a.reached

/-- The append returned normally. -/
def returned (a : Append) : Bool := a.reached = a.bytes.length

/-- All of the event reached the file, if not its newline. -/
def textReached (a : Append) : Bool := a.bytes.length ≤ a.reached + 1

/-- The items of the event. -/
def items (a : Append) : Members := a.event.dict.items

/-- The text that reached the file, when what reached it can be decoded. -/
def part (a : Append) : Codes := (decodeUtf8 a.written).getD []

/-- What reached the file ends with a whole character. -/
def WholeCharacters (a : Append) : Prop := (decodeUtf8 a.written).isSome = true

theorem decode_written {a : Append} (h : a.WholeCharacters) :
    decodeUtf8 a.written = some a.part := by
  obtain ⟨text, htext⟩ := Option.isSome_iff_exists.mp h
  rw [part, htext]
  rfl

theorem encoded_split (a : Append) :
    encodeUtf8 a.event.line = some (a.written ++ a.bytes.drop a.reached) := by
  rw [written, List.take_append_drop]
  exact a.encoded

theorem part_of_line {a : Append} (h : a.WholeCharacters) : a.part <+: a.event.line := by
  obtain ⟨rest, hrest, -⟩ := prefix_of_decodeUtf8 a.encoded_split (decode_written h)
  exact ⟨rest, hrest.symm⟩

theorem written_of_returned {a : Append} (h : a.returned = true) : a.written = a.bytes := by
  have hreached : a.reached = a.bytes.length := by simpa [returned] using h
  rw [written, hreached, List.take_length]

theorem wholeCharacters_of_returned {a : Append} (h : a.returned = true) : a.WholeCharacters := by
  rw [WholeCharacters, written_of_returned h, decodeUtf8_of_encodeUtf8 a.encoded]
  rfl

theorem part_of_returned {a : Append} (h : a.returned = true) : a.part = a.event.line := by
  rw [part, written_of_returned h, decodeUtf8_of_encodeUtf8 a.encoded]
  rfl

/-- The length of what reached the file, when that is a given text. -/
theorem reached_eq {a : Append} (h : a.WholeCharacters) {bytes : List UInt8}
    (hbytes : encodeUtf8 a.part = some bytes) : a.reached = bytes.length := by
  have henc := encodeUtf8_of_decodeUtf8 (decode_written h)
  rw [hbytes] at henc
  rw [Option.some.inj henc, written, List.length_take, Nat.min_eq_left a.le]

/-- An append that was cut short left a part of the event's text. -/
theorem part_of_torn {a : Append} (h : a.WholeCharacters) (htorn : a.returned = false) :
    a.part <+: a.event.text := by
  rcases List.prefix_concat_iff.mp (part_of_line h) with hline | htext
  · have hencoded : encodeUtf8 a.part = some a.bytes := by rw [hline]; exact a.encoded
    have hreached := reached_eq h hencoded
    simp [returned, hreached] at htorn
  · exact htext

theorem length_bytes {a : Append} {bytes : List UInt8} (h : encodeUtf8 a.event.text = some bytes) :
    a.bytes.length = bytes.length + 1 := by
  have henc := a.encoded
  have hnewline : encodeUtf8 ['\n'.toNat] = some [10] := by decide
  rw [LogEvent.line, encodeUtf8_append, h, hnewline, Option.bind_some, Option.map_some] at henc
  rw [← Option.some.inj henc, List.length_append, List.length_singleton]

theorem textReached_of_part {a : Append} (h : a.WholeCharacters) (hpart : a.part = a.event.text) :
    a.textReached = true := by
  have henc := encodeUtf8_of_decodeUtf8 (decode_written h)
  have hreached := reached_eq h henc
  have hlength := length_bytes (hpart ▸ henc)
  simp only [textReached, decide_eq_true_eq]
  omega

theorem textReached_of_returned {a : Append} (h : a.returned = true) : a.textReached = true := by
  have hreached : a.reached = a.bytes.length := by simpa [returned] using h
  simp only [textReached, decide_eq_true_eq]
  omega

/-- An append of which nothing reached the file did not return. -/
theorem not_returned_of_part_nil {a : Append} (h : a.part = []) : a.returned = false := by
  by_contra hnot
  have hret : a.returned = true := by simpa using hnot
  rw [part_of_returned hret] at h
  simp [LogEvent.line] at h

end Append

/-! ## The file as lines -/

/-- The file after a run of appends. -/
def logFile (run : List Append) : List UInt8 := run.flatMap Append.written

/-- The text after a run of appends. -/
def logText (run : List Append) : Codes := run.flatMap Append.part

theorem logFile_cons (a : Append) (run : List Append) :
    logFile (a :: run) = a.written ++ logFile run := rfl

theorem logFile_concat (run : List Append) (a : Append) :
    logFile (run ++ [a]) = logFile run ++ a.written := by
  simp [logFile]

theorem decode_logFile {run : List Append} (h : ∀ a ∈ run, a.WholeCharacters) :
    decodeUtf8 (logFile run) = some (logText run) := by
  induction run with
  | nil => exact decodeUtf8_nil
  | cons a run ih =>
    have ha : a.WholeCharacters := h a List.mem_cons_self
    rw [logFile_cons, decodeUtf8_append (encodeUtf8_of_decodeUtf8 (Append.decode_written ha)),
      ih fun b hb => h b (List.mem_cons_of_mem _ hb)]
    rfl

theorem return_notMem_logText {run : List Append} (h : ∀ a ∈ run, a.WholeCharacters) :
    '\r'.toNat ∉ logText run := by
  intro hmem
  obtain ⟨a, ha, hpart⟩ := List.mem_flatMap.mp hmem
  have hline := (Append.part_of_line (h a ha)).subset hpart
  rcases List.mem_append.mp hline with htext | hnewline
  · have hodd : Odd '\r'.toNat := .inl (by decide)
    have := ((mem_render hodd _ a.event.dict.canonical).mp htext).2
    revert this
    decide
  · revert hnewline
    decide

theorem readEvents_logFile {run : List Append} (h : ∀ a ∈ run, a.WholeCharacters) :
    readEvents (logFile run) =
      some ((Lines.empty.read (logText run)).all.filterMap parseLine) := by
  rw [readEvents, decode_logFile h, Option.map_some,
    universalNewlines_of_notMem (return_notMem_logText h)]
  rfl

/-- What is read from an open text: the events of its closed lines, and of the open one. -/
theorem filterMap_all (l : Lines) : l.all.filterMap parseLine =
    l.closed.filterMap parseLine ++ (parseLine l.current).toList := by
  have hnil : parseLine [] = none := rfl
  unfold Lines.all
  split
  next h => rw [h, hnil]; simp
  next => rw [List.filterMap_append]; cases hline : parseLine l.current <;> simp [hline]

/-! ## Settled appends -/

/-- The append puts its event on a line of its own. -/
def Append.Settles (l : Lines) (a : Append) : Prop :=
  a.returned = true ∧ BreakFree a.event.json ∧ Blank l.current

instance (l : Lines) (a : Append) : Decidable (a.Settles l) := inferInstanceAs (Decidable (_ ∧ _))

/-- The appends of a run that put their event on a line of its own. -/
def settled (l : Lines) : List Append → List Append
  | [] => []
  | a :: run => (if a.Settles l then [a] else []) ++ settled (l.read a.part) run

theorem read_logText_cons (l : Lines) (a : Append) (run : List Append) :
    l.read (logText (a :: run)) = (l.read a.part).read (logText run) :=
  Lines.read_append l _ _

theorem read_logText_concat (l : Lines) (run : List Append) (a : Append) :
    l.read (logText (run ++ [a])) = (l.read (logText run)).read a.part := by
  rw [logText, List.flatMap_append, Lines.read_append]
  simp [logText]

theorem settled_append (xs ys : List Append) : ∀ l : Lines,
    settled l (xs ++ ys) = settled l xs ++ settled (l.read (logText xs)) ys := by
  induction xs with
  | nil => intro l; rfl
  | cons a xs ih =>
    intro l
    rw [List.cons_append, settled, settled, ih, List.append_assoc, read_logText_cons]

theorem settled_sublist (run : List Append) : ∀ l : Lines,
    (settled l run).Sublist (run.filter Append.returned) := by
  induction run with
  | nil => intro l; exact .slnil
  | cons a run ih =>
    intro l
    rw [settled]
    by_cases hsettles : a.Settles l
    · rw [if_pos hsettles, List.filter_cons_of_pos hsettles.1]
      exact (ih _).cons_cons a
    · rw [if_neg hsettles, List.nil_append]
      by_cases hret : a.returned = true
      · rw [List.filter_cons_of_pos hret]
        exact (ih _).cons a
      · rw [List.filter_cons_of_neg hret]
        exact ih _

/-- An append closes the line of its own event or none that is read. -/
theorem closed_append {a : Append} (h : a.WholeCharacters) (l : Lines) :
    (l.read a.part).closed.filterMap parseLine =
      l.closed.filterMap parseLine ++ if a.Settles l then [a.items] else [] := by
  by_cases hret : a.returned = true
  · rw [Append.part_of_returned hret]
    obtain ⟨-, hline⟩ := a.event.dictText.read_line foreign_underscore l
    have hfree : BreakFree a.event.json ↔ ∀ c ∈ a.event.text, isLineBreak c = false :=
      breakFree_iff a.event.dict.canonical
    rcases hline with ⟨hclean, hblank, hclosed⟩ | ⟨hnot, new, hclosed, hnew⟩
    · rw [LogEvent.line, hclosed, List.filterMap_append, if_pos ⟨hret, hfree.mpr hclean, hblank⟩]
      simp [parseLine_text hblank, Append.items]
    · have hsettles : ¬ a.Settles l := fun h => hnot ⟨hfree.mp h.2.1, h.2.2⟩
      rw [LogEvent.line, hclosed, List.filterMap_append, if_neg hsettles, filterMap_parseLine hnew]
  · have htorn : a.returned = false := by simpa using hret
    have hpart := Append.part_of_torn h htorn
    obtain ⟨new, hclosed, hnew⟩ := (a.event.dictText.read_part foreign_underscore l hpart).closed
    rw [hclosed, List.filterMap_append, if_neg (fun h => hret h.1), filterMap_parseLine hnew]

/-- The closed lines of the file give the events of the settled appends. -/
theorem closed_run (run : List Append) : ∀ l : Lines, (∀ a ∈ run, a.WholeCharacters) →
    (l.read (logText run)).closed.filterMap parseLine =
      l.closed.filterMap parseLine ++ (settled l run).map Append.items := by
  induction run with
  | nil => intro l _; simp [logText, settled, Lines.read]
  | cons a run ih =>
    intro l h
    rw [read_logText_cons, ih _ fun b hb => h b (List.mem_cons_of_mem _ hb),
      closed_append (h a List.mem_cons_self), settled, List.append_assoc]
    congr 1
    split <;> simp

/-- An append after which the open line is a whole event lacks only its newline, or nothing of it
reached the file and the line was one before. -/
theorem current_append {a : Append} (h : a.WholeCharacters) (l : Lines)
    (hentry : Entry '_'.toNat (l.read a.part).current) :
    (a.part = [] ∧ (l.read a.part).current = l.current) ∨
      (a.part = a.event.text ∧ a.returned = false ∧
        parseLine (l.read a.part).current = some a.items) := by
  by_cases hret : a.returned = true
  · rw [Append.part_of_returned hret, LogEvent.line,
      (a.event.dictText.read_line foreign_underscore l).1] at hentry
    obtain ⟨items, hloads, -⟩ := hentry
    cases hloads
  · have htorn : a.returned = false := by simpa using hret
    have hpart := Append.part_of_torn h htorn
    rcases a.event.dictText.current_of_entry foreign_underscore l hpart hentry with
      hnil | ⟨heq, hblank, -, -, hcurrent⟩
    · exact .inl ⟨hnil, by rw [hnil]; rfl⟩
    · exact .inr ⟨heq, htorn, by rw [hcurrent, parseLine_text hblank]; rfl⟩

/-- The open line of the file is an event only if it is that of an append that lacks its newline,
with nothing written after it. -/
theorem current_run (run : List Append) (h : ∀ a ∈ run, a.WholeCharacters)
    (hentry : Entry '_'.toNat (Lines.empty.read (logText run)).current) :
    ∃ before a after, run = before ++ a :: after ∧ a.part = a.event.text ∧ a.returned = false ∧
      (∀ b ∈ after, b.part = []) ∧
      parseLine (Lines.empty.read (logText run)).current = some a.items := by
  induction run using List.reverseRecOn with
  | nil =>
    obtain ⟨items, hloads, -⟩ := hentry
    cases hloads
  | append_singleton run a ih =>
    rw [read_logText_concat] at hentry ⊢
    rcases current_append (h a (by simp)) _ hentry with ⟨hnil, hsame⟩ | ⟨heq, htorn, hparse⟩
    · rw [hsame] at hentry ⊢
      obtain ⟨before, b, after, hrun, hb, hbtorn, hafter, hparse⟩ :=
        ih (fun b hb => h b (List.mem_append_left _ hb)) hentry
      refine ⟨before, b, after ++ [a], by simp [hrun], hb, hbtorn, fun c hc => ?_, hparse⟩
      rcases List.mem_append.mp hc with hc | hc
      · exact hafter c hc
      · rw [List.mem_singleton.mp hc]
        exact hnil
    · exact ⟨run, a, [], by simp, heq, htorn, by simp, hparse⟩

theorem openLine_empty : Blank Lines.empty.current := by simp [Blank, Lines.empty]

/-! ## Appends that all return -/

/-- The file after events have been appended, when every append returned. -/
def appendAll (file : List UInt8) (es : List LogEvent) : Option (List UInt8) :=
  es.foldlM appendEvent file

theorem run_of_appendAll {es : List LogEvent} : ∀ {file file' : List UInt8},
    appendAll file es = some file' → ∃ run : List Append, run.map Append.event = es ∧
      (∀ a ∈ run, a.returned = true) ∧ file' = file ++ logFile run := by
  induction es with
  | nil =>
    intro file file' h
    cases h
    exact ⟨[], rfl, by simp, by simp [logFile]⟩
  | cons e es ih =>
    intro file file' h
    rw [appendAll, List.foldlM_cons, Option.bind_eq_bind, Option.bind_eq_some_iff] at h
    obtain ⟨mid, hstep, h⟩ := h
    obtain ⟨bytes, hbytes, rfl⟩ := Option.map_eq_some_iff.mp hstep
    obtain ⟨run, hrun, hreturned, rfl⟩ := ih h
    have hret : Append.returned ⟨e, bytes, hbytes, bytes.length, le_refl _⟩ = true := by
      simp [Append.returned]
    refine ⟨⟨e, bytes, hbytes, bytes.length, le_refl _⟩ :: run, by rw [List.map_cons, hrun],
      List.forall_mem_cons.mpr ⟨hret, hreturned⟩, ?_⟩
    rw [logFile_cons, Append.written_of_returned hret, List.append_assoc]

/-- After an append that returned the file stands at the start of a line. -/
theorem current_of_returned {a : Append} (h : a.returned = true) (l : Lines) :
    (l.read a.part).current = [] := by
  rw [Append.part_of_returned h, LogEvent.line]
  exact (a.event.dictText.read_line foreign_underscore l).1

theorem settled_of_returned {run : List Append} : ∀ {l : Lines}, Blank l.current →
    (∀ a ∈ run, a.returned = true) →
    settled l run = run.filter fun a => decide (BreakFree a.event.json) := by
  induction run with
  | nil => intro l _ _; rfl
  | cons a run ih =>
    intro l hblank h
    have ha : a.returned = true := h a List.mem_cons_self
    have hnext : Blank (l.read a.part).current := by
      rw [current_of_returned ha]
      exact openLine_empty
    rw [settled, ih hnext fun b hb => h b (List.mem_cons_of_mem _ hb)]
    by_cases hfree : BreakFree a.event.json
    · rw [if_pos ⟨ha, hfree, hblank⟩, List.filter_cons_of_pos (by simpa using hfree)]
      rfl
    · rw [if_neg fun hs => hfree hs.2.1, List.filter_cons_of_neg (by simpa using hfree)]
      rfl

/-- After appends that all returned the last line is empty. -/
theorem current_nil {run : List Append} (h : ∀ a ∈ run, a.returned = true) :
    (Lines.empty.read (logText run)).current = [] := by
  induction run using List.reverseRecOn with
  | nil => rfl
  | append_singleton run a ih =>
    rw [read_logText_concat]
    exact current_of_returned (h a (by simp)) _

/-- Of events that were appended, those without an unescaped line break are read. -/
theorem readEvents_appendAll {es : List LogEvent} {file : List UInt8}
    (h : appendAll [] es = some file) : readEvents file =
      some ((es.filter fun e => decide (BreakFree e.json)).map fun e => e.dict.items) := by
  obtain ⟨run, rfl, hreturned, rfl⟩ := run_of_appendAll h
  have hwhole : ∀ a ∈ run, a.WholeCharacters :=
    fun a ha => Append.wholeCharacters_of_returned (hreturned a ha)
  have hnil : parseLine [] = none := rfl
  rw [List.nil_append, readEvents_logFile hwhole, filterMap_all, current_nil hreturned, hnil,
    closed_run run Lines.empty hwhole, settled_of_returned openLine_empty hreturned,
    List.filter_map, List.map_map]
  simp [Lines.empty, Append.items, Function.comp_def]

/-- The log gives back the events that were appended, and their fold, exactly when none of them
contains a line break that JSON leaves unescaped. -/
theorem log_gives_back (targetIsSupported : Json → Bool) {es : List LogEvent} {file : List UInt8}
    (h : appendAll [] es = some file) :
    (readEvents file = some (es.map fun e => e.dict.items) ∧
      (readEvents file).bind (foldEvents targetIsSupported) =
        foldEvents targetIsSupported (es.map fun e => e.dict.items)) ↔
      ∀ e ∈ es, BreakFree e.json := by
  have hread := readEvents_appendAll h
  constructor
  · rintro ⟨hsame, -⟩
    have hlists := Option.some.inj (hread.symm.trans hsame)
    have hlength := congrArg List.length hlists
    rw [List.length_map, List.length_map] at hlength
    have hall := List.length_filter_eq_length_iff.mp hlength
    exact fun e he => by simpa using hall e he
  · intro hfree
    have hfilter : (es.filter fun e => decide (BreakFree e.json)) = es :=
      List.filter_eq_self.mpr fun e he => by simpa using hfree e he
    rw [hread, hfilter]
    exact ⟨rfl, rfl⟩

/-- The `FAILED` event of a task, with the text of the exception. -/
def failedEvent (error : String) : LogEvent :=
  .status (codes "repair_1") (by decide) .failed
    ⟨[(codes "error", .text (codes error))], by simp [IsName, IsNameStart, codes]⟩
    (codes "2024-01-31T09:30:00") true

/-- The bytes of its line. -/
def failedBytes (error : String) : List UInt8 := (encodeUtf8 (failedEvent error).line).getD []

/-- An error text that names an account with a line separator in it loses its event. -/
theorem log_loses_line_separator :
    appendAll [] [failedEvent "no holding for A\u2028B"] =
        some (failedBytes "no holding for A\u2028B") ∧
      readEvents (failedBytes "no holding for A\u2028B") ≠
        some ([failedEvent "no holding for A\u2028B"].map fun e => e.dict.items) := by
  have happend : appendAll [] [failedEvent "no holding for A\u2028B"] =
      some (failedBytes "no holding for A\u2028B") := by decide +kernel
  refine ⟨happend, ?_⟩
  rw [readEvents_appendAll happend]
  have hbreak : ¬ BreakFree (failedEvent "no holding for A\u2028B").json := by decide
  simp [hbreak]

/-- An ordinary error text is given back. -/
theorem log_gives_back_failed :
    readEvents (failedBytes "no holding for A") =
        some ([failedEvent "no holding for A"].map fun e => e.dict.items) ∧
      (readEvents (failedBytes "no holding for A")).bind (foldEvents fun _ => true) =
        foldEvents (fun _ => true) ([failedEvent "no holding for A"].map fun e => e.dict.items) := by
  have happend : appendAll [] [failedEvent "no holding for A"] =
      some (failedBytes "no holding for A") := by decide +kernel
  exact (log_gives_back (fun _ => true) happend).mpr (by decide)

/-! ## Appends that are cut short -/

section
variable (targetIsSupported : Json → Bool)

/-- What a read has to give after a run: the events of the appends that returned, with or without
those of appends that lack no more than their newline, and their fold. -/
def ReadsBack (run : List Append) : Prop :=
  ∃ kept : List Append, (run.filter Append.returned).Sublist kept ∧
    kept.Sublist (run.filter Append.textReached) ∧
    readEvents (logFile run) = some (kept.map Append.items) ∧
    (readEvents (logFile run)).bind (foldEvents targetIsSupported) =
      foldEvents targetIsSupported (kept.map Append.items)

/-- Every read during a run gives that. -/
def Survives (run : List Append) : Prop :=
  ∀ part, part <+: run → ReadsBack targetIsSupported part

end

/-- What follows the last line break of a file. -/
def openLine (file : List UInt8) : Codes :=
  (Lines.empty.read (universalNewlines false ((decodeUtf8 file).getD []))).current

/-- No append is cut inside a character; and an append that returns finds the file at the start of
a line, up to space, and has no line break in its event that JSON leaves unescaped. -/
def Careful (run : List Append) : Prop :=
  ∀ before a after, run = before ++ a :: after → a.WholeCharacters ∧
    (a.returned = true → BreakFree a.event.json ∧ Blank (openLine (logFile before)))

theorem openLine_logFile {run : List Append} (h : ∀ a ∈ run, a.WholeCharacters) :
    openLine (logFile run) = (Lines.empty.read (logText run)).current := by
  rw [openLine, decode_logFile h, Option.getD_some,
    universalNewlines_of_notMem (return_notMem_logText h)]

theorem settled_concat (run : List Append) (a : Append) : settled Lines.empty (run ++ [a]) =
    settled Lines.empty run ++ if a.Settles (Lines.empty.read (logText run)) then [a] else [] := by
  rw [settled_append]
  simp [settled]

/-- A file that is read at every stage of a run has been written in whole characters. -/
theorem wholeCharacters_of_survives {targetIsSupported : Json → Bool} {run : List Append}
    (h : Survives targetIsSupported run) : ∀ a ∈ run, a.WholeCharacters := by
  induction run using List.reverseRecOn with
  | nil => simp
  | append_singleton run a ih =>
    have hrun := ih fun part hpart => h part (hpart.trans (List.prefix_append run [a]))
    have ha : a.WholeCharacters := by
      obtain ⟨kept, -, -, hread, -⟩ := h _ (List.prefix_refl _)
      rw [logFile_concat, readEvents,
        decodeUtf8_append (encodeUtf8_of_decodeUtf8 (decode_logFile hrun))] at hread
      rw [Append.WholeCharacters]
      cases hdecode : decodeUtf8 a.written with
      | none => rw [hdecode] at hread; cases hread
      | some text => rfl
    intro b hb
    rcases List.mem_append.mp hb with hb | hb
    · exact hrun b hb
    · rw [List.mem_singleton.mp hb]
      exact ha

/-- If every read gives what it has to, the run is careful: an append that returned and did not
settle would be one event too few. -/
theorem careful_of_survives {targetIsSupported : Json → Bool} {run : List Append}
    (h : Survives targetIsSupported run) : Careful run := by
  rintro before a after rfl
  have hwhole := wholeCharacters_of_survives h
  refine ⟨hwhole a (by simp), fun hret => ?_⟩
  have hshort : before ++ [a] <+: before ++ a :: after := ⟨after, by simp⟩
  have hpart : ∀ b ∈ before ++ [a], b.WholeCharacters := fun b hb => hwhole b (hshort.subset hb)
  have hbefore : ∀ b ∈ before, b.WholeCharacters := fun b hb => hwhole b (by simp [hb])
  rw [openLine_logFile hbefore]
  suffices hsettles : a.Settles (Lines.empty.read (logText before)) from hsettles.2
  by_contra hnot
  obtain ⟨kept, hkept, -, hread, -⟩ := h _ hshort
  have hcurrent : (Lines.empty.read (logText (before ++ [a]))).current = [] := by
    rw [read_logText_concat]
    exact current_of_returned hret _
  have hnil : parseLine [] = none := rfl
  rw [readEvents_logFile hpart, filterMap_all, hcurrent, hnil, closed_run _ _ hpart,
    settled_concat, if_neg hnot, List.append_nil] at hread
  have hlength := congrArg List.length (Option.some.inj hread)
  have hfew := (settled_sublist before Lines.empty).length_le
  have hmany := hkept.length_le
  simp only [Lines.empty, List.filterMap_nil, List.nil_append, Option.toList_none, List.append_nil,
    List.length_map, List.filter_append, List.length_append, List.filter_cons_of_pos hret,
    List.filter_nil, List.length_singleton] at hlength hfew hmany
  omega

theorem Careful.part {run part : List Append} (h : Careful run) (hpart : part <+: run) :
    Careful part := by
  obtain ⟨rest, rfl⟩ := hpart
  rintro before a after rfl
  exact h before a (after ++ rest) (by simp)

theorem Careful.wholeCharacters {run : List Append} (h : Careful run) :
    ∀ a ∈ run, a.WholeCharacters := by
  intro a ha
  obtain ⟨before, after, rfl⟩ := List.append_of_mem ha
  exact (h before a after rfl).1

/-- In a careful run every append that returns settles. -/
theorem Careful.settled {run : List Append} (h : Careful run) :
    settled Lines.empty run = run.filter Append.returned := by
  induction run using List.reverseRecOn with
  | nil => rfl
  | append_singleton run a ih =>
    have hrun : Careful run := h.part (List.prefix_append run [a])
    rw [settled_concat, ih hrun, List.filter_append]
    congr 1
    by_cases hret : a.returned = true
    · obtain ⟨hfree, hblank⟩ := (h run a [] rfl).2 hret
      rw [openLine_logFile hrun.wholeCharacters] at hblank
      rw [if_pos ⟨hret, hfree, hblank⟩, List.filter_cons_of_pos hret]
      rfl
    · rw [if_neg fun hs => hret hs.1, List.filter_cons_of_neg hret]
      rfl

theorem filter_returned_sublist (run : List Append) :
    (run.filter Append.returned).Sublist (run.filter Append.textReached) :=
  List.monotone_filter_right run fun _ h => Append.textReached_of_returned h

/-- After a careful run a read gives what it has to. -/
theorem Careful.readsBack {run : List Append} (targetIsSupported : Json → Bool) (h : Careful run) :
    ReadsBack targetIsSupported run := by
  have hwhole := h.wholeCharacters
  have hclosed := closed_run run Lines.empty hwhole
  rw [h.settled] at hclosed
  have hread := readEvents_logFile hwhole
  rw [filterMap_all, hclosed] at hread
  by_cases hentry : Entry '_'.toNat (Lines.empty.read (logText run)).current
  · obtain ⟨before, a, after, hrun, hpart, htorn, hafter, hparse⟩ := current_run run hwhole hentry
    have hnone : (a :: after).filter Append.returned = [] := by
      refine List.filter_eq_nil_iff.mpr fun b hb => ?_
      rcases List.mem_cons.mp hb with rfl | hb
      · simp [htorn]
      · simp [Append.not_returned_of_part_nil (hafter b hb)]
    have hreached : a.textReached = true :=
      Append.textReached_of_part (hwhole a (by simp [hrun])) hpart
    have hreads : readEvents (logFile run) =
        some ((run.filter Append.returned ++ [a]).map Append.items) := by
      rw [hread, hparse]
      simp [Lines.empty]
    refine ⟨run.filter Append.returned ++ [a], List.sublist_append_left _ _, ?_, hreads,
      by rw [hreads]; rfl⟩
    rw [hrun, List.filter_append, hnone, List.append_nil, List.filter_append,
      List.filter_cons_of_pos hreached]
    exact (filter_returned_sublist before).append ((List.nil_sublist _).cons_cons a)
  · have hreads : readEvents (logFile run) = some ((run.filter Append.returned).map Append.items) := by
      rw [hread, parseLine_of_not_entry hentry]
      simp [Lines.empty]
    exact ⟨run.filter Append.returned, .refl _, filter_returned_sublist run, hreads,
      by rw [hreads]; rfl⟩

/-- Every read during a run gives the events of the appends that returned exactly when the run is
careful. -/
theorem log_survives_torn_append (targetIsSupported : Json → Bool) (run : List Append) :
    Survives targetIsSupported run ↔ Careful run :=
  ⟨careful_of_survives, fun h _ hpart => (h.part hpart).readsBack targetIsSupported⟩

/-- One byte of an append that crashed, and the same event appended again. -/
def tornRun : List Append :=
  have hencoded : encodeUtf8 (failedEvent "timeout").line = some (failedBytes "timeout") := by
    decide +kernel
  [⟨failedEvent "timeout", failedBytes "timeout", hencoded, 1, by decide +kernel⟩,
    ⟨failedEvent "timeout", failedBytes "timeout", hencoded, _, le_refl _⟩]

/-- The second append of that run returned, and no read finds its event. -/
theorem log_loses_append_after_torn_one : ¬ Survives (fun _ => true) tornRun := by
  intro h
  have hcareful := careful_of_survives h
  have hopen : openLine [123] = [123] := by
    rw [openLine, decodeUtf8_of_encodeUtf8 (show encodeUtf8 [123] = some [123] by decide)]
    rfl
  have hfile : logFile (tornRun.take 1) = [123] := by decide +kernel
  have hblank := (hcareful (tornRun.take 1) _ [] rfl).2 (by simp [Append.returned])
  rw [hfile, hopen] at hblank
  exact absurd hblank.2 (by decide)

end PortfolioManagement
