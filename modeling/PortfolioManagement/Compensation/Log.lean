import PortfolioManagement.Domain.Compensation
import PortfolioManagement.Lib.JsonLines

/-!
# The compensation log

The task log as a file: one JSON dict a line, appended and never rewritten. Every reader reads the
whole file, splits it into lines, keeps the lines that are dicts with a task id and folds them into
one state per task. The file is its bytes; an append that is cut short leaves a part of them.

Texts are code points, so that what reaches the file is decided here and not by the type: a text
with half of a surrogate pair cannot be encoded and the append raises before it writes.
-/

namespace PortfolioManagement

/-! ## Values and dicts -/

/-- A value of an event. -/
structure Value where
  /-- the value -/
  json : Json
  /-- its dicts are kept in key order -/
  canonical : Canonical json

/-- A dict of an event. -/
structure Dict where
  /-- the items in key order -/
  items : Members
  /-- they are in key order, at every level -/
  canonical : Canonical (.object items)

namespace Dict

/-- An empty dict. -/
def empty : Dict := ⟨[], .nil, trivial⟩

/-- `d[key] = value`. -/
def set (d : Dict) (key : Codes) (value : Value) : Dict where
  items := setItem key value.json d.items
  canonical := ⟨pairwise_setItem d.canonical.1, canonicalMembers_setItem value.canonical d.canonical.2⟩

/-- A dict display: later items replace earlier ones with the same key. -/
def ofItems (items : List (Codes × Value)) : Dict :=
  items.foldl (fun d item => d.set item.1 item.2) empty

end Dict

/-- The digits of a number. -/
def natLiteral (n : Nat) : Codes :=
  if n < 10 then ['0'.toNat + n] else natLiteral (n / 10) ++ ['0'.toNat + n % 10]
decreasing_by omega

theorem step_digit {s : NumeralState} (hs : s = .start ∨ s = .int) {d : Nat} (h : d < 10)
    (hd : s = .start → d ≠ 0) : s.step ('0'.toNat + d) = some .int := by
  rcases hs with rfl | rfl
  · have hne := hd rfl
    interval_cases d <;> first | rfl | contradiction
  · interval_cases d <;> rfl

/-- The digits of a number are a literal. -/
theorem run_natLiteral (n : Nat) : (natLiteral n).foldlM NumeralState.step .start =
    some (if n = 0 then .zero else .int) := by
  induction n using Nat.strongRecOn with
  | ind n ih =>
    rw [natLiteral]
    split
    next h => interval_cases n <;> rfl
    next h =>
      have hdiv : n / 10 ≠ 0 := by omega
      have hn : n ≠ 0 := by omega
      rw [List.foldlM_append, ih (n / 10) (by omega), if_neg hdiv, if_neg hn]
      have hstep := step_digit (.inr rfl) (Nat.mod_lt n (by decide : 0 < 10)) (by simp)
      simp only [Option.bind_eq_bind, Option.bind_some, List.foldlM_cons, hstep,
        List.foldlM_nil, Option.pure_def]

theorem isNumeral_natLiteral (n : Nat) : IsNumeral (natLiteral n) :=
  ⟨_, run_natLiteral n, by split <;> rfl⟩

/-- The number a literal without sign, fraction and exponent stands for. -/
def literalNat (literal : Codes) : Nat := literal.foldl (fun n c => 10 * n + (c - '0'.toNat)) 0

theorem literalNat_natLiteral (n : Nat) : literalNat (natLiteral n) = n := by
  induction n using Nat.strongRecOn with
  | ind n ih =>
    rw [natLiteral]
    by_cases h : n < 10
    · rw [if_pos h]
      simp [literalNat]
    · have hquotient := ih (n / 10) (by omega)
      unfold literalNat at hquotient ⊢
      rw [if_neg h, List.foldl_append, hquotient]
      simp
      omega

namespace Value

/-- A text. -/
def text (s : Codes) : Value := ⟨.string s, trivial⟩

/-- `None`. -/
def none : Value := ⟨.word .null, trivial⟩

/-- A truth value. -/
def bool (b : Bool) : Value := ⟨.word (if b then .true else .false), trivial⟩

/-- A count. -/
def nat (n : Nat) : Value := ⟨.number (natLiteral n), isNumeral_natLiteral n⟩

/-- A dict. -/
def dict (d : Dict) : Value := ⟨.object d.items, d.canonical⟩

/-- A text or `None`. -/
def optional : Option Codes → Value
  | some s => text s
  | Option.none => none

end Value

/-! ## Events -/

/-- `CompensationTask`, as it is logged. -/
structure LoggedTask where
  /-- `task_id` -/
  taskId : Codes
  /-- `operation_type` -/
  operationType : Codes
  /-- `account` -/
  account : Codes
  /-- `status` -/
  status : CompensationStatus
  /-- `payload` -/
  payload : Dict
  /-- `error` -/
  error : Codes
  /-- `related_record_id` -/
  relatedRecordId : Option Codes
  /-- `retry_count` -/
  retryCount : Nat
  /-- `created_at` -/
  createdAt : Codes
  /-- `updated_at` -/
  updatedAt : Codes
  /-- a task without an id is given one -/
  named : taskId ≠ []

/-- `asdict(task)`. -/
def LoggedTask.asDict (task : LoggedTask) : List (Codes × Value) :=
  [(codes "task_id", .text task.taskId),
    (codes "operation_type", .text task.operationType),
    (codes "account", .text task.account),
    (codes "status", .text (codes task.status.text)),
    (codes "payload", .dict task.payload),
    (codes "error", .text task.error),
    (codes "related_record_id", .optional task.relatedRecordId),
    (codes "retry_count", .nat task.retryCount),
    (codes "created_at", .text task.createdAt),
    (codes "updated_at", .text task.updatedAt)]

/-- How a Python name starts. -/
def IsNameStart (c : Nat) : Prop :=
  ('a'.toNat ≤ c ∧ c ≤ 'z'.toNat) ∨ ('A'.toNat ≤ c ∧ c ≤ 'Z'.toNat) ∨ c = '_'.toNat ∨ 128 ≤ c

instance (c : Nat) : Decidable (IsNameStart c) := inferInstanceAs (Decidable (_ ∨ _))

/-- The key starts the way a Python name does. -/
def IsName : Codes → Prop
  | [] => False
  | c :: _ => IsNameStart c

instance : DecidablePred IsName
  | [] => inferInstanceAs (Decidable False)
  | c :: _ => inferInstanceAs (Decidable (IsNameStart c))

/-- `**metadata`: what a status event says beside the status. It arrives as keyword arguments. -/
structure Metadata where
  /-- the arguments -/
  items : List (Codes × Value)
  /-- their names -/
  names : ∀ item ∈ items, IsName item.1

/-- The events `record`, `prepare`, `_append_status` and `_mirror_current_state` append. -/
inductive LogEvent
  /-- `CREATED`, by `record` or `prepare` -/
  | created (task : LoggedTask) (mirrorEligible : Bool)
  /-- `STATUS` -/
  | status (taskId : Codes) (named : taskId ≠ []) (status : CompensationStatus)
      (metadata : Metadata) (updatedAt : Codes) (mirrorEligible : Bool)
  /-- `MIRROR` -/
  | mirror (taskId : Codes) (named : taskId ≠ []) (receipt : Dict) (recordId : Option Codes)

namespace LogEvent

/-- The items of the dict display that builds the event. -/
def fields : LogEvent → List (Codes × Value)
  | created task mirrorEligible =>
    (codes "event", .text (codes "CREATED")) :: (task.asDict ++
      [(codes "mirror_eligible", .bool mirrorEligible)])
  | status taskId _ new metadata updatedAt mirrorEligible =>
    (codes "event", .text (codes "STATUS")) :: (metadata.items ++
      [(codes "task_id", .text taskId), (codes "status", .text (codes new.text)),
        (codes "updated_at", .text updatedAt), (codes "mirror_eligible", .bool mirrorEligible)])
  | mirror taskId _ receipt recordId =>
    [(codes "event", .text (codes "MIRROR")), (codes "task_id", .text taskId),
      (codes "mirror_receipt", .dict receipt)] ++
      (recordId.map fun id => (codes "mirror_record_id", Value.text id)).toList

/-- The event. -/
def dict (e : LogEvent) : Dict := Dict.ofItems e.fields

/-- `task_id`. -/
def taskId : LogEvent → Codes
  | created task _ => task.taskId
  | status taskId .. => taskId
  | mirror taskId .. => taskId

/-- The event as a value. -/
def json (e : LogEvent) : Json := .object e.dict.items

/-- `json.dumps(event, ensure_ascii=False, sort_keys=True, default=str)`. -/
def text (e : LogEvent) : Codes := render e.json

/-- The line `_append_event` writes. -/
def line (e : LogEvent) : Codes := e.text ++ ['\n'.toNat]

end LogEvent

/-- `_append_event`: the file afterwards, or nothing when the line cannot be encoded. -/
def appendEvent (file : List UInt8) (e : LogEvent) : Option (List UInt8) :=
  (encodeUtf8 e.line).map fun bytes => file ++ bytes

/-! ## What every event has -/

theorem mem_keys_foldl_set {items : List (Codes × Value)} {k : Codes} : ∀ {d : Dict},
    k ∈ (items.foldl (fun d item => d.set item.1 item.2) d).items.map Prod.fst ↔
      k ∈ d.items.map Prod.fst ∨ k ∈ items.map Prod.fst := by
  induction items with
  | nil => simp
  | cons item items ih =>
    intro d
    rw [List.foldl_cons, ih, Dict.set, mem_keys_setItem, List.map_cons, List.mem_cons]
    tauto

/-- The keys of a dict display. -/
theorem mem_keys_ofItems {items : List (Codes × Value)} {k : Codes} :
    k ∈ (Dict.ofItems items).items.map Prod.fst ↔ k ∈ items.map Prod.fst := by
  rw [Dict.ofItems, mem_keys_foldl_set]
  simp [Dict.empty]

theorem getItem_foldl_set {items : List (Codes × Value)} {k : Codes}
    (h : k ∉ items.map Prod.fst) : ∀ {d : Dict},
    getItem k (items.foldl (fun d item => d.set item.1 item.2) d).items = getItem k d.items := by
  induction items with
  | nil => intro d; rfl
  | cons item items ih =>
    intro d
    rw [List.map_cons, List.mem_cons, not_or] at h
    rw [List.foldl_cons, ih h.2, Dict.set, getItem_setItem_of_ne h.1]

/-- The last item of a key in a dict display counts. -/
theorem getItem_ofItems (before : List (Codes × Value)) {after : List (Codes × Value)} {k : Codes}
    {v : Value} (h : k ∉ after.map Prod.fst) :
    getItem k (Dict.ofItems (before ++ (k, v) :: after)).items = some v.json := by
  rw [Dict.ofItems, List.foldl_append, List.foldl_cons, getItem_foldl_set h, Dict.set,
    getItem_setItem]

namespace LogEvent

/-- The task id of an event stands under `task_id`. -/
theorem getItem_taskId (e : LogEvent) :
    getItem (codes "task_id") e.dict.items = some (.string e.taskId) := by
  cases e with
  | created task mirrorEligible =>
    refine getItem_ofItems [(codes "event", .text (codes "CREATED"))] ?_
    simp only [List.append_eq, List.map_append, List.map_cons, List.map_nil]
    decide
  | status taskId _ new metadata updatedAt mirrorEligible =>
    have hfields : (status taskId ‹_› new metadata updatedAt mirrorEligible).fields =
        ((codes "event", .text (codes "STATUS")) :: metadata.items) ++
          (codes "task_id", .text taskId) :: [(codes "status", .text (codes new.text)),
            (codes "updated_at", .text updatedAt), (codes "mirror_eligible", .bool mirrorEligible)] := by
      simp [fields]
    rw [dict, hfields]
    refine getItem_ofItems _ ?_
    simp only [List.map_cons, List.map_nil]
    decide
  | mirror taskId _ receipt recordId =>
    refine getItem_ofItems [(codes "event", .text (codes "MIRROR"))] ?_
    cases recordId <;>
    · simp only [List.append_eq, List.map_append, List.map_cons, List.map_nil, Option.map,
        Option.toList]
      decide

/-- The keys of an event start like names. -/
theorem isName_of_mem (e : LogEvent) {k : Codes} (h : k ∈ e.dict.items.map Prod.fst) :
    IsName k := by
  rw [dict, mem_keys_ofItems] at h
  cases e with
  | created task mirrorEligible =>
    have hnames : ∀ k ∈ [codes "event", codes "task_id", codes "operation_type", codes "account",
        codes "status", codes "payload", codes "error", codes "related_record_id",
        codes "retry_count", codes "created_at", codes "updated_at", codes "mirror_eligible"],
        IsName k := by decide
    exact hnames k h
  | status taskId _ new metadata updatedAt mirrorEligible =>
    have hnames : ∀ k ∈ [codes "task_id", codes "status", codes "updated_at",
        codes "mirror_eligible"], IsName k := by decide
    have hevent : IsName (codes "event") := by decide
    rw [fields, List.map_cons, List.map_append] at h
    rcases List.mem_cons.mp h with rfl | h
    · exact hevent
    · rcases List.mem_append.mp h with h | h
      · obtain ⟨item, hitem, rfl⟩ := List.mem_map.mp h
        exact metadata.names item hitem
      · exact hnames k h
  | mirror taskId _ receipt recordId =>
    have hnames : ∀ k ∈ [codes "event", codes "task_id", codes "mirror_receipt",
        codes "mirror_record_id"], IsName k := by decide
    cases recordId with
    | none => exact hnames k (List.mem_append_left [codes "mirror_record_id"] h)
    | some id => exact hnames k h

theorem not_isCloser_of_isNameStart {c : Nat} (h : IsNameStart c) : ¬ IsCloser c := by
  simp only [IsNameStart, IsCloser, isJsonSpace, Char.reduceToNat] at h ⊢
  simp only [Bool.or_eq_true, beq_iff_eq]
  omega

/-- The text of an event is that of a dict with a first item. -/
theorem dictText (e : LogEvent) : DictText e.text := by
  have hitem := e.getItem_taskId
  have hname := fun k => e.isName_of_mem (k := k)
  have hcanonical := e.dict.canonical
  rw [text, json]
  cases hitems : e.dict.items with
  | nil =>
    rw [hitems] at hitem
    cases hitem
  | cons first rest =>
    obtain ⟨k, v⟩ := first
    rw [hitems] at hname hcanonical
    have hk : IsName k := hname k (by simp)
    cases k with
    | nil => exact hk.elim
    | cons c k => exact dictText_render (not_isCloser_of_isNameStart hk) hcanonical

theorem named (e : LogEvent) : e.taskId ≠ [] := by
  cases e with
  | created task => exact task.named
  | status _ hnamed => exact hnamed
  | mirror _ hnamed => exact hnamed

end LogEvent

/-! ## Reading -/

/-- `bool(value)`. -/
def truthy : Json → Bool
  | .word .null | .word .false => false
  | .word _ => true
  | .number literal =>
    (literal.takeWhile fun c => c ≠ 'e'.toNat ∧ c ≠ 'E'.toNat).any fun c =>
      '1'.toNat ≤ c && c ≤ '9'.toNat
  | .string s => s ≠ []
  | .array items => !items.isEmpty
  | .object members => !members.isEmpty

/-- A line of white space only. -/
def isBlankLine (line : Codes) : Bool := line.all fun n => (charOf? n).any isSpace

/-- The event on a line, if there is one. -/
def parseLine (line : Codes) : Option Members :=
  if isBlankLine line then none
  else
    match loads line with
    | some (.object items) =>
      if (getItem (codes "task_id") items).any truthy then some items else none
    | _ => none

/-- `_read_events`; `none` is `UnicodeDecodeError`. A file that does not exist reads as an empty
one. -/
def readEvents (file : List UInt8) : Option (List Members) :=
  (decodeUtf8 file).map fun text => (splitlines (universalNewlines false text)).filterMap parseLine

/-! ## Folding -/

/-- `str(value)`. The ids of the log are texts; what else a value prints as only has to tell it
from a text of the log. -/
def pyText : Json → Codes
  | .string s => s
  | .number literal => literal
  | .word .null => codes "None"
  | .word .true => codes "True"
  | .word .false => codes "False"
  | .word .nan => codes "nan"
  | .word .infinity => codes "inf"
  | .word .negInfinity => codes "-inf"
  | .array items => render (.array items)
  | .object members => render (.object members)

/-- `d.setdefault(key, value)`. -/
def setDefault (key : Codes) (value : Json) (items : Members) : Members :=
  if (getItem key items).isSome then items else setItem key value items

/-- What a later event of a task leaves as it was. -/
def immutableKeys : List Codes :=
  [codes "event", codes "operation_type", codes "account", codes "payload", codes "created_at"]

/-- `(current.get("payload") or {}).get("targets")`; `none` when the payload is no dict. -/
def payloadTargets (current : Members) : Option (Option Json) :=
  match getItem (codes "payload") current with
  | some (.object payload) => some (getItem (codes "targets") payload)
  | some payload => if truthy payload then none else some none
  | none => some none

section
variable (targetIsSupported : Json → Bool)

/-- `current["supported"]`. -/
def targetsSupported : Option Json → Bool
  | some (.array targets) => !targets.isEmpty && targets.all targetIsSupported
  | _ => false

/-- `current["target_count"]`. -/
def targetCount : Option Json → Nat
  | some (.array targets) => targets.length
  | _ => 0

/-- The `CREATED` event of `record`. -/
def record (task : LoggedTask) : LogEvent :=
  .created { task with status := .pending }
    (targetsSupported targetIsSupported (getItem (codes "targets") task.payload.items))

/-- The `CREATED` event of `prepare`, which refuses a payload that could not be applied. -/
def prepare (task : LoggedTask) : Except Error LogEvent :=
  match getItem (codes "targets") task.payload.items with
  | some (.array (target :: targets)) =>
    if (target :: targets).all targetIsSupported then
      .ok (.created { task with status := .prepared, error := [] } false)
    else .error (.value "prepared compensation payload contains unsupported target")
  | _ => .error (.value "prepared compensation payload requires targets")

/-- The state of a task after an event. -/
def foldTask (current : Option Members) (event : Members) : Option Members :=
  let merged :=
    match current with
    | none =>
      setDefault (codes "target_outcomes") (.array [])
        (setDefault (codes "payload") (.object [])
          (setDefault (codes "retry_count") (.number (natLiteral 0))
            (setDefault (codes "status") (.string (codes CompensationStatus.pending.text))
              (event.filter fun item => item.1 ≠ codes "event"))))
    | some current =>
      event.foldl (fun current item =>
        if item.1 ∈ immutableKeys then current else setItem item.1 item.2 current) current
  (payloadTargets merged).map fun targets =>
    let supported := targetsSupported targetIsSupported targets
    let counted := setItem (codes "target_count") (.number (natLiteral (targetCount targets)))
      (setItem (codes "supported") (Value.bool supported).json merged)
    let prepared :=
      match getItem (codes "status") counted with
      | some (.string s) => s = codes CompensationStatus.prepared.text
      | _ => false
    setDefault (codes "mirror_eligible") (Value.bool (supported && !prepared)).json counted

/-- The tasks after an event, in the order of their first events. -/
def foldEvent (folded : List (Codes × Members)) (event : Members) :
    Option (List (Codes × Members)) :=
  let taskId := pyText ((getItem (codes "task_id") event).getD (.word .null))
  match folded.find? fun task => task.1 = taskId with
  | none => (foldTask targetIsSupported none event).map fun task => folded ++ [(taskId, task)]
  | some (_, current) =>
    (foldTask targetIsSupported (some current) event).map fun task =>
      folded.map fun entry => if entry.1 = taskId then (taskId, task) else entry

/-- `_fold_events` over events; `none` when a payload is no dict. -/
def foldEvents (events : List Members) : Option (List (Codes × Members)) :=
  events.foldlM (foldEvent targetIsSupported) []

end

/-! ## Lines of the log -/

theorem mem_keys_of_getItem {k : Codes} {v : Json} {items : Members} (h : getItem k items = some v) :
    k ∈ items.map Prod.fst := by
  obtain ⟨item, hitem, -⟩ := Option.map_eq_some_iff.mp h
  have hkey : item.1 = k := by simpa using List.find?_some hitem
  exact List.mem_map.mpr ⟨item, List.mem_of_find?_eq_some hitem, hkey⟩

/-- A line that is read as an event is a dict with an underscore in a key. -/
theorem entry_of_parseLine {line : Codes} {items : Members} (h : parseLine line = some items) :
    Entry '_'.toNat line := by
  unfold parseLine at h
  split at h
  · cases h
  split at h
  next dict hloads =>
    refine ⟨dict, hloads, fun hfree => ?_⟩
    split at h
    next htask =>
      cases hitem : getItem (codes "task_id") dict with
      | none =>
        rw [hitem] at htask
        cases htask
      | some v => exact hfree _ (mem_keys_of_getItem hitem) (by decide)
    next => cases h
  · cases h

theorem parseLine_of_not_entry {line : Codes} (h : ¬ Entry '_'.toNat line) :
    parseLine line = none := by
  cases hline : parseLine line with
  | none => rfl
  | some items => exact absurd (entry_of_parseLine hline) h

theorem filterMap_parseLine {lines : List Codes} (h : ∀ line ∈ lines, ¬ Entry '_'.toNat line) :
    lines.filterMap parseLine = [] :=
  List.filterMap_eq_nil_iff.mpr fun line hline => parseLine_of_not_entry (h line hline)

/-- An event on a line of its own is read back. -/
theorem parseLine_text {before : Codes} (hbefore : Blank before) (e : LogEvent) :
    parseLine (before ++ e.text) = some e.dict.items := by
  have hloads : loads (before ++ e.text) = some (.object e.dict.items) := by
    rw [loads_blank_append hbefore]
    exact loads_render e.json e.dict.canonical
  have hblank : isBlankLine (before ++ e.text) = false := by
    obtain ⟨x, t, htext, -⟩ := e.dictText.opening
    have hbrace : ((charOf? '{'.toNat).any isSpace) = false := by decide
    rw [htext, isBlankLine, List.all_append, List.all_cons, hbrace]
    simp
  have htruthy : (getItem (codes "task_id") e.dict.items).any truthy = true := by
    rw [e.getItem_taskId]
    simp [truthy, e.named]
  simp [parseLine, hblank, hloads, htruthy]

end PortfolioManagement
