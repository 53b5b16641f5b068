import PortfolioManagement.Compensation.Log
import PortfolioManagement.Lib.JsonValues
import PortfolioManagement.Lib.Lists

/-!
# Complete listings

`list_records` reads a table page by page: it starts without a token, asks for each next page with the token
of the page before and stops at the last one. With `require_complete` a page has to prove that it is well
formed and how the listing goes on, and no record id may come twice.

The server is a function from the token of a request to the data of its answer, any value at all. What is
returned is a chain of its pages, and a table that is cut into pages is returned as a whole.
-/

namespace PortfolioManagement.Listing

/-- What reading a page raises. -/
inductive ListError
  /-- records completeness is unproven -/
  | unproven
  /-- records response items is invalid -/
  | invalidItems
  /-- record shape is invalid -/
  | recordShape
  /-- pagination repeated record_id -/
  | repeatedRecord
  /-- pagination is incomplete: has_more without page_token -/
  | missingToken
  /-- pagination repeated page_token -/
  | repeatedToken
  /-- pagination is incomplete: empty non-final page -/
  | emptyPage
  /-- `TypeError`, `KeyError` or `AttributeError` of a value of another shape -/
  | shape
deriving DecidableEq

/-- A record of the result. -/
structure Record where
  /-- `record_id` -/
  recordId : Json
  /-- `fields` -/
  fields : Json

/-- What the loop holds between two pages. -/
structure Progress where
  /-- `records` -/
  records : List Record
  /-- `page_token` -/
  token : Json
  /-- `seen_page_tokens` -/
  seenTokens : List Json
  /-- `seen_record_ids` -/
  seenIds : List Json

/-- The loop before its first page. -/
def Progress.start : Progress := ⟨[], Json.none, [], []⟩

/-- The value can be an element of a set. -/
def hashable : Json → Bool
  | .array _ | .object _ => false
  | _ => true

section
variable (equalNumbers : Codes → Codes → Bool)

/-- `value in seen`. -/
def isIn (v : Json) (seen : List Json) : Bool := seen.any fun w => Json.same equalNumbers w v

/-- What `require_complete` asks of an item. -/
def wellFormed : Json → Bool
  | .object members =>
    match Json.get members "record_id", Json.get members "fields" with
    | .string s, .object _ => !isBlankLine s
    | _, _ => false
  | _ => false

/-- `{'record_id': item['record_id'], 'fields': item['fields']}`. -/
def recordOf : Json → Except ListError Record
  | .object members =>
    match getItem (codes "record_id") members, getItem (codes "fields") members with
    | some recordId, some fields => .ok ⟨recordId, fields⟩
    | _, _ => .error .shape
  | _ => .error .shape

/-- One item of a page. -/
def readItem (requireComplete : Bool) (l : Progress) (item : Json) : Except ListError Progress := do
  if requireComplete = true ∧ wellFormed item = false then throw .recordShape
  let record ← recordOf item
  if requireComplete = true ∧ isIn equalNumbers record.recordId l.seenIds = true then
    throw .repeatedRecord
  if hashable record.recordId = false then throw .shape
  return { l with seenIds := l.seenIds ++ [record.recordId], records := l.records ++ [record] }

/-- The items of a page. -/
def readItems (requireComplete : Bool) (l : Progress) (items : List Json) : Except ListError Progress :=
  items.foldlM (readItem equalNumbers requireComplete) l

/-- `data.get('items', [])`, when it is a list. -/
def pageItems (members : Members) : Except ListError (List Json) :=
  match getItem (codes "items") members with
  | none => .ok []
  | some (.array items) => .ok items
  | some _ => .error .invalidItems

/-- The answer proves how the listing goes on. -/
def proven (members : Members) : Bool :=
  (getItem (codes "items") members).isSome &&
    match Json.get members "has_more" with
    | .word .true | .word .false => true
    | _ => false

/-- The token of the next page is recorded. -/
def noteToken (token : Json) (l : Progress) : Except ListError Progress := do
  if token.truthy = true then
    if hashable token = false then throw .shape
    if isIn equalNumbers token l.seenTokens = true then throw .repeatedToken
    return { l with seenTokens := l.seenTokens ++ [token] }
  else return l

/-- One page: what the loop holds after it, and whether it was the last one. -/
def readPage (requireComplete : Bool) (data : Json) (l : Progress) : Except ListError (Progress × Bool) := do
  let .object members := data | throw (if requireComplete then .unproven else .shape)
  if requireComplete = true ∧ proven members = false then throw .unproven
  let items ← pageItems members
  let l ← readItems equalNumbers requireComplete l items
  let token := Json.get members "page_token"
  let hasMore := Json.get members "has_more"
  if hasMore.isTrue = true ∧ token.truthy = false then throw .missingToken
  let l ← noteToken equalNumbers token l
  if hasMore.isTrue = true ∧ items.isEmpty = true then throw .emptyPage
  return ({ l with token := token }, hasMore.isFalse || !token.truthy)

/-- The loop, for a number of pages; `none` when the listing goes on after them. -/
def listFrom (requireComplete : Bool) (server : Json → Json) :
    Nat → Progress → Option (Except ListError (List Record))
  | 0, _ => none
  | fuel + 1, l =>
    match readPage equalNumbers requireComplete (server l.token) l with
    | .error e => some (.error e)
    | .ok (l, true) => some (.ok l.records)
    | .ok (l, false) => listFrom requireComplete server fuel l

/-- `list_records`. -/
def listRecords (requireComplete : Bool) (server : Json → Json) (fuel : Nat) :
    Option (Except ListError (List Record)) :=
  listFrom equalNumbers requireComplete server fuel .start

end

variable {equalNumbers : Codes → Codes → Bool}

/-! ## Items -/

section
variable {l l' : Progress} {item : Json} {items : List Json}

theorem wellFormed_iff : wellFormed item = true ↔ ∃ members s fields, item = .object members ∧
    Json.get members "record_id" = .string s ∧ Json.get members "fields" = .object fields ∧
    isBlankLine s = false := by
  constructor
  · intro h
    unfold wellFormed at h
    split at h
    · split at h
      · next members _ _ s fields hid hfields =>
        exact ⟨members, s, fields, rfl, hid, hfields, by simpa using h⟩
      · cases h
    · cases h
  · rintro ⟨members, s, fields, rfl, hid, hfields, hblank⟩
    simp [wellFormed, hid, hfields, hblank]

theorem getItem_of_get_ne {members : Members} {name : String} {v : Json} (h : Json.get members name = v)
    (hne : v ≠ Json.none) : getItem (codes name) members = some v := by
  unfold Json.get at h
  cases hget : getItem (codes name) members with
  | none =>
    rw [hget] at h
    exact absurd h.symm hne
  | some w =>
    rw [hget] at h
    exact congrArg some h

/-- A well-formed item is a record with a text for its id. -/
theorem recordOf_wellFormed (h : wellFormed item = true) :
    ∃ s fields, recordOf item = .ok ⟨.string s, fields⟩ ∧ isBlankLine s = false := by
  obtain ⟨members, s, fields, rfl, hid, hfields, hblank⟩ := wellFormed_iff.mp h
  refine ⟨s, .object fields, ?_, hblank⟩
  simp only [recordOf, getItem_of_get_ne hid (by simp [Json.none]),
    getItem_of_get_ne hfields (by simp [Json.none])]

/-- What an item that is read adds. -/
theorem readItem_ok {requireComplete : Bool}
    (h : readItem equalNumbers requireComplete l item = .ok l') :
    ∃ record, recordOf item = .ok record ∧
      l' = { l with seenIds := l.seenIds ++ [record.recordId], records := l.records ++ [record] } ∧
      (requireComplete = true →
        wellFormed item = true ∧ isIn equalNumbers record.recordId l.seenIds = false) := by
  unfold readItem at h
  obtain ⟨hformed, h⟩ := except_guard_ok h
  obtain ⟨record, hrecord, h⟩ := except_bind_ok h
  obtain ⟨hseen, h⟩ := except_guard_ok h
  obtain ⟨-, h⟩ := except_guard_ok h
  cases h
  refine ⟨record, hrecord, rfl, fun hcomplete => ⟨?_, ?_⟩⟩
  · simpa [hcomplete] using hformed
  · simpa [hcomplete] using hseen

/-- A new well-formed item is read. -/
theorem readItem_eq {record : Record} (hformed : wellFormed item = true)
    (hrecord : recordOf item = .ok record)
    (hnew : isIn equalNumbers record.recordId l.seenIds = false) :
    readItem equalNumbers true l item =
      .ok { l with seenIds := l.seenIds ++ [record.recordId], records := l.records ++ [record] } := by
  obtain ⟨s, fields, hs, -⟩ := recordOf_wellFormed hformed
  have hhash : ¬ hashable record.recordId = false := by
    rw [hrecord] at hs
    rw [Except.ok.inj hs]
    exact Bool.noConfusion
  unfold readItem
  rw [if_neg (by simp [hformed]), hrecord]
  show (if true = true ∧ isIn equalNumbers record.recordId l.seenIds = true then _ else _) = _
  rw [if_neg (by simp [hnew])]
  exact if_neg hhash

/-- What the items of a page add. -/
structure Read (l : Progress) (items : List Json) (records : List Record) (l' : Progress) : Prop where
  /-- each item is a record -/
  read : items.mapM recordOf = .ok records
  /-- the records are appended -/
  appended : l'.records = l.records ++ records
  /-- their ids are noted -/
  noted : l'.seenIds = l.seenIds ++ records.map Record.recordId
  /-- nothing else changes -/
  others : l'.token = l.token ∧ l'.seenTokens = l.seenTokens

/-- `==` with no element before. -/
def Fresh (equalNumbers : Codes → Codes → Bool) : List Json → Prop :=
  List.Pairwise fun v w => Json.same equalNumbers v w = false

theorem isIn_eq_false {v : Json} {seen : List Json} :
    isIn equalNumbers v seen = false ↔ ∀ w ∈ seen, Json.same equalNumbers w v = false := by
  simp [isIn]

theorem fresh_append_singleton {v : Json} {seen : List Json} (h : Fresh equalNumbers seen)
    (hv : isIn equalNumbers v seen = false) : Fresh equalNumbers (seen ++ [v]) :=
  List.pairwise_append.mpr ⟨h, List.pairwise_singleton _ _, fun w hw _ hu =>
    List.mem_singleton.mp hu ▸ isIn_eq_false.mp hv w hw⟩

theorem readItems_ok {requireComplete : Bool}
    (h : readItems equalNumbers requireComplete l items = .ok l') :
    ∃ records, Read l items records l' ∧ (requireComplete = true →
      (∀ item ∈ items, wellFormed item = true) ∧
        (Fresh equalNumbers l.seenIds → Fresh equalNumbers l'.seenIds)) := by
  unfold readItems at h
  induction items generalizing l with
  | nil =>
    cases h
    exact ⟨[], ⟨rfl, (List.append_nil _).symm, (List.append_nil _).symm, rfl, rfl⟩,
      fun _ => ⟨fun item hitem => absurd hitem List.not_mem_nil, id⟩⟩
  | cons item items ih =>
    rw [List.foldlM_cons] at h
    obtain ⟨middle, hitem, h⟩ := except_bind_ok h
    obtain ⟨record, hrecord, rfl, hcomplete⟩ := readItem_ok hitem
    obtain ⟨records, hread, hrest⟩ := ih h
    refine ⟨record :: records, ⟨?_, ?_, ?_, hread.others⟩, fun hrequired => ⟨?_, fun hfresh => ?_⟩⟩
    · rw [List.mapM_cons, hrecord, hread.read]
      rfl
    · rw [hread.appended]
      exact List.append_assoc _ _ _
    · rw [hread.noted]
      exact List.append_assoc _ _ _
    · exact List.forall_mem_cons.mpr ⟨(hcomplete hrequired).1, (hrest hrequired).1⟩
    · exact (hrest hrequired).2 (fresh_append_singleton hfresh (hcomplete hrequired).2)

end

end PortfolioManagement.Listing
