import PortfolioManagement.Listing.Records

/-!
# What a listing returns

The loop only follows tokens it has not seen, so a server with finitely many of them stops it. What it
returns is the records of a chain of pages, from the request without a token to a page that says it is the
last one. And a server that cuts a table into pages gives the whole table.
-/

namespace PortfolioManagement.Listing

variable {equalNumbers : Codes → Codes → Bool} {server : Json → Json}

/-! ## One page -/

/-- What a page that is read adds, and how the listing goes on. -/
structure PageRead (equalNumbers : Codes → Codes → Bool) (requireComplete : Bool) (members : Members)
    (items : List Json) (records : List Record) (l l' : Progress) (done : Bool) : Prop where
  items_eq : pageItems members = .ok items
  read : items.mapM recordOf = .ok records
  appended : l'.records = l.records ++ records
  noted : l'.seenIds = l.seenIds ++ records.map Record.recordId
  token : l'.token = Json.get members "page_token"
  seenToken : l'.token.truthy = true →
    isIn equalNumbers l'.token l.seenTokens = false ∧ l'.seenTokens = l.seenTokens ++ [l'.token]
  noToken : l'.token.truthy = false → l'.seenTokens = l.seenTokens
  more : (Json.get members "has_more").isTrue = true → l'.token.truthy = true
  done_eq : done = ((Json.get members "has_more").isFalse || !l'.token.truthy)
  complete : requireComplete = true → proven members = true ∧ (∀ item ∈ items, wellFormed item = true) ∧
    (Fresh equalNumbers l.seenIds → Fresh equalNumbers l'.seenIds)

/-- What recording a token adds. -/
theorem noteToken_ok {token : Json} {l l' : Progress} (h : noteToken equalNumbers token l = .ok l') :
    l'.records = l.records ∧ l'.seenIds = l.seenIds ∧
      (token.truthy = true →
        isIn equalNumbers token l.seenTokens = false ∧ l'.seenTokens = l.seenTokens ++ [token]) ∧
      (token.truthy = false → l'.seenTokens = l.seenTokens) := by
  unfold noteToken at h
  by_cases htruthy : token.truthy = true
  · rw [if_pos htruthy] at h
    obtain ⟨-, h⟩ := except_guard_ok h
    obtain ⟨hseen, h⟩ := except_guard_ok h
    cases h
    exact ⟨rfl, rfl, fun _ => ⟨by simpa using hseen, rfl⟩, fun hfalse => by simp [htruthy] at hfalse⟩
  · rw [if_neg htruthy] at h
    cases h
    exact ⟨rfl, rfl, fun htrue => absurd htrue htruthy, fun _ => rfl⟩

theorem readPage_ok {requireComplete done : Bool} {data : Json} {l l' : Progress}
    (h : readPage equalNumbers requireComplete data l = .ok (l', done)) :
    ∃ members items records, data = .object members ∧
      PageRead equalNumbers requireComplete members items records l l' done := by
  unfold readPage at h
  cases data with
  | object members =>
    simp only at h
    obtain ⟨hproven, h⟩ := except_guard_ok h
    obtain ⟨items, hitems, h⟩ := except_bind_ok h
    obtain ⟨middle, hmiddle, h⟩ := except_bind_ok h
    obtain ⟨hmore, h⟩ := except_guard_ok h
    obtain ⟨noted, hnoted, h⟩ := except_bind_ok h
    obtain ⟨-, h⟩ := except_guard_ok h
    cases h
    obtain ⟨records, hread, hcomplete⟩ := readItems_ok hmiddle
    obtain ⟨hrecords, hids, hseen, hunseen⟩ := noteToken_ok hnoted
    refine ⟨members, items, records, rfl, ⟨hitems, hread.read, ?_, ?_, rfl, ?_, ?_, ?_, rfl, ?_⟩⟩
    · exact hrecords.trans hread.appended
    · exact hids.trans hread.noted
    · exact fun htruthy => hread.others.2 ▸ hseen htruthy
    · exact fun hfalse => (hunseen hfalse).trans hread.others.2
    · intro htrue
      simpa [htrue] using hmore
    · intro hrequired
      refine ⟨by simpa [hrequired] using hproven, (hcomplete hrequired).1, fun hfresh => ?_⟩
      show Fresh equalNumbers noted.seenIds
      rw [hids]
      exact (hcomplete hrequired).2 hfresh
  | _ => cases h

/-- A page that proves how the listing goes on says whether there is more. -/
theorem hasMore_of_proven {members : Members} (h : proven members = true) :
    ∃ more, Json.get members "has_more" = Json.ofBool more := by
  unfold proven at h
  rw [Bool.and_eq_true] at h
  generalize Json.get members "has_more" = v at h ⊢
  cases v with
  | word w =>
    cases w with
    | true => exact ⟨true, rfl⟩
    | false => exact ⟨false, rfl⟩
    | _ => simp at h
  | _ => simp at h

/-! ## What is returned -/

/-- The records of a page. -/
def pageRecords (members : Members) : Except ListError (List Record) := do
  (← pageItems members).mapM recordOf

/-- The pages of a listing, from a token on: each is asked for with the token of the one before, and only
the last one says that there is no more. -/
inductive Chain (server : Json → Json) : Json → List Members → Prop
  | last {token : Json} {members : Members} (hpage : server token = .object members)
      (hmore : Json.get members "has_more" = Json.ofBool false) : Chain server token [members]
  | next {token : Json} {members : Members} {pages : List Members}
      (hpage : server token = .object members) (hmore : Json.get members "has_more" = Json.ofBool true)
      (htoken : (Json.get members "page_token").truthy = true)
      (hrest : Chain server (Json.get members "page_token") pages) :
      Chain server token (members :: pages)

/-- The tokens the pages of a listing lead on with. -/
def followed (pages : List Members) : List Json :=
  pages.dropLast.map fun members => Json.get members "page_token"

theorem followed_cons {members : Members} {pages : List Members} (h : pages ≠ []) :
    followed (members :: pages) = Json.get members "page_token" :: followed pages := by
  unfold followed
  rw [List.dropLast_cons_of_ne_nil h, List.map_cons]

theorem Chain.ne_nil {token : Json} {pages : List Members} (h : Chain server token pages) : pages ≠ [] := by
  cases h <;> exact List.cons_ne_nil _ _

/-- Every record of the pages has a text for its id, and no two have the same. -/
structure Returned (equalNumbers : Codes → Codes → Bool) (server : Json → Json) (l : Progress)
    (pages : List Members) (records : List Record) : Prop where
  chain : Chain server l.token pages
  tokens : Fresh equalNumbers (l.seenTokens ++ followed pages)
  concatenation : ∃ parts, pages.mapM pageRecords = .ok parts ∧ records = l.records ++ parts.flatten
  ids : ∃ added, records = l.records ++ added ∧
    Fresh equalNumbers (l.seenIds ++ added.map Record.recordId) ∧
    ∀ record ∈ added, ∃ s, record.recordId = .string s ∧ isBlankLine s = false

theorem pageRecords_eq {members : Members} {items : List Json} {records : List Record}
    (hitems : pageItems members = .ok items) (hread : items.mapM recordOf = .ok records) :
    pageRecords members = .ok records := by
  unfold pageRecords
  rw [hitems]
  exact hread

theorem texts_of_wellFormed {items : List Json} {records : List Record}
    (hformed : ∀ item ∈ items, wellFormed item = true) (hread : items.mapM recordOf = .ok records) :
    ∀ record ∈ records, ∃ s, record.recordId = .string s ∧ isBlankLine s = false := by
  intro record hrecord
  obtain ⟨item, hitem, hof⟩ := forall₂_mem_right (forall₂_of_mapM_ok hread) hrecord
  obtain ⟨s, fields, hs, hblank⟩ := recordOf_wellFormed (hformed item hitem)
  rw [hof] at hs
  exact ⟨s, by rw [Except.ok.inj hs], hblank⟩

/-- What a complete listing returns, from any state of its loop. -/
theorem returned_of_listFrom {records : List Record} : ∀ {fuel : Nat} {l : Progress},
    Fresh equalNumbers l.seenIds → Fresh equalNumbers l.seenTokens →
    listFrom equalNumbers true server fuel l = some (.ok records) →
    ∃ pages, Returned equalNumbers server l pages records
  | 0, _, _, _, h => by cases h
  | fuel + 1, l, hids, htokens, h => by
    unfold listFrom at h
    cases hpage : readPage equalNumbers true (server l.token) l with
    | error e =>
      rw [hpage] at h
      cases h
    | ok result =>
      obtain ⟨l', done⟩ := result
      rw [hpage] at h
      obtain ⟨members, items, added, hdata, hread⟩ := readPage_ok hpage
      obtain ⟨hproven, hformed, hfresh⟩ := hread.complete rfl
      obtain ⟨more, hmore⟩ := hasMore_of_proven hproven
      have hadded := texts_of_wellFormed hformed hread.read
      cases done with
      | true =>
        -- a page that says there is more has a token, so this one is the last
        have hlast : more = false := by
          cases more with
          | false => rfl
          | true =>
            have hdone := hread.done_eq
            rw [hmore, hread.more (by rw [hmore]; rfl)] at hdone
            cases hdone
        have hrecords : records = l'.records := (Except.ok.inj (Option.some.inj h)).symm
        refine ⟨[members], ⟨.last hdata (hlast ▸ hmore), ?_, ⟨[added], ?_, ?_⟩, added, ?_, ?_, hadded⟩⟩
        · simpa [followed] using htokens
        · rw [List.mapM_cons, pageRecords_eq hread.items_eq hread.read]
          rfl
        · rw [hrecords, hread.appended]
          simp
        · rw [hrecords, hread.appended]
        · exact hread.noted ▸ hfresh hids
      | false =>
        have hdone := hread.done_eq
        have htruthy : l'.token.truthy = true := by
          cases htoken : l'.token.truthy with
          | true => rfl
          | false =>
            rw [htoken] at hdone
            simp at hdone
        have hgoes : more = true := by
          cases more with
          | true => rfl
          | false =>
            rw [hmore] at hdone
            cases hdone
        obtain ⟨hnew, hseen⟩ := hread.seenToken htruthy
        have htokens' : Fresh equalNumbers l'.seenTokens := hseen ▸ fresh_append_singleton htokens hnew
        obtain ⟨pages, hrest⟩ := returned_of_listFrom (hfresh hids) htokens' h
        obtain ⟨parts, hparts, hconcat⟩ := hrest.concatenation
        obtain ⟨later, hlater, hlaterIds, hlaterTexts⟩ := hrest.ids
        have hnonempty := hrest.chain.ne_nil
        refine ⟨members :: pages, ⟨?_, ?_, ⟨added :: parts, ?_, ?_⟩, added ++ later, ?_, ?_, ?_⟩⟩
        · exact .next hdata (hgoes ▸ hmore) (hread.token ▸ htruthy) (hread.token ▸ hrest.chain)
        · have htail := hrest.tokens
          rw [hseen, hread.token, List.append_assoc] at htail
          rw [followed_cons hnonempty]
          exact htail
        · rw [List.mapM_cons, pageRecords_eq hread.items_eq hread.read, hparts]
          rfl
        · rw [hconcat, hread.appended]
          simp
        · rw [hlater, hread.appended, List.append_assoc]
        · rw [List.map_append, ← List.append_assoc, ← hread.noted]
          exact hlaterIds
        · exact List.forall_mem_append.mpr ⟨hadded, hlaterTexts⟩

/-! ## The loop ends -/

/-- Tokens none of which is seen before are different. -/
theorem Fresh.nodup (hrefl : ∀ n, equalNumbers n n = true) {seen : List Json}
    (h : Fresh equalNumbers seen) : seen.Nodup :=
  h.imp fun hne heq => by simp [heq, Json.same_self hrefl] at hne

/-- A server with finitely many tokens stops the loop. -/
theorem listFrom_ne_none (hrefl : ∀ n, equalNumbers n n = true) {requireComplete : Bool}
    {tokens : List Json} (hfinite : ∀ token members, server token = .object members →
      Json.get members "page_token" ∈ tokens) : ∀ {fuel : Nat} {l : Progress},
    Fresh equalNumbers l.seenTokens → l.seenTokens ⊆ tokens →
    tokens.length < fuel + l.seenTokens.length →
    listFrom equalNumbers requireComplete server fuel l ≠ none
  | 0, l, hseen, hsub, hfuel => by
    have hle := (hseen.nodup hrefl).length_le_of_subset hsub
    omega
  | fuel + 1, l, hseen, hsub, hfuel => by
    unfold listFrom
    cases hpage : readPage equalNumbers requireComplete (server l.token) l with
    | error e => simp
    | ok result =>
      obtain ⟨l', done⟩ := result
      cases done with
      | true => simp
      | false =>
        obtain ⟨members, items, added, hdata, hread⟩ := readPage_ok hpage
        have hdone := hread.done_eq
        have htruthy : l'.token.truthy = true := by
          cases htoken : l'.token.truthy with
          | true => rfl
          | false =>
            rw [htoken] at hdone
            simp at hdone
        obtain ⟨hnew, hnext⟩ := hread.seenToken htruthy
        have hmem : l'.token ∈ tokens := hread.token ▸ hfinite _ members hdata
        refine listFrom_ne_none hrefl hfinite ?_ ?_ ?_
        · exact hnext ▸ fresh_append_singleton hseen hnew
        · rw [hnext]
          exact List.append_subset.mpr ⟨hsub, List.cons_subset.mpr ⟨hmem, List.nil_subset _⟩⟩
        · rw [hnext, List.length_append, List.length_singleton]
          omega

/-! ## A table that is cut into pages -/

/-- A server that gives the items of a table in pages, from a token on: the pages after a token, and the
tokens they carry. A page with a successor is not empty. -/
inductive Cuts (server : Json → Json) : Json → List (List Json) → List Json → Prop
  | last {token : Json} {members : Members} {items : List Json} (hpage : server token = .object members)
      (hitems : getItem (codes "items") members = some (.array items))
      (hmore : Json.get members "has_more" = Json.ofBool false)
      (htoken : (Json.get members "page_token").truthy = false) : Cuts server token [items] []
  | lastToken {token : Json} {members : Members} {items : List Json}
      (hpage : server token = .object members)
      (hitems : getItem (codes "items") members = some (.array items))
      (hmore : Json.get members "has_more" = Json.ofBool false)
      (htoken : (Json.get members "page_token").truthy = true)
      (hhash : hashable (Json.get members "page_token") = true) :
      Cuts server token [items] [Json.get members "page_token"]
  | next {token : Json} {members : Members} {items : List Json} {pages : List (List Json)}
      {tokens : List Json} (hpage : server token = .object members)
      (hitems : getItem (codes "items") members = some (.array items)) (hne : items ≠ [])
      (hmore : Json.get members "has_more" = Json.ofBool true)
      (htoken : (Json.get members "page_token").truthy = true)
      (hhash : hashable (Json.get members "page_token") = true)
      (hrest : Cuts server (Json.get members "page_token") pages tokens) :
      Cuts server token (items :: pages) (Json.get members "page_token" :: tokens)

/-- The new well-formed items of a page are read. -/
theorem readItems_eq {items : List Json} {records : List Record} :
    ∀ {l : Progress}, (∀ item ∈ items, wellFormed item = true) → items.mapM recordOf = .ok records →
    Fresh equalNumbers (l.seenIds ++ records.map Record.recordId) →
    readItems equalNumbers true l items = .ok { l with
      seenIds := l.seenIds ++ records.map Record.recordId, records := l.records ++ records } := by
  induction items generalizing records with
  | nil =>
    intro l _ hread _
    cases hread
    have hstate : ({ l with seenIds := l.seenIds ++ [], records := l.records ++ [] } : Progress) = l := by
      simp
    exact congrArg Except.ok hstate.symm
  | cons item items ih =>
    intro l hformed hread hfresh
    rw [List.mapM_cons] at hread
    obtain ⟨record, hrecord, hread⟩ := except_bind_ok hread
    obtain ⟨rest, hrest, hread⟩ := except_bind_ok hread
    cases hread
    obtain ⟨hitem, hitems⟩ := List.forall_mem_cons.mp hformed
    have hnew : isIn equalNumbers record.recordId l.seenIds = false :=
      isIn_eq_false.mpr fun w hw => (List.pairwise_append.mp hfresh).2.2 w hw _ List.mem_cons_self
    have hfirst := readItem_eq hitem hrecord hnew
    unfold readItems at ih ⊢
    rw [List.foldlM_cons, hfirst]
    refine (ih hitems hrest ?_).trans ?_
    · rw [List.append_assoc]
      exact hfresh
    · simp only [List.append_assoc, List.map_cons, List.singleton_append]

theorem noteToken_eq {token : Json} {l : Progress} (htruthy : token.truthy = true)
    (hhash : hashable token = true) (hnew : isIn equalNumbers token l.seenTokens = false) :
    noteToken equalNumbers token l = .ok { l with seenTokens := l.seenTokens ++ [token] } := by
  unfold noteToken
  rw [if_pos htruthy, if_neg (by simp [hhash])]
  exact if_neg (by simp [hnew])

/-- A well-formed page with new records is read. -/
theorem readPage_eq {members : Members} {items : List Json} {records : List Record} {l l' : Progress}
    {more : Bool} (hitems : getItem (codes "items") members = some (.array items))
    (hmore : Json.get members "has_more" = Json.ofBool more)
    (hformed : ∀ item ∈ items, wellFormed item = true) (hread : items.mapM recordOf = .ok records)
    (hfresh : Fresh equalNumbers (l.seenIds ++ records.map Record.recordId))
    (hgoes : more = true → (Json.get members "page_token").truthy = true ∧ items ≠ [])
    (hnoted : noteToken equalNumbers (Json.get members "page_token") { l with
      seenIds := l.seenIds ++ records.map Record.recordId, records := l.records ++ records } = .ok l') :
    readPage equalNumbers true (.object members) l =
      .ok ({ l' with token := Json.get members "page_token" }, !more) := by
  have hproven : proven members = true := by
    unfold proven
    rw [hitems, hmore]
    cases more <;> rfl
  have hpageItems : pageItems members = .ok items := by
    unfold pageItems
    rw [hitems]
  have htrue : (Json.get members "has_more").isTrue = more := by
    rw [hmore]
    cases more <;> rfl
  have hfalse : (Json.get members "has_more").isFalse = !more := by
    rw [hmore]
    cases more <;> rfl
  have hdone : (!more || !(Json.get members "page_token").truthy) = !more := by
    cases more with
    | false => rfl
    | true => rw [(hgoes rfl).1]; rfl
  unfold readPage
  simp only
  rw [if_neg (by simp [hproven]), hpageItems]
  show (readItems equalNumbers true l items >>= _) = _
  rw [readItems_eq hformed hread hfresh, htrue, hfalse, hdone]
  have hno : ¬ (more = true ∧ (Json.get members "page_token").truthy = false) := fun ⟨hm, ht⟩ => by
    rw [(hgoes hm).1] at ht
    cases ht
  have hno' : ¬ (more = true ∧ items.isEmpty = true) := fun ⟨hm, ht⟩ =>
    (hgoes hm).2 (List.isEmpty_iff.mp ht)
  show (if more = true ∧ (Json.get members "page_token").truthy = false then _ else _) = _
  rw [if_neg hno]
  show (noteToken equalNumbers (Json.get members "page_token") _ >>= _) = _
  rw [hnoted]
  exact if_neg hno'

theorem mapM_append_ok {ε α β : Type} {f : α → Except ε β} {as as' : List α} {bs : List β}
    (h : (as ++ as').mapM f = .ok bs) :
    ∃ first later, as.mapM f = .ok first ∧ as'.mapM f = .ok later ∧ bs = first ++ later := by
  rw [List.mapM_append] at h
  obtain ⟨first, hfirst, h⟩ := except_bind_ok h
  obtain ⟨later, hlater, h⟩ := except_bind_ok h
  exact ⟨first, later, hfirst, hlater, (Except.ok.inj h).symm⟩

/-- The items of a table that is cut into pages are all returned. -/
theorem listFrom_of_cuts {token : Json} {pages : List (List Json)} {tokens : List Json}
    (hcuts : Cuts server token pages tokens) : ∀ {l : Progress} {records : List Record},
    l.token = token → (∀ item ∈ pages.flatten, wellFormed item = true) →
    pages.flatten.mapM recordOf = .ok records →
    Fresh equalNumbers (l.seenIds ++ records.map Record.recordId) →
    Fresh equalNumbers (l.seenTokens ++ tokens) →
    listFrom equalNumbers true server pages.length l = some (.ok (l.records ++ records)) := by
  induction hcuts with
  | @last token members items hpage hitems hmore htoken =>
    intro l records hl hformed hread hfresh _
    rw [List.flatten_singleton] at hformed hread
    have hnote : noteToken equalNumbers (Json.get members "page_token") { l with
        seenIds := l.seenIds ++ records.map Record.recordId, records := l.records ++ records } = .ok { l with
        seenIds := l.seenIds ++ records.map Record.recordId, records := l.records ++ records } := by
      unfold noteToken
      rw [if_neg (by simp [htoken])]
      rfl
    have hread := readPage_eq hitems hmore hformed hread hfresh (fun h => absurd h Bool.noConfusion) hnote
    rw [List.length_singleton, listFrom, hl, hpage, hread]
    rfl
  | @lastToken token members items hpage hitems hmore htoken hhash =>
    intro l records hl hformed hread hfresh htokens
    rw [List.flatten_singleton] at hformed hread
    have hnew : isIn equalNumbers (Json.get members "page_token") l.seenTokens = false :=
      isIn_eq_false.mpr fun w hw => (List.pairwise_append.mp htokens).2.2 w hw _ List.mem_cons_self
    have hread := readPage_eq hitems hmore hformed hread hfresh (fun h => absurd h Bool.noConfusion)
      (noteToken_eq htoken hhash hnew)
    rw [List.length_singleton, listFrom, hl, hpage, hread]
    rfl
  | @next token members items pages tokens hpage hitems hne hmore htoken hhash _ ih =>
    intro l records hl hformed hread hfresh htokens
    rw [List.flatten_cons] at hformed hread
    obtain ⟨hfirst, hlater⟩ := List.forall_mem_append.mp hformed
    obtain ⟨first, later, hreadFirst, hreadLater, rfl⟩ := mapM_append_ok hread
    rw [List.map_append, ← List.append_assoc] at hfresh
    have hnew : isIn equalNumbers (Json.get members "page_token") l.seenTokens = false :=
      isIn_eq_false.mpr fun w hw => (List.pairwise_append.mp htokens).2.2 w hw _ List.mem_cons_self
    have hreadPage := readPage_eq hitems hmore hfirst hreadFirst (List.pairwise_append.mp hfresh).1
      (fun _ => ⟨htoken, hne⟩) (noteToken_eq htoken hhash hnew)
    have hrest := ih (l := { l with
      seenIds := l.seenIds ++ first.map Record.recordId
      records := l.records ++ first
      seenTokens := l.seenTokens ++ [Json.get members "page_token"]
      token := Json.get members "page_token" }) rfl hlater hreadLater hfresh
      (by rw [List.append_assoc]; exact htokens)
    rw [List.length_cons, listFrom, hl, hpage, hreadPage, ← List.append_assoc]
    exact hrest

/-- What a complete listing returns is a chain of the server's pages, from the request without a token to a
page that says it is the last, each followed once; its records are theirs in order, with different ids. A
table that is cut into pages is returned, and a server with finitely many tokens stops the loop. -/
theorem listRecords_complete (hrefl : ∀ n, equalNumbers n n = true) (server : Json → Json) :
    (∀ fuel records, listRecords equalNumbers true server fuel = some (.ok records) →
      ∃ pages parts, Chain server Json.none pages ∧ Fresh equalNumbers (followed pages) ∧
        pages.mapM pageRecords = .ok parts ∧ records = parts.flatten ∧
        (records.map Record.recordId).Nodup ∧
        ∀ record ∈ records, ∃ s, record.recordId = .string s ∧ isBlankLine s = false) ∧
    (∀ pages tokens records, Cuts server Json.none pages tokens → Fresh equalNumbers tokens →
      (∀ item ∈ pages.flatten, wellFormed item = true) → pages.flatten.mapM recordOf = .ok records →
      (records.map Record.recordId).Nodup →
      ∃ fuel, listRecords equalNumbers true server fuel = some (.ok records)) ∧
    (∀ (tokens : List Json) (requireComplete : Bool), (∀ token members, server token = .object members →
        Json.get members "page_token" ∈ tokens) →
      ∃ fuel, listRecords equalNumbers requireComplete server fuel ≠ none) := by
  refine ⟨fun fuel records h => ?_, fun pages tokens records hcuts htokens hformed hread hids => ?_,
    fun tokens requireComplete hfinite => ⟨tokens.length + 1, ?_⟩⟩
  · have hempty : Fresh equalNumbers [] := List.Pairwise.nil
    obtain ⟨pages, hreturned⟩ := returned_of_listFrom (l := .start) hempty hempty h
    obtain ⟨parts, hparts, hrecords⟩ := hreturned.concatenation
    obtain ⟨added, hadded, hids, htexts⟩ := hreturned.ids
    have hsame : records = added := hadded
    subst hsame
    exact ⟨pages, parts, hreturned.chain, hreturned.tokens, hparts, hrecords, Fresh.nodup hrefl hids,
      htexts⟩
  · have htexts := texts_of_wellFormed hformed hread
    have hfresh : Fresh equalNumbers (records.map Record.recordId) := by
      refine hids.imp_of_mem fun {v w} hv hw hne => ?_
      obtain ⟨record, hrecord, rfl⟩ := List.mem_map.mp hw
      obtain ⟨s, hs, -⟩ := htexts record hrecord
      rw [hs] at hne ⊢
      exact Bool.eq_false_iff.mpr fun hsame => hne (Json.same_string.mp hsame)
    exact ⟨pages.length, listFrom_of_cuts hcuts rfl hformed hread hfresh htokens⟩
  · exact listFrom_ne_none hrefl hfinite List.Pairwise.nil (List.nil_subset _) (by simp [Progress.start])

/-! ## Two pages -/

/-- A record of a table. -/
def tableItem (recordId : String) : Json :=
  .object (Json.display [("record_id", .text recordId), ("fields", .object [])])

/-- A page with one record, before another one or not. -/
def tablePage (recordId : String) (next : Option String) : Members :=
  Json.display [("items", .array [tableItem recordId]), ("has_more", .ofBool next.isSome),
    ("page_token", .optionalText next)]

/-- A table of two records, one a page. -/
def twoPages (token : Json) : Json :=
  if token.truthy = true then .object (tablePage "rec2" none) else .object (tablePage "rec1" (some "t"))

theorem tablePage_get (recordId : String) (next : Option String) :
    getItem (codes "items") (tablePage recordId next) = some (.array [tableItem recordId]) ∧
      Json.get (tablePage recordId next) "has_more" = .ofBool next.isSome ∧
      Json.get (tablePage recordId next) "page_token" = .optionalText next := by
  have hnodup : (([("items", .array [tableItem recordId]), ("has_more", .ofBool next.isSome),
      ("page_token", .optionalText next)] : List (String × Json)).map Prod.fst).Nodup := by
    show (["items", "has_more", "page_token"] : List String).Nodup
    decide
  exact ⟨Json.getItem_display hnodup (by simp), Json.get_display hnodup (by simp),
    Json.get_display hnodup (by simp)⟩

theorem twoPages_cuts : Cuts twoPages Json.none [[tableItem "rec1"], [tableItem "rec2"]] [.text "t"] := by
  obtain ⟨hitems, hmore, htoken⟩ := tablePage_get "rec1" (some "t")
  obtain ⟨hitems', hmore', htoken'⟩ := tablePage_get "rec2" none
  have htext : Json.get (tablePage "rec1" (some "t")) "page_token" = .text "t" := htoken
  refine htext ▸ .next rfl hitems (List.cons_ne_nil _ _) hmore (by rw [htext]; decide)
    (by rw [htext]; decide) ?_
  rw [htext]
  exact .last rfl hitems' hmore' (by rw [htoken']; decide)

theorem recordOf_tableItem (recordId : String) :
    recordOf (tableItem recordId) = .ok ⟨.text recordId, .object []⟩ := by
  have hnodup : (([("record_id", .text recordId), ("fields", .object [])] :
      List (String × Json)).map Prod.fst).Nodup := by
    show (["record_id", "fields"] : List String).Nodup
    decide
  simp only [recordOf, tableItem, Json.getItem_display hnodup (List.mem_cons_self),
    Json.getItem_display hnodup (List.mem_cons_of_mem _ List.mem_cons_self)]

/-- Both pages are listed, and the listing is the chain of them. -/
theorem two_pages_are_listed : ∃ fuel pages, Chain twoPages Json.none pages ∧
    listRecords (fun m n => m == n) true twoPages fuel =
      some (.ok [⟨.text "rec1", .object []⟩, ⟨.text "rec2", .object []⟩]) := by
  have hrefl : ∀ n, (fun m n : Codes => m == n) n n = true := fun n => beq_self_eq_true n
  obtain ⟨hsound, hcomplete, -⟩ := listRecords_complete hrefl twoPages
  obtain ⟨fuel, hfuel⟩ := hcomplete _ _ [⟨.text "rec1", .object []⟩, ⟨.text "rec2", .object []⟩]
    twoPages_cuts (List.pairwise_singleton _ _) (by decide +kernel)
    (by simp [recordOf_tableItem, bind, Except.bind, pure, Except.pure]) (by simp [Json.text])
  obtain ⟨pages, parts, hchain, -⟩ := hsound fuel _ hfuel
  exact ⟨fuel, pages, hchain, hfuel⟩

end PortfolioManagement.Listing
