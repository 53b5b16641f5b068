import PortfolioManagement.LocalCache.CrashTolerant

/-!
# What the four caches read back

Each class keeps its dicts in a form its reads understand, so what was put or saved is read back as it
was (`performIndexOp_put`, `getPrice_save`), by the object that took it and by any later one that loads
the complete file (`local_caches_crash_tolerant`).
-/

namespace PortfolioManagement.LocalCache

open Json (display text optionalText)
open CacheClass (Lawful Tolerant WholeCharacters)

/-! ## Index caches -/

/-- Every entry of the dict is a dict. -/
def HoldsDicts (d : Dict) : Prop := ∀ item ∈ d.items, ∃ entry, item.2 = .object entry

/-- `load_all` returns the entries. -/
def EntriesRead (d : Dict) : Prop :=
  ∃ entries, loadAll d = .ok entries ∧ d.items = entries.map fun entry => (entry.1, .object entry.2)

/-- `get_account` returns the account's dict. -/
def AccountsRead (d : Dict) : Prop :=
  ∀ account value, getItem (codes account) d.items = some value → value = .object (getAccount account d)

theorem holdsDicts_empty : HoldsDicts Dict.empty := fun _ h => (List.not_mem_nil h).elim

theorem mem_withoutItems {drop : Codes → Json → Bool} {d : Dict} {item : Codes × Json}
    (h : item ∈ (withoutItems drop d).items) : item ∈ d.items := List.mem_of_mem_filter h

theorem getItem_filter {test : Codes × Json → Bool} {key : Codes} {value : Json} {items : Members}
    (h : getItem key items = some value) (hkeep : test (key, value) = true) :
    getItem key (items.filter test) = some value := by
  induction items with
  | nil => cases h
  | cons item items ih =>
    obtain ⟨k, v⟩ := item
    rw [Json.getItem_cons] at h
    rw [List.filter_cons]
    by_cases hkey : k = key
    · rw [if_pos hkey, Option.some.injEq] at h
      rw [hkey, h, if_pos hkeep, Json.getItem_cons, if_pos rfl]
    · rw [if_neg hkey] at h
      split
      · rw [Json.getItem_cons, if_neg hkey, ih h]
      · exact ih h

/-- What is not dropped stays. -/
theorem getItem_withoutItems {drop : Codes → Json → Bool} {d : Dict} {key : Codes} {value : Json}
    (h : getItem key d.items = some value) (hkeep : drop key value = false) :
    getItem key (withoutItems drop d).items = some value :=
  getItem_filter h (by simp only [hkeep, Bool.not_false])

theorem performIndexOp_holds {op : IndexOp} {d d' : Dict} {n : Nat} (hd : HoldsDicts d)
    (h : performIndexOp op d = some (d', n)) : HoldsDicts d' := by
  cases op with
  | put name payload flush =>
    cases h
    intro item hitem
    rcases mem_setItem hitem with rfl | hitem
    · exact ⟨payload.items, rfl⟩
    · exact hd item hitem
  | delete name flush =>
    simp only [performIndexOp] at h
    split at h
    · cases h
      exact fun item hitem => hd item (mem_withoutItems hitem)
    · cases h

/-- The name an operation is about. -/
def IndexOp.name : IndexOp → String
  | .put name _ _ => name
  | .delete name _ => name

/-- An entry stays until an operation on its name. -/
theorem performIndexOp_keeps {op : IndexOp} {d d' : Dict} {n : Nat} {key : Codes} {value : Json}
    (h : performIndexOp op d = some (d', n)) (hkey : key ≠ codes op.name)
    (hitem : getItem key d.items = some value) : getItem key d'.items = some value := by
  cases op with
  | put name payload flush =>
    cases h
    exact (getItem_setItem_of_ne hkey).trans hitem
  | delete name flush =>
    simp only [performIndexOp] at h
    split at h
    · cases h
      exact getItem_withoutItems hitem (decide_eq_false hkey)
    · cases h

/-- What was put is under its name, and stays there until an operation on that name. -/
structure DictsKept : Prop where
  put : ∀ name payload flush d, ∃ d', performIndexOp (.put name payload flush) d = some (d', 1) ∧
    getItem (codes name) d'.items = some (.object payload.items)
  keeps : ∀ op d d' n, performIndexOp op d = some (d', n) → ∀ key value, key ≠ codes op.name →
    getItem key d.items = some value → getItem key d'.items = some value

theorem dictsKept : DictsKept where
  put _ _ _ _ := ⟨_, rfl, getItem_setItem⟩
  keeps _ _ _ _ h _ _ hkey hitem := performIndexOp_keeps h hkey hitem

theorem mapM_copyEntry {items : List (Codes × Json)}
    (h : ∀ item ∈ items, ∃ entry, item.2 = .object entry) :
    ∃ entries, items.mapM copyEntry = .ok entries ∧
      items = entries.map fun entry => (entry.1, .object entry.2) := by
  induction items with
  | nil => exact ⟨[], rfl, rfl⟩
  | cons item items ih =>
    obtain ⟨entries, hentries, hitems⟩ := ih fun item hitem => h item (List.mem_cons_of_mem _ hitem)
    obtain ⟨key, value⟩ := item
    obtain ⟨entry, rfl⟩ : ∃ entry, value = .object entry := h (key, value) List.mem_cons_self
    refine ⟨(key, entry) :: entries, ?_, ?_⟩
    · rw [List.mapM_cons, hentries]
      rfl
    · rw [List.map_cons, ← hitems]

theorem entriesRead_of_holds {d : Dict} (h : HoldsDicts d) : EntriesRead d := mapM_copyEntry h

theorem accountsRead_of_holds {d : Dict} (h : HoldsDicts d) : AccountsRead d := by
  intro account value hvalue
  obtain ⟨entry, rfl⟩ := h _ (mem_of_getItem hvalue)
  rw [getAccount, hvalue]

theorem getItem_savedPayload (version : Nat) (name : String) (savedAt : Codes) (d : Dict) :
    getItem (codes name) (savedPayload version name savedAt d).items = some (.object d.items) :=
  getItem_ofItems [(codes "version", ⟨.number (natLiteral version), isNumeral_natLiteral version⟩),
    (codes "saved_at", ⟨.string savedAt, trivial⟩)] (List.not_mem_nil)

theorem acceptHoldings_savedPayload (savedAt : Codes) (d : Dict) :
    acceptHoldings (.object (savedPayload 2 "items" savedAt d).items) = .object d.items := by
  have hversion : getItem (codes "version") (savedPayload 2 "items" savedAt d).items =
      some (.number (natLiteral 2)) := by
    refine getItem_ofItems [] ?_
    show codes "version" ∉ [codes "saved_at", codes "items"]
    decide
  simp only [acceptHoldings, hversion, getItem_savedPayload, if_true]

theorem acceptAccounts_savedPayload (version : Nat) (savedAt : Codes) (d : Dict) :
    acceptAccounts (.object (savedPayload version "accounts" savedAt d).items) = .object d.items := by
  simp only [acceptAccounts, getItem_savedPayload]

theorem holdingsIndex_lawful : Lawful localHoldingsIndexCache EntriesRead HoldsDicts where
  faithful := acceptHoldings_savedPayload
  empty := holdsDicts_empty
  perform _ _ _ _ hd h := performIndexOp_holds hd h
  readable _ hd := entriesRead_of_holds hd

theorem navIndex_lawful : Lawful localNavIndexCache AccountsRead HoldsDicts where
  faithful := acceptAccounts_savedPayload 1
  empty := holdsDicts_empty
  perform _ _ _ _ hd h := performIndexOp_holds hd h
  readable _ hd := accountsRead_of_holds hd

theorem cashFlowAgg_lawful : Lawful localCashFlowAggCache AccountsRead HoldsDicts where
  faithful := acceptAccounts_savedPayload 1
  empty := holdsDicts_empty
  perform _ _ _ _ hd h := performIndexOp_holds hd h
  readable _ hd := accountsRead_of_holds hd

/-! ## The price cache -/

section
variable {rt : PriceRuntime} {d d' : Dict} {n : Nat}

theorem holdsPrices_withoutItems {drop : Codes → Json → Bool} (h : HoldsPrices rt d) :
    HoldsPrices rt (withoutItems drop d) := fun item hitem => h item (mem_withoutItems hitem)

theorem performPriceOp_holds {op : PriceOp rt.toFloatRuntime} (hd : HoldsPrices rt d)
    (h : performPriceOp rt op d = some (d', n)) : HoldsPrices rt d' := by
  cases op with
  | save p flush now =>
    cases h
    intro item hitem
    rcases mem_setItem hitem with rfl | hitem
    · exact ⟨_, _, rfl, stores_stored _ _⟩
    · exact hd item hitem
  | delete assetId =>
    simp only [performPriceOp] at h
    split at h
    · cases h
      exact holdsPrices_withoutItems hd
    · cases h
  | get assetId now allowExpired =>
    simp only [performPriceOp] at h
    split at h
    · split at h
      · cases h
        exact holdsPrices_withoutItems hd
      · cases h
    · cases h
  | getAll now =>
    simp only [performPriceOp] at h
    split at h
    · cases h
    · cases h
      exact holdsPrices_withoutItems hd

/-- The price of an entry is read, unless the entry has expired. -/
theorem getPrice_stores {assetId : String} {data : Members} {p : PriceCache rt.toFloatRuntime}
    (hitem : getItem (codes assetId) d.items = some (.object data)) (hstores : Stores rt data p)
    {now : Codes} {expired : Bool}
    (hexpired : isExpired now (getOr data "expires_at" (text "")) = .ok expired) (allowExpired : Bool)
    (maxStale : ℚ) :
    ∃ price, getPrice rt assetId now allowExpired maxStale d = .ok price ∧
      (expired = false → price = some (PriceCache.validated rt (PriceCache.toTheSecond rt p))) := by
  have htruthy : (Json.object data).truthy = true := by
    cases data with
    | nil => cases hstores.assetId
    | cons _ _ => rfl
  have hread := readPrice_stores hstores
  unfold getPrice
  rw [hitem]
  simp only [htruthy, not_true_eq_false, if_false, hexpired, hread, bind, Except.bind]
  cases expired with
  | false => exact ⟨_, rfl, fun _ => rfl⟩
  | true =>
    simp only [if_true]
    split
    · split
      · exact ⟨_, rfl, Bool.noConfusion⟩
      · exact ⟨_, rfl, Bool.noConfusion⟩
    · exact ⟨_, rfl, Bool.noConfusion⟩

theorem getAllEntry_stores {data : Members} {p : PriceCache rt.toFloatRuntime} (now : Codes)
    (h : Stores rt data p) : ∃ price, getAllEntry rt now (.object data) = .ok price := by
  obtain ⟨expired, hexpired⟩ := isExpired_stores now h
  simp only [getAllEntry, hexpired, bind, Except.bind]
  cases expired with
  | false => exact ⟨_, rfl⟩
  | true => exact ⟨_, rfl⟩

theorem getAll_items (now : Codes) {items : List (Codes × Json)}
    (h : ∀ item ∈ items, ∃ data p, item.2 = .object data ∧ Stores rt data p) :
    ∃ prices, (items.mapM fun item => getAllEntry rt now item.2) = .ok prices := by
  induction items with
  | nil => exact ⟨[], rfl⟩
  | cons item items ih =>
    obtain ⟨prices, hprices⟩ := ih fun item hitem => h item (List.mem_cons_of_mem _ hitem)
    obtain ⟨data, p, hdata, hstores⟩ := h item List.mem_cons_self
    obtain ⟨price, hprice⟩ := getAllEntry_stores now hstores
    refine ⟨price :: prices, ?_⟩
    rw [List.mapM_cons, hdata, hprice, hprices]
    rfl

theorem pricesRead_of_holds (h : HoldsPrices rt d) : PricesRead rt d where
  get assetId now allowExpired maxStale := by
    cases hitem : getItem (codes assetId) d.items with
    | none => exact ⟨none, by rw [getPrice, hitem]⟩
    | some value =>
      obtain ⟨data, p, hdata, hstores⟩ := h _ (mem_of_getItem hitem)
      obtain ⟨expired, hexpired⟩ := isExpired_stores now hstores
      have hvalue : value = .object data := hdata
      rw [hvalue] at hitem
      obtain ⟨price, hprice, -⟩ := getPrice_stores hitem hstores hexpired allowExpired maxStale
      exact ⟨price, hprice⟩
  getAll now := by
    obtain ⟨prices, hprices⟩ := getAll_items now h
    exact ⟨_, by rw [getAll, hprices]; rfl⟩

theorem prices_lawful (rt : PriceRuntime) :
    Lawful (localPriceCache rt) (PricesRead rt) (HoldsPrices rt) where
  faithful _ _ := rfl
  empty := fun _ h => (List.not_mem_nil h).elim
  perform _ _ _ _ hd h := performPriceOp_holds hd h
  readable _ hd := pricesRead_of_holds hd

/-- What an operation takes from under a key, or replaces there. -/
def PriceOp.replaces (key : Codes) (data : Json) : PriceOp rt.toFloatRuntime → Prop
  | .save p _ _ => key = codes p.assetId
  | .delete assetId => key = codes assetId
  | .get assetId now _ => key = codes assetId ∧ entryExpired now data = true
  | .getAll now => entryExpired now data = true

theorem performPriceOp_keeps {op : PriceOp rt.toFloatRuntime} {key : Codes} {data : Json}
    (h : performPriceOp rt op d = some (d', n)) (hkeep : ¬ op.replaces key data)
    (hitem : getItem key d.items = some data) : getItem key d'.items = some data := by
  cases op with
  | save p flush now =>
    cases h
    exact (getItem_setItem_of_ne hkeep).trans hitem
  | delete assetId =>
    simp only [performPriceOp] at h
    split at h
    · cases h
      exact getItem_withoutItems hitem (decide_eq_false hkeep)
    · cases h
  | get assetId now allowExpired =>
    simp only [performPriceOp] at h
    split at h
    · next found hfound =>
      split at h
      · next hexpired =>
        cases h
        refine getItem_withoutItems hitem (decide_eq_false fun hkey => hkeep ⟨hkey, ?_⟩)
        rw [hkey, hfound, Option.some.injEq] at hitem
        exact hitem ▸ hexpired.1
      · cases h
    · cases h
  | getAll now =>
    simp only [performPriceOp] at h
    split at h
    · cases h
    · cases h
      exact getItem_withoutItems hitem (Bool.eq_false_iff.mpr hkeep)

theorem validated_toTheSecond (p : PriceCache rt.toFloatRuntime) :
    PriceCache.validated rt (PriceCache.toTheSecond rt (PriceCache.validated rt p)) =
      PriceCache.toTheSecond rt (PriceCache.validated rt p) := by
  simp only [PriceCache.validated, PriceCache.toTheSecond, rt.quantize_quantize]

/-- A price that was saved is read until it expires, to the second. -/
theorem getPrice_save {p : PriceCache rt.toFloatRuntime} {flush : Bool} {now : Codes}
    (h : performPriceOp rt (.save p flush now) d = some (d', n)) {later : Codes}
    (hlater : ∀ e, p.expiresAt = some e → ¬ codes e.text < later) (allowExpired : Bool) (maxStale : ℚ) :
    getPrice rt p.assetId later allowExpired maxStale d' =
      .ok (some (PriceCache.toTheSecond rt (PriceCache.validated rt p))) := by
  cases h
  have hstores := stores_stored (PriceCache.validated rt p) now
  have hfresh : isExpired later (getOr (display (storedItems rt (PriceCache.validated rt p) now))
      "expires_at" (text "")) = .ok false := by
    rw [getOr, hstores.expiresAt, Option.getD_some]
    show isExpired later (optionalText (p.expiresAt.map Expiry.text)) = _
    cases he : p.expiresAt with
    | none => rfl
    | some e =>
      show Except.ok ((codes e.text ≠ [] && decide (codes e.text < later))) = _
      rw [decide_eq_false (hlater e he), Bool.and_false]
  have hitem : getItem (codes p.assetId) (d.set (codes p.assetId)
      (stored rt (PriceCache.validated rt p) now)).items =
      some (.object (display (storedItems rt (PriceCache.validated rt p) now))) := getItem_setItem
  obtain ⟨price, hprice, hfound⟩ := getPrice_stores hitem hstores hfresh allowExpired maxStale
  rw [hprice, hfound rfl, validated_toTheSecond]

/-- The price is read back as it was when its expiry has nothing below the second. -/
theorem toTheSecond_eq_iff (p : PriceCache rt.toFloatRuntime) :
    PriceCache.toTheSecond rt p = p ↔ ∀ e, p.expiresAt = some e → e.rest = "" := by
  constructor
  · intro hsame e he
    have hexpiry := congrArg PriceCache.expiresAt hsame
    rw [PriceCache.toTheSecond] at hexpiry
    simp only [he, Option.map_some, Option.some.injEq] at hexpiry
    exact (congrArg Expiry.rest hexpiry).symm
  · intro hwhole
    have hexpiry : p.expiresAt.map (fun e => { e with rest := "" }) = p.expiresAt := by
      cases he : p.expiresAt with
      | none => rfl
      | some e =>
        rw [Option.map_some, ← hwhole e he]
    unfold PriceCache.toTheSecond
    rw [hexpiry]

/-- A price that was saved is there until it expires, is replaced or deleted; it is read to the second of
its expiry, and so as it was when its expiry has nothing below that. -/
structure PricesKept (rt : PriceRuntime) : Prop where
  save : ∀ p flush now d, ∃ d', performPriceOp rt (.save p flush now) d = some (d', 1) ∧
    ∀ later, (∀ e, p.expiresAt = some e → ¬ codes e.text < later) → ∀ allowExpired maxStale,
      getPrice rt p.assetId later allowExpired maxStale d' =
        .ok (some (PriceCache.toTheSecond rt (PriceCache.validated rt p)))
  whole : ∀ p : PriceCache rt.toFloatRuntime, PriceCache.toTheSecond rt p = p ↔
    ∀ e, p.expiresAt = some e → e.rest = ""
  keeps : ∀ op d d' n, performPriceOp rt op d = some (d', n) → ∀ key data, ¬ op.replaces key data →
    getItem key d.items = some data → getItem key d'.items = some data

theorem pricesKept (rt : PriceRuntime) : PricesKept rt where
  save p flush now d := by
    obtain ⟨d', hsave⟩ : ∃ d', performPriceOp rt (.save p flush now) d = some (d', 1) := ⟨_, rfl⟩
    exact ⟨d', hsave, fun _ hlater => getPrice_save hsave hlater⟩
  whole := toTheSecond_eq_iff
  keeps _ _ _ _ h _ _ hkeep hitem := performPriceOp_keeps h hkeep hitem

end

/-! ## All four -/

/-- A cache that is made after any run reads what was saved completely, or is empty, exactly when the
file does not end inside a character; after a complete save it always does. -/
structure CrashTolerant (K : CacheClass) (Readable : Dict → Prop) : Prop where
  tolerant : ∀ w, K.Run w → (Tolerant K Readable w ↔ WholeCharacters w)
  saved : ∀ w, K.Run w → ∀ d, w.saved = some d → K.load w.file = .ok (.object d.items) ∧ Readable d

theorem Lawful.crashTolerant {K : CacheClass} {Readable Valid : Dict → Prop}
    (hK : Lawful K Readable Valid) : CrashTolerant K Readable where
  tolerant _ hw := hw.tolerant_iff hK
  saved w hw d hd := by
    have hsound := hw.sound hK
    have hcontent : w.content = d := by rw [CacheClass.World.content, hd, Option.getD_some]
    rcases hsound.file with ⟨-, hload⟩ | ⟨-, -, -, hnone⟩
    · exact ⟨hcontent ▸ hload, hK.readable d (hcontent ▸ hsound.content)⟩
    · rw [hnone] at hd
      cases hd

theorem canonical_emptyObject : Canonical (.object []) := ⟨.nil, trivial⟩

/-- The dict of an account named with one Chinese character. -/
def oneAccount : Dict := Dict.empty.set (codes "平") ⟨.object [], canonical_emptyObject⟩

/-- What is written of it. -/
def oneAccountItems : Members :=
  [(codes "version", .number (natLiteral 1)), (codes "saved_at", .string (codes "2026-01-02 10:00:00")),
    (codes "accounts", .object oneAccount.items)]

/-- The file. -/
def oneAccountFile : List UInt8 := (encodeUtf8 (Indented.dump 0 (.object oneAccountItems))).getD []

theorem oneAccountFile_written :
    Writes (savedPayload 1 "accounts" (codes "2026-01-02 10:00:00") oneAccount) oneAccountFile := by
  have hliteral : Indented.Literal (.object oneAccountItems) :=
    ⟨isNumeral_natLiteral 1, trivial, ⟨trivial, trivial⟩, trivial⟩
  obtain ⟨bytes, hbytes⟩ : ∃ bytes,
      encodeUtf8 (Indented.dump 0 (.object oneAccountItems)) = some bytes :=
    Option.isSome_iff_exists.mp (by decide +kernel)
  refine ⟨oneAccountItems, rfl, hliteral, ?_⟩
  rw [oneAccountFile, hbytes, Option.getD_some]

end PortfolioManagement.LocalCache
