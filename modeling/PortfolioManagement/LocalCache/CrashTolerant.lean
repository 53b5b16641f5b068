import PortfolioManagement.LocalCache.Indexes

/-!
# What a crash leaves of a cache

Until a crash cuts a write inside a character, the file is missing, complete, or a part that is no JSON
text, and a cache that is made from it holds what was saved completely or nothing. A part that ends
inside a character raises when it is loaded (`tolerant_iff`).
-/

namespace PortfolioManagement.LocalCache

open Json (display text optionalText)

/-! ## Any class -/

/-- Dicts with the same items are the same. -/
theorem dict_ext {d d' : Dict} (h : d.items = d'.items) : d = d' := by
  cases d
  cases d'
  cases h
  rfl

namespace CacheClass

variable {K : CacheClass} {Readable Valid : Dict → Prop}

/-- What a cache made now should hold. -/
def World.content (w : World) : Dict := w.saved.getD Dict.empty

/-- A cache that is made now holds what was saved completely, or nothing, and no read of it raises. -/
structure Tolerant (K : CacheClass) (Readable : Dict → Prop) (w : World) : Prop where
  /-- making it does not raise, and it holds the content -/
  loads : K.load w.file = .ok (.object w.content.items)
  /-- its reads do not raise -/
  reads : Readable w.content

/-- What a class owes to its dicts: the payload is accepted as the dict, the operations keep the dicts
valid, and valid dicts are read. -/
structure Lawful (K : CacheClass) (Readable Valid : Dict → Prop) : Prop where
  faithful : ∀ now d, K.accept (.object (K.payload now d).items) = .object d.items
  empty : Valid Dict.empty
  perform : ∀ op d d' n, Valid d → K.perform op d = some (d', n) → Valid d'
  readable : ∀ d, Valid d → Readable d

theorem Lawful.serve (hK : Lawful K Readable Valid) {i i' : CacheObject} {r : K.Request} {writes : Bool}
    (h : K.serve i r = (i', writes)) (hi : Valid i.cache) : Valid i'.cache := by
  unfold CacheClass.serve at h
  cases r with
  | flush =>
    cases h
    exact hi
  | op op =>
    simp only at h
    split at h
    · cases h
      exact hi
    · next cache changes hperform =>
      cases h
      exact hK.perform op i.cache cache changes hi hperform

/-- What holds in every run: the dicts are valid, and the file gives the content back or, when it ends
inside a character, raises and leaves no object. -/
structure Sound (K : CacheClass) (Valid : Dict → Prop) (w : World) : Prop where
  running : ∀ i, w.running = some i → Valid i.cache
  content : Valid w.content
  file : (WholeCharacters w ∧ K.load w.file = .ok (.object w.content.items)) ∨
    (¬ WholeCharacters w ∧ K.load w.file = .error .unicodeDecodeError ∧ w.running = none ∧
      w.saved = none)

theorem wholeCharacters_of_written {payload : Dict} {bytes : List UInt8} (h : Writes payload bytes) :
    (decodeUtf8 bytes).isSome := by
  obtain ⟨ms, -, -, hbytes⟩ := h.arranged
  rw [decodeUtf8_of_encodeUtf8 hbytes]
  rfl

/-- A completed write is loaded. -/
theorem Lawful.load_written (hK : Lawful K Readable Valid) {now : Codes} {d : Dict} {bytes : List UInt8}
    (h : Writes (K.payload now d) bytes) : K.load (some bytes) = .ok (.object d.items) := by
  unfold load
  simp only [readFile_written h]
  show Except.ok (K.accept (.object (K.payload now d).items)) = _
  rw [hK.faithful]

/-- A part is loaded as an empty cache, or not at all. -/
theorem load_torn {payload : Dict} {bytes : List UInt8} (h : Writes payload bytes) {reached : Nat}
    (htorn : reached < bytes.length) :
    K.load (some (bytes.take reached)) =
      if (decodeUtf8 (bytes.take reached)).isSome then .ok (.object []) else .error .unicodeDecodeError := by
  unfold load
  simp only [readFile_torn h htorn]
  split
  · rfl
  · rfl

theorem Sound.step (hK : Lawful K Readable Valid) {w w' : World} (hw : Sound K Valid w)
    (h : K.Step w w') : Sound K Valid w' := by
  cases h with
  | @start cache _ hload =>
    rcases hw.file with ⟨hwhole, hfile⟩ | ⟨-, hraise, -⟩
    · refine ⟨?_, hw.content, .inl ⟨hwhole, hfile⟩⟩
      rintro i ⟨⟩
      rw [hload, Except.ok.injEq, Json.object.injEq] at hfile
      have hcache : cache = w.content := dict_ext hfile
      exact hcache ▸ hw.content
    · rw [hraise] at hload
      cases hload
  | @request i i' r hrunning hserve =>
    refine ⟨?_, hw.content, ?_⟩
    · rintro _ ⟨⟩
      exact hK.serve hserve (hw.running i hrunning)
    · rcases hw.file with hfile | ⟨-, -, hnone, -⟩
      · exact .inl hfile
      · rw [hnone] at hrunning
        cases hrunning
  | @save i i' r now bytes hrunning hserve hwrites =>
    have hvalid := hK.serve hserve (hw.running i hrunning)
    refine ⟨?_, hvalid, .inl ⟨?_, hK.load_written hwrites⟩⟩
    · rintro _ ⟨⟩
      exact hvalid
    · rintro _ ⟨⟩
      exact wholeCharacters_of_written hwrites
  | @crash i i' r now bytes reached hrunning hserve hwrites hreached =>
    have hvalid := hK.serve hserve (hw.running i hrunning)
    by_cases hall : reached = bytes.length
    · subst hall
      rw [if_pos rfl, List.take_length]
      refine ⟨?_, hvalid, .inl ⟨?_, hK.load_written hwrites⟩⟩
      · rintro _ ⟨⟩
      · rintro _ ⟨⟩
        exact wholeCharacters_of_written hwrites
    · have hload := load_torn (K := K) hwrites (Nat.lt_of_le_of_ne hreached hall)
      rw [if_neg hall]
      refine ⟨?_, hK.empty, ?_⟩
      · rintro _ ⟨⟩
      · by_cases hwhole : (decodeUtf8 (bytes.take reached)).isSome
        · rw [if_pos hwhole] at hload
          refine .inl ⟨?_, hload⟩
          rintro _ ⟨⟩
          exact hwhole
        · rw [if_neg hwhole] at hload
          exact .inr ⟨fun hcharacters => hwhole (hcharacters _ rfl), hload, rfl, rfl⟩
  | gone =>
    refine ⟨?_, hw.content, ?_⟩
    · rintro _ ⟨⟩
    · rcases hw.file with hfile | ⟨hpart, hraise, -, hsaved⟩
      · exact .inl hfile
      · exact .inr ⟨hpart, hraise, rfl, hsaved⟩

theorem Run.sound (hK : Lawful K Readable Valid) {w : World} (h : K.Run w) : Sound K Valid w := by
  induction h with
  | initial =>
    refine ⟨?_, hK.empty, .inl ⟨?_, rfl⟩⟩
    · rintro _ ⟨⟩
    · rintro _ ⟨⟩
  | step _ hstep ih => exact ih.step hK hstep

/-- In every world that is reached, a cache can be made and read exactly when the file does not end
inside a character. -/
theorem Run.tolerant_iff (hK : Lawful K Readable Valid) {w : World} (h : K.Run w) :
    Tolerant K Readable w ↔ WholeCharacters w := by
  have hsound := h.sound hK
  constructor
  · intro htolerant
    rcases hsound.file with ⟨hwhole, -⟩ | ⟨-, hraise, -⟩
    · exact hwhole
    · have hloads := htolerant.loads
      rw [hraise] at hloads
      cases hloads
  · intro hwhole
    rcases hsound.file with ⟨-, hload⟩ | ⟨hpart, -, -⟩
    · exact ⟨hload, hK.readable _ hsound.content⟩
    · exact absurd hwhole hpart

end CacheClass

/-! ## Prices -/

section
variable (rt : PriceRuntime)

/-- The dict holds a price, as far as it is read. -/
structure Stores (data : Members) (p : PriceCache rt.toFloatRuntime) : Prop where
  assetId : getItem (codes "asset_id") data = some (text p.assetId)
  assetName : getItem (codes "asset_name") data = some (optionalText p.assetName)
  assetType : getItem (codes "asset_type") data = some (text p.assetType.value)
  price : getItem (codes "price") data = some (.number p.price.literal)
  currency : getItem (codes "currency") data = some (text p.currency)
  cnyPrice : getItem (codes "cny_price") data = some (.number p.cnyPrice.literal)
  change : getItem (codes "change") data = some (optionalNumber rt p.change)
  changePct : getItem (codes "change_pct") data = some (optionalNumber rt p.changePct)
  exchangeRate : getItem (codes "exchange_rate") data = some (optionalNumber rt p.exchangeRate)
  dataSource : getItem (codes "data_source") data = some (optionalText p.dataSource)
  expiresAt : getItem (codes "expires_at") data = some (optionalText (p.expiresAt.map Expiry.text))

/-- The price, with the time it expires to the second. -/
def PriceCache.toTheSecond (p : PriceCache rt.toFloatRuntime) : PriceCache rt.toFloatRuntime :=
  { p with expiresAt := p.expiresAt.map fun e => { e with rest := "" } }

end

section
variable {rt : PriceRuntime} {p : PriceCache rt.toFloatRuntime} {data : Members}

theorem stores_stored (p : PriceCache rt.toFloatRuntime) (now : Codes) :
    Stores rt (display (storedItems rt p now)) p := by
  have hnodup : ((storedItems rt p now).map Prod.fst).Nodup := by
    have hnames : (storedItems rt p now).map Prod.fst = ["asset_id", "asset_name", "asset_type", "price",
        "currency", "cny_price", "change", "change_pct", "exchange_rate", "data_source", "expires_at",
        "updated_at"] := rfl
    rw [hnames]
    decide
  constructor <;> refine Json.getItem_display hnodup ?_ <;> simp [storedItems]

theorem readText_text (s : String) : readText (text s) = .ok s := by
  unfold readText text
  simp only [textOf?_codes]

theorem readOptionalText_optionalText (s : Option String) :
    readOptionalText (optionalText s) = .ok s := by
  cases s with
  | none => rfl
  | some s =>
    show (readText (text s)).map some = _
    rw [readText_text]
    rfl

theorem readFloat_literal (x : FloatLiteral rt.toFloatRuntime) :
    readFloat rt (.number x.literal) = .ok x := by
  unfold readFloat
  split
  · next literal h =>
    have hsame : literal = x.literal := by
      rw [x.exact] at h
      exact (Option.some.inj h).symm
    cases x
    cases hsame
    rfl
  · next h =>
    rw [x.exact] at h
    cases h

theorem readOptionalFloat_optionalNumber (x : Option (FloatLiteral rt.toFloatRuntime)) :
    readOptionalFloat rt (optionalNumber rt x) = .ok x := by
  cases x with
  | none => rfl
  | some x =>
    show (readFloat rt (.number x.literal)).map some = _
    rw [readFloat_literal]
    rfl

theorem readAssetType_value (t : AssetType) : readAssetType (text t.value) = .ok t := by
  have hne : t.value ≠ "" := by cases t <;> decide
  unfold readAssetType
  rw [if_pos (Json.truthy_text hne), readText_text]
  simp only [bind, Except.bind, AssetType.ofValue_value]

theorem readExpiry_text (e : Option (Expiry rt.toFloatRuntime)) :
    readExpiry rt (optionalText (e.map Expiry.text)) = .ok (e.map fun e => { e with rest := "" }) := by
  cases e with
  | none => rfl
  | some e =>
    show readExpiry rt (text e.text) = _
    unfold readExpiry
    rw [if_pos (Json.truthy_text e.nonempty), readText_text]
    have hreads : rt.readsDateTime e.text ∧ e.text ≠ "" := ⟨e.reads, e.nonempty⟩
    simp only [bind, Except.bind, dif_pos hreads]
    rfl

/-- A stored price is read as it was, to the second. -/
theorem readPrice_stores (h : Stores rt data p) :
    readPrice rt data = .ok (PriceCache.validated rt (PriceCache.toTheSecond rt p)) := by
  unfold readPrice
  simp only [getOr, Json.get, h.assetId, h.assetName, h.assetType, h.price, h.currency, h.cnyPrice,
    h.change, h.changePct, h.exchangeRate, h.dataSource, h.expiresAt, Option.getD_some, readText_text,
    readOptionalText_optionalText, readAssetType_value, readFloat_literal,
    readOptionalFloat_optionalNumber, readExpiry_text, bind, Except.bind]
  rfl

/-- The expiry of a stored price is compared. -/
theorem isExpired_stores (now : Codes) (h : Stores rt data p) :
    ∃ expired, isExpired now (getOr data "expires_at" (text "")) = .ok expired := by
  rw [getOr, h.expiresAt, Option.getD_some]
  cases p.expiresAt with
  | none => exact ⟨false, rfl⟩
  | some e => exact ⟨_, rfl⟩

/-- Every entry of the dict is a stored price. -/
def HoldsPrices (rt : PriceRuntime) (d : Dict) : Prop :=
  ∀ item ∈ d.items, ∃ data p, item.2 = .object data ∧ Stores rt data p

/-- No read of the dict raises. -/
structure PricesRead (rt : PriceRuntime) (d : Dict) : Prop where
  get : ∀ assetId now allowExpired maxStale,
    ∃ price, getPrice rt assetId now allowExpired maxStale d = .ok price
  getAll : ∀ now, ∃ prices, getAll rt now d = .ok prices

end

end PortfolioManagement.LocalCache
