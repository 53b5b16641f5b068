import PortfolioManagement.Domain.Keys
import PortfolioManagement.Ledger.DatasetLaws

/-!
# Keys of ledger rows

A ledger row is keyed by a digest of its manual fields joined with `|`. The last four fields contain
no bar and are read back from the right, the amount as the float it is written as; the account and
the broker are free texts.
-/

namespace PortfolioManagement.Ledger

/-- The fields a ledger key is made of, normalised. -/
structure DedupFields where
  account : String
  broker : String
  flowDate : CivilDate
  flowType : CashFlowType
  amount : Cents
  currency : Currency
deriving DecidableEq

namespace DedupFields

/-- The text that is hashed. -/
def text (rt : Runtime) (fields : DedupFields) : String :=
  "|".intercalate [fields.account, fields.broker, fields.flowDate.isoformat, fields.flowType.value,
    rt.floatText fields.amount, fields.currency.value]

end DedupFields

/-- The normalised fields of `expected_cash_flow_dedup_key(manual, flow_type)`. -/
def dedupFields (manual : ManualCashFlowFacts) (flowType : String) : Except Error DedupFields :=
  let resolved := upper (strip flowType)
  match CashFlowType.ofText resolved with
  | none => .error (.value ("unsupported cash_flow flow_type: " ++ resolved))
  | some t =>
    .ok ⟨manual.account, manual.broker, manual.flowDate, t, manual.amount, manual.currency⟩

/-- `expected_cash_flow_dedup_key`. -/
def expectedCashFlowDedupKey (rt : Runtime) (manual : ManualCashFlowFacts) (flowType : String) :
    Except Error String :=
  (dedupFields manual flowType).map fun fields => rt.dedupHash (fields.text rt)

/-- The key of the expected direction is that of its text. -/
theorem expectedCashFlowDedupKey_expected (rt : Runtime) (manual : ManualCashFlowFacts) :
    expectedCashFlowDedupKey rt manual manual.expectedFlowType.value =
      .ok (manual.expectedDedupKey rt) := by
  unfold expectedCashFlowDedupKey dedupFields ManualCashFlowFacts.expectedDedupKey
  cases manual.expectedFlowType <;> rfl

/-! ## Accepted rows -/

/-- Manual facts that some row of the ledger is validated as. -/
def Accepted (rt : Runtime) (manual : ManualCashFlowFacts) : Prop :=
  ∃ record, ManualCashFlowFacts.validate rt record = .ok manual

/-- The amounts of accepted rows. -/
def AcceptedAmount (c : Cents) : Prop := c ≠ 0 ∧ Int.natAbs c < 10 ^ Decimal.precision

theorem requiredText_ok {recordId field s : String} {raw : Cell}
    (h : requiredText recordId field raw = .ok s) : ValidName s := by
  unfold requiredText at h
  cases raw with
  | text t =>
    simp only at h
    split_ifs at h with hblank
    cases h
    exact validName_strip hblank
  | _ => cases h

/-- A name is a required text as it stands. -/
theorem requiredText_name {s : String} (hs : ValidName s) (recordId field : String) :
    requiredText recordId field (.text s) = .ok s := by
  unfold requiredText
  simp only [hs.stripped]
  rw [if_neg hs.ne_empty]

/-- Accepted facts carry names and an accepted amount. -/
theorem Accepted.facts {rt : Runtime} {manual : ManualCashFlowFacts} (h : Accepted rt manual) :
    ValidName manual.account ∧ ValidName manual.broker ∧ AcceptedAmount manual.amount := by
  obtain ⟨record, hvalid⟩ := h
  unfold ManualCashFlowFacts.validate at hvalid
  simp only at hvalid
  split at hvalid
  · rename_i flowDate account broker amount currency _ haccount hbroker hamount _
    split at hvalid
    · rename_i quantized hissues hmoney
      cases hvalid
      refine ⟨requiredText_ok haccount, requiredText_ok hbroker, fun hzero => ?_,
        Decimal.natAbs_of_quantize hmoney⟩
      -- an amount that rounds to zero is an issue
      have hempty : ManualCashFlowFacts.amountIssues record.recordId (.ok amount) = [] := by
        rw [← hamount]
        exact (List.append_eq_nil_iff.mp hissues).2
      unfold ManualCashFlowFacts.amountIssues at hempty
      simp only [hmoney] at hempty
      rw [if_pos hzero] at hempty
      cases hempty
    · cases hvalid
  · cases hvalid

/-- The row that holds given facts. -/
def rowOf (fields : DedupFields) : RawCashFlowRecord :=
  .make "" [("flow_date", .date fields.flowDate), ("account", .text fields.account),
    ("broker", .text fields.broker), ("amount", .decimal ⟨fields.amount, -2⟩),
    ("currency", .text fields.currency.value)]

/-- A row of names, a date, a currency and an accepted amount has exactly those facts. -/
theorem validate_canonical {rt : Runtime} {record : RawCashFlowRecord} {fields : DedupFields}
    (haccount : ValidName fields.account) (hbroker : ValidName fields.broker)
    (hamount : AcceptedAmount fields.amount)
    (hgetDate : record.get "flow_date" = .date fields.flowDate)
    (hgetAccount : record.get "account" = .text fields.account)
    (hgetBroker : record.get "broker" = .text fields.broker)
    (hgetAmount : record.get "amount" = .decimal ⟨fields.amount, -2⟩)
    (hgetCurrency : record.get "currency" = .text fields.currency.value) :
    ManualCashFlowFacts.validate rt record = .ok ⟨record.recordId, fields.flowDate, fields.account,
      fields.broker, fields.amount, fields.currency,
      if record.get "remark" = .null then none else some (record.get "remark")⟩ := by
  obtain ⟨hzero, hlarge⟩ := hamount
  have hmoney : money? ⟨fields.amount, -2⟩ = some fields.amount := by
    have hdigits := (Decimal.digitCount_le (by decide)).mpr hlarge
    unfold money? Decimal.quantize
    simp [hdigits]
  have hcurrency : supportedCurrency record.recordId (.text fields.currency.value) =
      .ok fields.currency := by
    cases fields.currency <;> rfl
  have hdecimal : finiteDecimal record.recordId "amount" (.decimal ⟨fields.amount, -2⟩) true false =
      .ok ⟨fields.amount, -2⟩ := by
    unfold finiteDecimal
    simp [Cell.toDecimal, hzero]
  have hdate : parseFlowDate rt record.recordId (.date fields.flowDate) = .ok fields.flowDate := by
    simp [parseFlowDate, Cell.toDate]
  have hissues : ManualCashFlowFacts.issues rt record = [] := by
    unfold ManualCashFlowFacts.issues
    simp only [hgetDate, hgetAccount, hgetBroker, hgetAmount, hgetCurrency, hdate, hdecimal,
      hcurrency, requiredText_name haccount, requiredText_name hbroker]
    simp [issuesOf, ManualCashFlowFacts.amountIssues, hmoney, hzero]
  unfold ManualCashFlowFacts.validate
  simp only [hgetDate, hgetAccount, hgetBroker, hgetAmount, hgetCurrency, hdate, hdecimal,
    hcurrency, requiredText_name haccount, requiredText_name hbroker, hissues, hmoney]

/-- Names and an accepted amount are the facts of a row. -/
theorem accepted_of {rt : Runtime} {fields : DedupFields} (haccount : ValidName fields.account)
    (hbroker : ValidName fields.broker) (hamount : AcceptedAmount fields.amount) :
    Accepted rt ⟨"", fields.flowDate, fields.account, fields.broker, fields.amount, fields.currency,
      none⟩ :=
  ⟨rowOf fields, validate_canonical haccount hbroker hamount rfl rfl rfl rfl rfl⟩

/-! ## Reading a ledger key -/

namespace DedupFields

theorem barFree_flowType (t : CashFlowType) : '|' ∉ t.value.toList := by cases t <;> decide

theorem barFree_currency (c : Currency) : '|' ∉ c.value.toList := by cases c <;> decide

theorem barFree_isoformat (d : CivilDate) : '|' ∉ d.isoformat.toList := by
  intro hmem
  rcases CivilDate.mem_isoformat hmem with hdigit | hdash
  · exact absurd hdigit (by decide)
  · exact absurd hdash (by decide)

theorem value_injective : Function.Injective CashFlowType.value := by
  intro a b h
  cases a <;> cases b <;> first | rfl | exact absurd h (by decide)

theorem currency_value_injective : Function.Injective Currency.value := by
  intro a b h
  cases a <;> cases b <;> first | rfl | exact absurd h (by decide)

/-- The account and the broker, joined. -/
def names (fields : DedupFields) : String :=
  (String.singleton '|').intercalate [fields.account, fields.broker]

/-- A key's text is its names followed by four more fields. -/
theorem toList_text (rt : Runtime) (fields : DedupFields) :
    (fields.text rt).toList = (((fields.names.toList ++ '|' :: fields.flowDate.isoformat.toList) ++
      '|' :: fields.flowType.value.toList) ++ '|' :: (rt.floatText fields.amount).toList) ++
      '|' :: fields.currency.value.toList := by
  simp [text, names, String.toList_append]

section
variable {rt : Runtime} (hfloat : ∀ c, BarFree (rt.floatText c))
include hfloat

/-- Texts are equal when the names, the amounts' texts and the other fields are. -/
theorem text_eq_iff {a b : DedupFields} :
    a.text rt = b.text rt ↔ a.names = b.names ∧ a.flowDate = b.flowDate ∧ a.flowType = b.flowType ∧
      rt.floatText a.amount = rt.floatText b.amount ∧ a.currency = b.currency := by
  constructor
  · intro h
    rw [← String.toList_inj, toList_text, toList_text] at h
    obtain ⟨h, hcurrency⟩ := Joined.cut_back (barFree_currency _) (barFree_currency _) h
    obtain ⟨h, hamount⟩ := Joined.cut_back (hfloat _) (hfloat _) h
    obtain ⟨h, htype⟩ := Joined.cut_back (barFree_flowType _) (barFree_flowType _) h
    obtain ⟨hnames, hdate⟩ := Joined.cut_back (barFree_isoformat _) (barFree_isoformat _) h
    exact ⟨String.toList_inj.mp hnames, CivilDate.isoformat_injective (String.toList_inj.mp hdate),
      value_injective (String.toList_inj.mp htype), String.toList_inj.mp hamount,
      currency_value_injective (String.toList_inj.mp hcurrency)⟩
  · rintro ⟨hnames, hdate, htype, hamount, hcurrency⟩
    rw [← String.toList_inj, toList_text, toList_text, hnames, hdate, htype, hamount, hcurrency]

end

/-- An amount is the only one that is written as its float. -/
def AmountExact (rt : Runtime) (c : Cents) : Prop :=
  ∀ c', AcceptedAmount c' → rt.floatText c' = rt.floatText c → c' = c

/-- A ledger key names one row's fields: an accepted row with the key has the same fields, unless
the digest takes another text to it. -/
def KeyExact (rt : Runtime) (fields : DedupFields) : Prop :=
  ∀ manual flowType other, Accepted rt manual → dedupFields manual flowType = .ok other →
    rt.dedupHash (other.text rt) = rt.dedupHash (fields.text rt) →
    other = fields ∨ other.text rt ≠ fields.text rt

/-- The fields of a key are those of its manual facts. -/
theorem ok_iff {manual : ManualCashFlowFacts} {flowType : String} {fields : DedupFields} :
    dedupFields manual flowType = .ok fields ↔
      CashFlowType.ofText (upper (strip flowType)) = some fields.flowType ∧
      manual.account = fields.account ∧ manual.broker = fields.broker ∧
      manual.flowDate = fields.flowDate ∧ manual.amount = fields.amount ∧
      manual.currency = fields.currency := by
  unfold dedupFields
  simp only
  cases CashFlowType.ofText (upper (strip flowType)) with
  | none => exact iff_of_false (by simp) (by simp)
  | some t =>
    obtain ⟨account, broker, flowDate, flowType, amount, currency⟩ := fields
    simp only [Except.ok.injEq, DedupFields.mk.injEq, Option.some.injEq]
    exact ⟨fun ⟨h1, h2, h3, h4, h5, h6⟩ => ⟨h4, h1, h2, h3, h5, h6⟩,
      fun ⟨h4, h1, h2, h3, h5, h6⟩ => ⟨h1, h2, h3, h4, h5, h6⟩⟩

/-- Fields that could be a row's, and are joined to the same text, are the same. -/
theorem KeyExact.eq {rt : Runtime} {fields : DedupFields} (h : fields.KeyExact rt)
    (other : DedupFields) (haccount : ValidName other.account) (hbroker : ValidName other.broker)
    (hamount : AcceptedAmount other.amount) (htext : other.text rt = fields.text rt) :
    other = fields := by
  have htype : CashFlowType.ofText (upper (strip other.flowType.value)) = some other.flowType := by
    cases other.flowType <;> rfl
  rcases h _ other.flowType.value other (accepted_of haccount hbroker hamount)
      (ok_iff.mpr ⟨htype, rfl, rfl, rfl, rfl, rfl⟩) (congrArg rt.dedupHash htext) with heq | hne
  · exact heq
  · exact absurd htext hne

/-- The key of an accepted row names its fields exactly when its account and broker have no seam and
no other amount is written as its float. -/
theorem keyExact_iff {rt : Runtime} (hfloat : ∀ c, BarFree (rt.floatText c))
    {manual : ManualCashFlowFacts} {flowType : String} {fields : DedupFields}
    (hmanual : Accepted rt manual) (hfields : dedupFields manual flowType = .ok fields) :
    fields.KeyExact rt ↔
      Seamless '|' [fields.account, fields.broker] ∧ AmountExact rt fields.amount := by
  obtain ⟨-, haccount, hbroker, -, hamount, -⟩ := ok_iff.mp hfields
  obtain ⟨hvalidAccount, hvalidBroker, hvalidAmount⟩ := hmanual.facts
  rw [haccount] at hvalidAccount
  rw [hbroker] at hvalidBroker
  rw [hamount] at hvalidAmount
  have hseam := @seamless_iff_unique '|' (by decide) [fields.account, fields.broker]
    (by simp [hvalidAccount, hvalidBroker])
  constructor
  · intro hexact
    constructor
    · refine hseam.mpr fun names hlen hnames hjoin => ?_
      obtain ⟨account, broker, rfl⟩ := List.length_eq_two.mp hlen
      have hother := hexact.eq { fields with account, broker } (hnames account (by simp))
        (hnames broker (by simp)) hvalidAmount
        ((text_eq_iff hfloat).mpr ⟨hjoin, rfl, rfl, rfl, rfl⟩)
      rw [← hother]
    · intro c hc htext
      have hother := hexact.eq { fields with amount := c } hvalidAccount hvalidBroker hc
        ((text_eq_iff hfloat).mpr ⟨rfl, rfl, rfl, htext, rfl⟩)
      rw [← hother]
  · rintro ⟨hnoSeam, hamountExact⟩ manual' flowType' other hmanual' hother -
    by_cases htext : other.text rt = fields.text rt
    · obtain ⟨hnames, hdate, htype, hfloatEq, hcurrency⟩ := (text_eq_iff hfloat).mp htext
      obtain ⟨-, hacc, hbro, -, ham, -⟩ := ok_iff.mp hother
      obtain ⟨hvalidAcc, hvalidBro, hvalidAm⟩ := hmanual'.facts
      have hpair := hseam.mp hnoSeam [other.account, other.broker] rfl
        (by simp [← hacc, ← hbro, hvalidAcc, hvalidBro]) hnames
      have hamountEq := hamountExact _ (ham ▸ hvalidAm) hfloatEq
      simp only [List.cons.injEq, and_true] at hpair
      obtain ⟨account, broker, flowDate, flowType, amount, currency⟩ := other
      simp only at hpair hdate htype hamountEq hcurrency
      obtain ⟨rfl, rfl⟩ := hpair
      subst hdate htype hamountEq hcurrency
      exact .inl rfl
    · exact .inr htext

end DedupFields

/-! ## All keys -/

/-- Exactly when a key belongs to one tuple of accepted fields. An identity must have its bars in the
broker and at no seam; a snapshot key no colon at a seam; a ledger key no bar at a seam of its
account and broker, and an amount that no other one shares its float with. -/
theorem keys_exact_iff_seamless {rt : Runtime} (hfloat : ∀ c, BarFree (rt.floatText c)) :
    (∀ assetId account broker, ValidName assetId → ValidName account → ValidName broker →
      (IdentityExact assetId account broker ↔
        BarFree assetId ∧ BarFree account ∧ Seamless '|' [assetId, account, broker])) ∧
    (∀ (fields : SnapshotKeyFields) (key : String), fields.snapshotDedupKey = .ok key →
      (fields.KeyExact ↔ Seamless ':' fields.values)) ∧
    ∀ manual flowType fields, Accepted rt manual → dedupFields manual flowType = .ok fields →
      (fields.KeyExact rt ↔
        Seamless '|' [fields.account, fields.broker] ∧ DedupFields.AmountExact rt fields.amount) :=
  ⟨fun _ _ _ hasset haccount hbroker => identityExact_iff hasset haccount hbroker,
    fun _ _ h => SnapshotKeyFields.keyExact_iff h,
    fun _ _ _ hmanual hfields => DedupFields.keyExact_iff hfloat hmanual hfields⟩

/-- Keys of names without delimiters, and of 50 CNY. -/
theorem keys_exact_of_plain_names :
    IdentityExact "CNY-CASH" "a" "某券商" ∧
    SnapshotKeyFields.KeyExact ⟨"a", "2025-03-14", "某券商", "000001"⟩ ∧
    DedupFields.KeyExact ledgerRuntime ⟨"a", "某券商", ledgerDate, .deposit, 5000, .cny⟩ := by
  have hfloat : ∀ c, BarFree (ledgerRuntime.floatText c) := by
    intro c
    by_cases hc : c = 5000
    · simp only [ledgerRuntime, if_pos hc]
      decide
    · simp only [ledgerRuntime, if_neg hc]
      decide
  have hamount : DedupFields.AmountExact ledgerRuntime 5000 := by
    intro c _ htext
    by_contra hc
    simp only [ledgerRuntime, if_neg hc] at htext
    exact absurd htext (by decide)
  obtain ⟨hidentity, hsnapshot, hledger⟩ := keys_exact_iff_seamless hfloat
  refine ⟨(hidentity _ _ _ (by decide) (by decide) (by decide)).mpr
      ⟨by decide, by decide, seamless_of_not_mem (by decide)⟩,
    (hsnapshot _ "a:2025-03-14:某券商:000001" (by decide)).mpr (seamless_of_not_mem (by decide)),
    (hledger ⟨"cf_1", ledgerDate, "a", "某券商", 5000, .cny, none⟩ "deposit " _
      ⟨cnyRow, by decide +kernel⟩ (by decide +kernel)).mpr
      ⟨seamless_of_not_mem (by decide), hamount⟩⟩

/-- Two holdings share an identity, which splits into the parts of one of them only; and two
snapshot rows share a key. -/
theorem barred_names_share_keys :
    identityText "CNY-CASH" "a|b" "c" = identityText "CNY-CASH" "a" "b|c" ∧
    splitIdentity (identityText "CNY-CASH" "a|b" "c") = some ("CNY-CASH", "a", "b|c") ∧
    SnapshotKeyFields.snapshotDedupKey ⟨"a", "2025-03-14", "b:c", "d"⟩ =
      SnapshotKeyFields.snapshotDedupKey ⟨"a", "2025-03-14", "b", "c:d"⟩ ∧
    SnapshotKeyFields.snapshotDedupKey ⟨"a", "2025-03-14", "b", "c:d"⟩ =
      .ok "a:2025-03-14:b:c:d" := by decide

end PortfolioManagement.Ledger
