import Mathlib.Data.List.Dedup
import PortfolioManagement.Domain.Keys
import PortfolioManagement.Validation.Reconciler

/-!
# The accounts Futu is asked for

The reconciler asks Futu for the accounts of rows whose broker is one of three names; the validator
takes every broker whose name starts with one of them to be Futu's. Every row the reconciler asks for
is the validator's too (`isFutuBroker_of_isFutu`), but an account whose rows all have a longer name is
not asked for, and its rows are judged without evidence and without an error.
-/

namespace PortfolioManagement.Validation

open Ledger (Cell)
open Monitor (RawHoldingRecord holdingBrokerScope nonblank projectSnapshot startsWith
  unknownBrokerStarts)

/-! ## The calls -/

section
variable {rt : ReconcilerRuntime} {observers : Observers} {records : List RawHoldingRecord}

theorem mem_futuAccounts {account : String} :
    account ∈ futuAccounts rt records ↔
      ∃ record ∈ records, isFutu rt (record.get "broker") ∧ account ≠ "" ∧
        accountText rt record = account := by
  unfold futuAccounts
  rw [List.mem_insertionSort, List.mem_dedup, List.mem_map]
  simp only [List.mem_filter, Bool.and_eq_true, decide_eq_true_eq]
  constructor
  · rintro ⟨record, ⟨hmem, hfutu, hne⟩, rfl⟩
    exact ⟨record, hmem, hfutu, hne, rfl⟩
  · rintro ⟨record, hmem, hfutu, hne, rfl⟩
    exact ⟨record, ⟨hmem, hfutu, hne⟩, rfl⟩

/-- An account that was asked for has evidence or an error. -/
def Observations.Answered (o : Observations) : Prop :=
  ∀ account ∈ o.calls, (o.evidenceByAccount.lookup account).isSome ∨
    (o.evidenceErrors.lookup account).isSome

theorem observeAccount_calls (o : Observations) (account : String) :
    (observeAccount rt observers o account).calls = o.calls ++ [account] := by
  unfold observeAccount
  split <;> rfl

theorem Observations.Answered.observeAccount {o : Observations} (h : o.Answered) (account : String) :
    (observeAccount rt observers o account).Answered := by
  intro a ha
  rw [observeAccount_calls, List.mem_append, List.mem_singleton] at ha
  unfold Validation.observeAccount
  split
  · next evidence _ =>
    simp only [Items.set, Items.lookup_update]
    by_cases hsame : a = account
    · rw [if_pos hsame]
      exact .inl rfl
    · rw [if_neg hsame]
      exact h a (ha.resolve_right hsame)
  · next message _ =>
    simp only [Items.set, Items.lookup_update]
    by_cases hsame : a = account
    · rw [if_pos hsame]
      exact .inr rfl
    · rw [if_neg hsame]
      exact h a (ha.resolve_right hsame)

/-- The observer is called for each account, and each call is answered. -/
theorem observeAccounts_spec :
    (observeAccounts rt observers records).calls = futuAccounts rt records ∧
      (observeAccounts rt observers records).Answered := by
  have hfold : ∀ (accounts : List String) (o : Observations), o.Answered →
      (accounts.foldl (observeAccount rt observers) o).calls = o.calls ++ accounts ∧
        (accounts.foldl (observeAccount rt observers) o).Answered := by
    intro accounts
    induction accounts with
    | nil =>
      intro o ho
      exact ⟨(List.append_nil _).symm, ho⟩
    | cons account accounts ih =>
      intro o ho
      obtain ⟨hcalls, hanswered⟩ := ih (observeAccount rt observers o account) (ho.observeAccount account)
      refine ⟨?_, hanswered⟩
      rw [List.foldl_cons, hcalls, observeAccount_calls, List.append_assoc, List.singleton_append]
  exact hfold (futuAccounts rt records) ⟨[], [], []⟩ (fun _ h => absurd h List.not_mem_nil)

end

/-! ## Brokers -/

section
variable {rt : ReconcilerRuntime}

/-- A character that is no blank is not stripped. -/
theorem mem_strip {s : String} {c : Char} (h : c ∈ s.toList) (hc : isSpace c = false) :
    c ∈ (strip s).toList := by
  have hdrop : ∀ l : List Char, c ∈ l → c ∈ l.dropWhile isSpace := by
    intro l hl
    rw [← List.takeWhile_append_dropWhile (p := isSpace) (l := l), List.mem_append] at hl
    refine hl.resolve_left fun htake => ?_
    have hspace := List.mem_takeWhile_imp htake
    rw [hc] at hspace
    cases hspace
  unfold strip
  rw [String.toList_ofList, List.mem_reverse]
  exact hdrop _ (List.mem_reverse.mpr (hdrop _ h))

/-- No character without case stands in a text that is one of the names. -/
theorem not_caseless_of_name {s : String} (h : rt.lower s ∈ futuNames) : ∀ c ∈ caseless, c ∉ s.toList := by
  intro c hc hmem
  have hkept := rt.lower_caseless s c hc hmem
  have hnames : (futuNames.all fun name => caseless.all fun d => ! name.toList.contains d) = true := rfl
  have hnot := List.all_eq_true.mp (List.all_eq_true.mp hnames _ h) c hc
  rw [List.contains_iff_mem.mpr hkept] at hnot
  cases hnot

theorem without_eq_self {c : Char} {s : String} (h : c ∉ s.toList) : Monitor.without c s = s := by
  unfold Monitor.without
  rw [List.filter_eq_self.mpr, String.ofList_toList]
  intro d hd
  rw [decide_eq_true_eq]
  rintro rfl
  exact h hd

/-- A broker that is one of the names has the Futu scope. -/
theorem scope_of_name {s : String} (h : rt.lower (strip s) ∈ futuNames) :
    holdingBrokerScope rt.toValueRuntime (some s) = .futu := by
  have hnone := not_caseless_of_name h
  have hnarrow : ((strip s).toList.map fun c => if c = '（' then '(' else if c = '）' then ')' else c) =
      (strip s).toList := by
    conv_rhs => rw [← List.map_id (strip s).toList]
    refine List.map_congr_left fun c hc => ?_
    have hleft : c ≠ '（' := by
      rintro rfl
      exact hnone _ (by decide) hc
    have hright : c ≠ '）' := by
      rintro rfl
      exact hnone _ (by decide) hc
    rw [if_neg hleft, if_neg hright]
    rfl
  unfold holdingBrokerScope
  simp only [hnarrow, String.ofList_toList, without_eq_self (hnone ' ' (by decide)),
    without_eq_self (hnone '　' (by decide))]
  have hany : ∀ name ∈ futuNames, (name.toList.any rt.isAlnum) = true := by
    intro name hname
    simp only [futuNames, List.mem_cons, List.not_mem_nil, or_false] at hname
    rcases hname with rfl | rfl | rfl
    · exact List.any_eq_true.mpr ⟨'f', by decide, rt.isAlnum_letter 'f' (by decide)⟩
    · exact List.any_eq_true.mpr ⟨'m', by decide, rt.isAlnum_letter 'm' (by decide)⟩
    · exact List.any_eq_true.mpr ⟨'富', by decide, rt.isAlnum_letter '富' (by decide)⟩
  have hknown : ∀ name ∈ futuNames, name ≠ "" ∧ name ∉ ["n/a", "na", "none", "null"] ∧
      unknownBrokerStarts.any (startsWith name) = false ∧
      ["moomoo", "富途", "futu"].any (startsWith name) = true := by decide +kernel
  obtain ⟨hne, hword, hstart, hfutu⟩ := hknown _ h
  rw [if_neg, if_pos hfutu]
  rintro (hempty | hmem | hunknown | hletter)
  · exact hne hempty
  · exact hword hmem
  · rw [hstart] at hunknown
    cases hunknown
  · exact hletter (hany _ h)

theorem strip_empty : strip "" = "" := rfl

theorem not_name_empty : rt.lower (strip "") ∉ futuNames := by
  rw [strip_empty, rt.lower_small "" rfl]
  decide

/-- A text that is one of the names is Futu's to the validator. -/
theorem isFutuBroker_of_name {s : String} (h : rt.lower (strip s) ∈ futuNames) :
    isFutuBroker rt.toTextRuntime (nonblank s) := by
  have hne : strip s ≠ "" := by
    intro hempty
    rw [hempty] at h
    exact not_name_empty (strip_empty.symm ▸ h)
  unfold nonblank
  rw [if_neg hne]
  have hname : rt.lower (strip (strip s)) ∈ futuNames := by rwa [strip_strip]
  exact decide_eq_true (scope_of_name hname)

/-- The text of a list, of a mapping or of a date is none of the names. -/
theorem not_name_of_strOf (value : Cell) : rt.lower (strip (rt.strOf value)) ∉ futuNames := by
  intro h
  obtain ⟨c, hmem, hc⟩ := rt.strOf_caseless value
  have hknown : (['[', '\x7b', '-'].all fun c => caseless.contains c && isSpace c == false) = true := rfl
  obtain ⟨hcaseless, hspace⟩ := Bool.and_eq_true_iff.mp (List.all_eq_true.mp hknown c hc)
  exact not_caseless_of_name h c (List.contains_iff_mem.mp hcaseless) (mem_strip hmem (eq_of_beq hspace))

/-- A list, a mapping or a date, which the validator reads no text from. -/
def isStray : Cell → Bool
  | .date _ | .datetime .. | .other .. => true
  | _ => false

theorem strOr_of_falsy {value : Cell} (h : value.truthy = false) : strOr rt value = "" := by
  unfold strOr
  rw [h, if_neg Bool.false_ne_true]

theorem strOr_of_stray {value : Cell} (h : value.truthy = true) (hstray : isStray value = true) :
    strOr rt value = rt.strOf value := by
  unfold strOr
  rw [if_pos h]
  cases value with
  | date _ | datetime _ _ _ | other _ _ => simp only
  | null | bool _ | int _ | float _ | decimal _ | nonFinite | text _ => cases hstray

/-- Of any other value both read one text. -/
theorem text_eq_nonblank {value : Cell} (h : value.truthy = true) (hstray : isStray value = false) :
    text rt.toValidationRuntime value = nonblank (strOr rt value) := by
  unfold text Monitor.holdingText strOr
  rw [if_pos h]
  cases value with
  | null => cases h
  | bool b =>
    cases b with
    | false => cases h
    | true =>
      have htrue : some "True" = nonblank "True" := rfl
      exact htrue
  | int _ | float _ | decimal _ | nonFinite | text _ => simp only
  | date _ | datetime _ _ _ | other _ _ => cases hstray

/-- A broker the reconciler takes to be Futu's is Futu's to the validator. -/
theorem isFutuBroker_of_isFutu {value : Cell} (h : isFutu rt value) :
    isFutuBroker rt.toTextRuntime (text rt.toValidationRuntime value) := by
  have hname : rt.lower (strip (strOr rt value)) ∈ futuNames := of_decide_eq_true h
  cases htruthy : value.truthy with
  | false =>
    rw [strOr_of_falsy htruthy] at hname
    exact absurd hname not_name_empty
  | true =>
    cases hstray : isStray value with
    | true =>
      rw [strOr_of_stray htruthy hstray] at hname
      exact absurd hname (not_name_of_strOf value)
    | false =>
      rw [text_eq_nonblank htruthy hstray]
      exact isFutuBroker_of_name hname

/-- An account that is no list, mapping or date is the one the validator reads. -/
theorem text_of_accountText {record : RawHoldingRecord} (hne : accountText rt record ≠ "")
    (hstray : isStray (record.get "account") = false) :
    text rt.toValidationRuntime (record.get "account") = some (accountText rt record) := by
  unfold accountText at hne ⊢
  have htruthy : (record.get "account").truthy = true := by
    by_contra hfalsy
    rw [Bool.not_eq_true] at hfalsy
    rw [strOr_of_falsy hfalsy] at hne
    exact hne strip_empty
  rw [text_eq_nonblank htruthy hstray]
  unfold nonblank
  rw [if_neg hne]

end

/-! ## What is asked for and what is owned -/

section
variable (rt : ReconcilerRuntime) (observers : Observers) (request : Request)
  (records : List RawHoldingRecord)

/-- The validator takes the row to be Futu's, in an account. -/
def OwnedBy (record : RawHoldingRecord) (account : String) : Prop :=
  text rt.toValidationRuntime (record.get "account") = some account ∧
    isFutuBroker rt.toTextRuntime (text rt.toValidationRuntime (record.get "broker"))

instance (record : RawHoldingRecord) (account : String) : Decidable (OwnedBy rt record account) :=
  inferInstanceAs (Decidable (_ ∧ _))

/-- Futu is asked for the accounts of its rows, its rows are judged with evidence or beside an error,
and no other row gets evidence. -/
structure ObservesOwned : Prop where
  /-- the observer is called for the accounts of Futu's rows, and for no other -/
  calls : ∀ account, account ∈ (evaluateRecords rt observers request records).calls ↔
    ∃ record ∈ records, OwnedBy rt record account
  /-- a row of Futu has evidence where its account has no error -/
  evidenced : ∀ record ∈ records, ∀ account, OwnedBy rt record account →
    (text rt.toValidationRuntime (record.get "asset_id")).isSome →
    (evaluateRecords rt observers request records).report.evidenceErrors.lookup account = none →
    (futuOf rt.toValidationRuntime (evaluateRecords rt observers request records).bundle record).2.1.isSome
  /-- what the name and the change paths take not to be Futu's gets no evidence -/
  foreign : ∀ record ∈ records,
    isAutomaticNameCandidate rt record ∨
      holdingBrokerScope rt.toValueRuntime (projectSnapshot rt.toValueRuntime record).broker ≠ .futu →
    futuOf rt.toValidationRuntime (evaluateRecords rt observers request records).bundle record =
      (none, none, .notApplicable)

/-- Each account of Futu has a row whose broker is one of the names, and each such row has a text for
its account. -/
structure PlainlySpelled : Prop where
  /-- an account that has a row of Futu has one under a plain name -/
  spelled : ∀ record ∈ records, ∀ account, OwnedBy rt record account →
    ∃ other ∈ records, isFutu rt (other.get "broker") ∧ accountText rt other = account
  /-- where the account of a plainly named row is a list, a mapping or a date, its text is an account
  of Futu -/
  texts : ∀ record ∈ records, isFutu rt (record.get "broker") → isStray (record.get "account") →
    accountText rt record ≠ "" → ∃ other ∈ records, OwnedBy rt other (accountText rt record)

end

section
variable {rt : ReconcilerRuntime} {observers : Observers} {request : Request}
  {records : List RawHoldingRecord}

theorem mem_calls {account : String} :
    account ∈ (evaluateRecords rt observers request records).calls ↔
      ∃ record ∈ records, isFutu rt (record.get "broker") ∧ account ≠ "" ∧
        accountText rt record = account := by
  unfold evaluateRecords
  simp only [observeAccounts_spec.1]
  exact mem_futuAccounts

theorem account_ne_empty {record : RawHoldingRecord} {account : String} (h : OwnedBy rt record account) :
    account ≠ "" := by
  have hnonblank : ∀ s, nonblank s ≠ some "" := by
    intro s hs
    unfold nonblank at hs
    split at hs
    · cases hs
    · next hne => exact hne (Option.some.inj hs)
  intro hempty
  have htext := h.1
  unfold text Monitor.holdingText at htext
  rw [hempty] at htext
  cases hvalue : record.get "account" with
  | null | date _ | datetime _ _ _ | other _ _ =>
    rw [hvalue] at htext
    cases htext
  | bool b =>
    rw [hvalue] at htext
    have hword : (if b then "True" else "False") ≠ "" := by cases b <;> decide
    exact hword (Option.some.inj htext)
  | int _ | float _ | decimal _ | nonFinite | text _ =>
    simp only [hvalue] at htext
    exact hnonblank _ htext

/-- What Futu says of a row in an account without evidence. -/
theorem futuOf_evidence {bundle : HoldingsEvidenceBundle} {record : RawHoldingRecord} {account : String}
    (h : OwnedBy rt record account)
    (hasset : (text rt.toValidationRuntime (record.get "asset_id")).isSome) :
    (futuOf rt.toValidationRuntime bundle record).2.1 = bundle.futuByAccount.lookup account := by
  obtain ⟨assetId, hasset⟩ := Option.isSome_iff_exists.mp hasset
  unfold futuOf HoldingsEvidenceBundle.futuPosition
  rw [h.1, hasset]
  simp only [h.2, not_true_eq_false, if_false]
  split
  · next hnone => rw [hnone]
  · next evidence hsome => rw [hsome]

theorem futuOf_foreign {bundle : HoldingsEvidenceBundle} {record : RawHoldingRecord}
    (h : ¬ isFutuBroker rt.toTextRuntime (text rt.toValidationRuntime (record.get "broker"))) :
    futuOf rt.toValidationRuntime bundle record = (none, none, .notApplicable) := by
  unfold futuOf HoldingsEvidenceBundle.futuPosition
  split
  · rw [if_pos h]
  · rfl

/-- A row whose raw broker is not Futu's is not Futu's to the validator. -/
theorem not_isFutuBroker_of_rawScope {value : Cell} (h : rawScope rt value = .nonFutu) :
    ¬ isFutuBroker rt.toTextRuntime (text rt.toValidationRuntime value) := by
  cases value with
  | text s =>
    have hscope : holdingBrokerScope rt.toValueRuntime (some s) = .nonFutu := h
    intro hfutu
    have hfutu' : holdingBrokerScope rt.toValueRuntime (nonblank s) = .futu := of_decide_eq_true hfutu
    unfold nonblank at hfutu'
    split at hfutu'
    · cases hfutu'
    · have hsame : holdingBrokerScope rt.toValueRuntime (some (strip s)) =
          holdingBrokerScope rt.toValueRuntime (some s) := by
        simp only [holdingBrokerScope, strip_strip]
      rw [hsame, hscope] at hfutu'
      cases hfutu'
  | null | bool _ | int _ | float _ | decimal _ | nonFinite | date _ | datetime _ _ _ | other _ _ => cases h

/-- Futu is asked for the accounts of its rows, and no row is judged without the evidence it needs,
exactly when its accounts are plainly spelled. -/
theorem observesOwned_iff (rt : ReconcilerRuntime) (observers : Observers) (request : Request)
    (records : List RawHoldingRecord) :
    ObservesOwned rt observers request records ↔ PlainlySpelled rt records := by
  constructor
  · intro h
    refine ⟨?_, ?_⟩
    · intro record hmem account howned
      obtain ⟨other, hother, hfutu, -, haccount⟩ :=
        mem_calls.mp ((h.calls account).mpr ⟨record, hmem, howned⟩)
      exact ⟨other, hother, hfutu, haccount⟩
    · intro record hmem hfutu _ hne
      exact (h.calls _).mp (mem_calls.mpr ⟨record, hmem, hfutu, hne, rfl⟩)
  · intro h
    have hcalls : ∀ account, account ∈ (evaluateRecords rt observers request records).calls ↔
        ∃ record ∈ records, OwnedBy rt record account := by
      intro account
      rw [mem_calls]
      constructor
      · rintro ⟨record, hmem, hfutu, hne, rfl⟩
        cases hstray : isStray (record.get "account") with
        | true => exact h.texts record hmem hfutu hstray hne
        | false =>
          exact ⟨record, hmem, text_of_accountText hne hstray, isFutuBroker_of_isFutu hfutu⟩
      · rintro ⟨record, hmem, howned⟩
        obtain ⟨other, hother, hfutu, haccount⟩ := h.spelled record hmem account howned
        exact ⟨other, hother, hfutu, account_ne_empty howned, haccount⟩
    refine ⟨hcalls, ?_, ?_⟩
    · intro record hmem account howned hasset hnone
      rw [futuOf_evidence howned hasset]
      have hcalled := (hcalls account).mpr ⟨record, hmem, howned⟩
      have hanswered : (observeAccounts rt observers records).Answered := observeAccounts_spec.2
      exact (hanswered account hcalled).resolve_right (by
        intro hsome
        rw [Option.isSome_iff_ne_none] at hsome
        exact hsome hnone)
    · intro record _ hforeign
      refine futuOf_foreign ?_
      rcases hforeign with hname | hscope
      · unfold isAutomaticNameCandidate isFundNameCandidate isHkStockNameCandidate isNameCandidate at hname
        simp only [Bool.or_eq_true, Bool.and_eq_true, decide_eq_true_eq] at hname
        rcases hname with ⟨-, -, hraw⟩ | ⟨-, -, hraw⟩ <;> exact not_isFutuBroker_of_rawScope hraw
      · exact fun hfutu => hscope (of_decide_eq_true hfutu)

end

/-! ## An account that is not asked for -/

/-- `str.lower` of an ASCII letter. -/
def asciiLower (c : Char) : Char := if isCapital c then Char.ofNat (c.toNat + 32) else c

/-- `str.upper` of an ASCII letter. -/
def asciiUpper (c : Char) : Char := if 'a' ≤ c ∧ c ≤ 'z' then Char.ofNat (c.toNat - 32) else c

theorem map_eq_self {f : Char → Char} {s : String} (h : ∀ c ∈ s.toList, f c = c) :
    String.ofList (s.toList.map f) = s := by
  have hid : s.toList.map f = s.toList := by
    conv_rhs => rw [← List.map_id s.toList]
    exact List.map_congr_left h
  rw [hid, String.ofList_toList]

theorem asciiLower_of_small {c : Char} (h : isSmall c = true) : asciiLower c = c := by
  refine if_neg fun hcapital => ?_
  unfold isCapital at hcapital
  unfold isSmall at h
  simp only [Bool.and_eq_true, Bool.or_eq_true, decide_eq_true_eq] at h hcapital
  have hhigh : c.toNat ≤ 90 := UInt32.le_iff_toNat_le.mp hcapital.2
  rcases h with ⟨hlow, -⟩ | rfl
  · have hle : 97 ≤ c.toNat := UInt32.le_iff_toNat_le.mp hlow
    omega
  · exact absurd hhigh (by decide)

theorem asciiUpper_of_capital {c : Char} (h : isCapital c = true) : asciiUpper c = c := by
  refine if_neg fun hsmall => ?_
  unfold isCapital at h
  simp only [Bool.and_eq_true, decide_eq_true_eq] at h
  have hhigh : c.toNat ≤ 90 := UInt32.le_iff_toNat_le.mp h.2
  have hle : 97 ≤ c.toNat := UInt32.le_iff_toNat_le.mp hsmall.1
  omega

/-- The standard library on ASCII texts and ideographs. -/
def plainTexts : ReconcilerRuntime where
  numberText _ := ""
  lower s := String.ofList (s.toList.map asciiLower)
  upper s := String.ofList (s.toList.map asciiUpper)
  isAlnum c := c.isAlphanum || 0x4e00 ≤ c.toNat
  lower_small _ h := map_eq_self fun c hc => asciiLower_of_small (List.all_eq_true.mp h c hc)
  upper_capital _ h := map_eq_self fun c hc => asciiUpper_of_capital (List.all_eq_true.mp h c hc)
  lower_caseless s c hc hmem := by
    have hall : (caseless.all fun c => asciiLower c == c) = true := rfl
    have hkept : asciiLower c = c := eq_of_beq (List.all_eq_true.mp hall c hc)
    rw [String.toList_ofList]
    exact hkept ▸ List.mem_map_of_mem hmem
  isAlnum_letter c hc := by
    have hall : (['f', 'm', '富'].all fun c => c.isAlphanum || 0x4e00 ≤ c.toNat) = true := rfl
    exact List.all_eq_true.mp hall c hc
  tagsOf _ := none
  isHoldingDate _ := false
  isAwareTime _ := false
  strOf _ := "[]"
  strOf_caseless _ := ⟨'[', by decide, by decide⟩

/-- A row under the full name of the broker. -/
def securitiesRow : RawHoldingRecord :=
  ⟨"rec1", [("asset_id", .text "AAPL"), ("account", .text "lx"), ("broker", .text "富途证券")]⟩

/-- No provider answers. -/
def silent : Observers := ⟨fun _ => .error "", fun _ => none, fun _ => none⟩

/-- An account whose only row has the full name is not asked for. -/
theorem securities_not_observed :
    ¬ ObservesOwned plainTexts silent ⟨none, false, false⟩ [securitiesRow] := by
  intro h
  have howned : OwnedBy plainTexts securitiesRow "lx" := by decide +kernel
  obtain ⟨record, hmem, hfutu, -, -⟩ := mem_calls.mp ((h.calls "lx").mpr ⟨_, List.mem_singleton_self _, howned⟩)
  rw [List.mem_singleton] at hmem
  subst hmem
  have hother : isFutu plainTexts (securitiesRow.get "broker") = false := by decide +kernel
  rw [hother] at hfutu
  cases hfutu

end PortfolioManagement.Validation
