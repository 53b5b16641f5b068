import PortfolioManagement.Futu.Written

/-!
# Convergence of the position sync

After the replacements are written, every asset the planner compares holds exactly the numbers of its
position (`exact_written`), so that the reconciler trusts the slice and a second comparison changes
nothing. The planner leaves two kinds of rows alone that the reconciler still compares: a legacy fund
without a position, and a row of another type that carries the asset of a position. The sync converges
exactly when neither differs from the snapshot (`sync_converges_iff`).
-/

namespace PortfolioManagement.Futu

/-! ## Exact rows -/

/-- A row carries the numbers of a position. -/
structure Exact (t : Option FutuPositionSnapshot) (row : Option Holding) (quantity : Rat) : Prop where
  /-- the quantity -/
  quantity_eq : (row.map (·.values.quantity)).getD 0 = quantity
  /-- the cost -/
  cost_eq : row.bind (·.values.avgCost) = targetCost t quantity

theorem targetCost_zero (t : Option FutuPositionSnapshot) : targetCost t 0 = none := by
  cases t <;> rfl

theorem matchable_of_descriptor {p : FutuPositionSnapshot} {assetType : AssetType} {currency : String}
    {assetClass : Option AssetClass} (h : targetDescriptor p = .ok (assetType, currency, assetClass)) :
    matchableType assetType = true ∧ ∃ market, currency = normalizeCurrency p.currency market := by
  have hof : ∀ t : AssetType, matchableType t = true →
      (Except.ok (t, normalizeCurrency p.currency (upper p.market), assetClassForEconomicExposure t) :
        Except String (AssetType × String × Option AssetClass)) = .ok (assetType, currency, assetClass) →
      matchableType assetType = true ∧ ∃ market, currency = normalizeCurrency p.currency market := by
    intro t ht heq
    have hpair := Prod.mk.inj (Except.ok.inj heq)
    exact ⟨hpair.1 ▸ ht, _, (Prod.mk.inj hpair.2).1.symm⟩
  unfold targetDescriptor at h
  simp only at h
  split at h
  · exact hof _ rfl h
  · split at h
    · exact hof _ rfl h
    · split at h
      · exact hof _ rfl h
      · split at h
        · exact hof _ rfl h
        · cases h

theorem validCurrency_iff {currency : String} :
    validCurrency currency = true ↔
      upper (strip currency) = "CNY" ∨ upper (strip currency) = "USD" ∨ upper (strip currency) = "HKD" := by
  unfold validCurrency Currency.ofText
  split
  · next h => exact iff_of_true rfl (.inl h)
  · next hcny =>
    split
    · next h => exact iff_of_true rfl (.inr (.inl h))
    · next husd =>
      split
      · next h => exact iff_of_true rfl (.inr (.inr h))
      · next hhkd =>
        refine iff_of_false Bool.false_ne_true ?_
        rintro (h | h | h)
        · exact hcny h
        · exact husd h
        · exact hhkd h

/-- A known currency stays known when it is normalised. -/
theorem valid_normalizeCurrency {currency : String} (h : validCurrency currency = true)
    (market : String) : validCurrency (normalizeCurrency currency market) = true := by
  have hknown : ∀ c : String, c ≠ "CNH" → c ≠ "" → c ≠ "N/A" → upper (strip currency) = c →
      normalizeCurrency currency market = c := by
    intro c hcnh hblank hna hc
    unfold normalizeCurrency
    simp only
    rw [hc, if_neg hcnh, if_pos ⟨hblank, hna⟩]
  rcases validCurrency_iff.mp h with h | h | h
  · rw [hknown _ (by decide) (by decide) (by decide) h]
    decide
  · rw [hknown _ (by decide) (by decide) (by decide) h]
    decide
  · rw [hknown _ (by decide) (by decide) (by decide) h]
    decide

/-- A sound position and a row that carries its numbers agree. -/
theorem agrees_of_exact {t : Option FutuPositionSnapshot} {row : Option Holding} {quantity : Rat}
    (hsound : ∀ p, t = some p → p.Sound) (hquantity : targetQuantity t = .ok quantity)
    (h : Exact t row quantity) :
    expectedQuantity t = actualQuantity row ∧ expectedCost t = actualCost row := by
  unfold actualQuantity actualCost
  rw [h.quantity_eq, h.cost_eq]
  cases t with
  | none =>
    cases hquantity
    exact ⟨rfl, rfl⟩
  | some p =>
    obtain ⟨q, hq, hcost⟩ := (hsound p rfl).numbers
    have hexpected : expectedQuantity (some p) = q := by
      unfold expectedQuantity
      rw [Option.bind_some, hq]
      rfl
    have hsame : q = quantity := by
      unfold targetQuantity at hquantity
      simp only [hq, ProviderNumericFact.value] at hquantity
      exact Except.ok.inj hquantity
    subst hsame
    refine ⟨hexpected, ?_⟩
    unfold expectedCost targetCost
    rw [hexpected]
    split
    · next hne =>
      obtain ⟨cost, hvalid⟩ := hcost hne
      simp only [Option.bind_some, hvalid, ProviderNumericFact.value, moneyOf, quantizeMoney,
        Option.map_some, Option.getD_some, money_toDecimal]
    · rfl

section
variable {positions : List FutuPositionSnapshot} {holdings : List Holding} {account broker : String}
  {allowEmpty : Bool} {items : List FutuHoldingSyncItem} {replacements : List Replacement}
  {newId : HoldingIdentity → Nat} {today : Date}

theorem target_mem {assetId : String} {p : FutuPositionSnapshot} (h : target positions assetId = some p) :
    p ∈ positions ∧ p.eligible = true ∧ p.assetId = assetId := by
  obtain ⟨hmem, hasset⟩ := mem_of_rowWith h
  exact ⟨(List.mem_filter.mp hmem).1, (List.mem_filter.mp hmem).2, hasset⟩

theorem stored_mem {assetId : String} {h : Holding} (hstored : stored holdings account broker assetId = some h) :
    h ∈ holdings ∧ h.identity = ⟨assetId, account, broker⟩ :=
  mem_of_rowWith hstored

theorem stored_of_mem (hslice : Slice account holdings) {h : Holding} (hmem : h ∈ holdings)
    (hbroker : h.identity.broker = broker) : stored holdings account broker (assetOf h) = some h := by
  have hrow := rowWith_of_mem (f := fun h : Holding => h.identity) hslice.nodup hmem
  have hid : h.identity = ⟨assetOf h, account, broker⟩ := by
    rw [← hslice.account_eq h hmem, ← hbroker]
    rfl
  unfold stored
  rw [← hid]
  exact hrow

theorem current_eq_some {assetId : String} {h : Holding} :
    current holdings account broker assetId = some h ↔
      stored holdings account broker assetId = some h ∧ matchableType h.values.assetType = true := by
  unfold current
  rw [Option.filter_eq_some_iff]

/-- An asset that is not compared keeps its row. -/
theorem stored_written_of_not_listed (hslice : Slice account holdings)
    (hrun : DiffRun positions holdings account broker allowEmpty items replacements) {assetId : String}
    (hlisted : ¬ Listed positions holdings account broker assetId) :
    stored (written newId today replacements holdings) account broker assetId =
      stored holdings account broker assetId := by
  unfold stored
  rw [stored_written _ _ hslice hrun]
  cases hr : rowWith Replacement.identity ⟨assetId, account, broker⟩ replacements with
  | none => rfl
  | some r => exact absurd ((replacement_iff hslice hrun assetId r).mp hr).1 hlisted

variable (newId today) in
/-- The row of a compared asset after the write: as it was when it is not replaced, else with the
numbers of the replacement, or created. -/
theorem stored_written_of_listed (hslice : Slice account holdings)
    (hrun : DiffRun positions holdings account broker allowEmpty items replacements) {assetId : String}
    {item : FutuHoldingSyncItem} {replacement : Option Replacement}
    (hlisted : Listed positions holdings account broker assetId)
    (hok : appendItem account broker (pairOf positions holdings account broker assetId) =
      .ok (item, replacement)) :
    stored (written newId today replacements holdings) account broker assetId =
      replacement.elim (stored holdings account broker assetId) fun r =>
        some ((replacing newId today).outcome r (stored holdings account broker assetId)) := by
  have hsame : rowWith Replacement.identity ⟨assetId, account, broker⟩ replacements = replacement := by
    cases replacement with
    | some r => exact (replacement_iff hslice hrun assetId r).mpr ⟨hlisted, item, hok⟩
    | none =>
      cases hr : rowWith Replacement.identity ⟨assetId, account, broker⟩ replacements with
      | none => rfl
      | some r =>
        obtain ⟨-, item', hok'⟩ := (replacement_iff hslice hrun assetId r).mp hr
        cases hok.symm.trans hok'
  unfold stored
  rw [stored_written _ _ hslice hrun, hsame]

variable (newId today) in
/-- After the write a compared asset holds the numbers of its position, unless a row of another type
has its identity. -/
theorem exact_of_listed (hslice : Slice account holdings)
    (hrun : DiffRun positions holdings account broker allowEmpty items replacements) {assetId : String}
    {item : FutuHoldingSyncItem} {replacement : Option Replacement} {quantity : Rat}
    (hlisted : Listed positions holdings account broker assetId)
    (hok : appendItem account broker (pairOf positions holdings account broker assetId) =
      .ok (item, replacement))
    (hcompared : Compared account broker (pairOf positions holdings account broker assetId) item
      replacement quantity)
    (htypes : quantity ≠ 0 → ∀ h, stored holdings account broker assetId = some h →
      matchableType h.values.assetType = true) :
    Exact (target positions assetId)
        (current (written newId today replacements holdings) account broker assetId) quantity ∧
      ∀ h, current (written newId today replacements holdings) account broker assetId = some h →
        (∀ h₀, current holdings account broker assetId = some h₀ →
          h.values.currency = h₀.values.currency) ∧
        (current holdings account broker assetId = none → ∃ p market,
          target positions assetId = some p ∧ p.currencyExplicit = true ∧
            h.values.currency = normalizeCurrency p.currency market) := by
  have hstored := stored_written_of_listed newId today hslice hrun hlisted hok
  cases replacement with
  | none =>
    -- nothing is replaced, so nothing differs
    have haction : item.action = .unchanged := by
      by_contra hne
      obtain ⟨_, hr⟩ := hcompared.replaced hne
      cases hr
    have hsame : current (written newId today replacements holdings) account broker assetId =
        current holdings account broker assetId := by
      unfold current
      rw [hstored]
      rfl
    rw [hsame]
    rw [hcompared.action, syncAction_unchanged_iff] at haction
    refine ⟨?_, fun h hh => ⟨fun h₀ hh₀ => ?_, fun hnone => ?_⟩⟩
    · cases hcurrent : current holdings account broker assetId with
      | none =>
        have hpair : (pairOf positions holdings account broker assetId).current = none := hcurrent
        rw [hpair, Option.isSome_none, if_neg Bool.false_ne_true] at haction
        rw [haction]
        exact ⟨rfl, (targetCost_zero _).symm⟩
      | some h =>
        have hpair : (pairOf positions holdings account broker assetId).current = some h := hcurrent
        rw [hpair, Option.isSome_some, if_pos rfl] at haction
        obtain ⟨hquantity, hcost⟩ := changed_eq_false.mp haction
        rw [hpair] at hquantity hcost
        exact ⟨hquantity, hcost⟩
    · rw [hh] at hh₀
      cases hh₀
      rfl
    · rw [hh] at hnone
      cases hnone
  | some r =>
    obtain ⟨hquantity, hcost⟩ := hcompared.numbers r rfl
    have hchanged : item.action ≠ .unchanged := fun h => by cases hcompared.unchanged h
    rw [Option.elim_some] at hstored
    cases hrow : stored holdings account broker assetId with
    | none =>
      -- the row is created, described by the position
      have hcurrent : current holdings account broker assetId = none := by
        unfold current
        rw [hrow]
        rfl
      obtain ⟨p, hp⟩ : ∃ p, target positions assetId = some p := by
        rcases hlisted with hp | ⟨h, hh, -⟩
        · exact hp
        · rw [hcurrent] at hh
          cases hh
      obtain ⟨hexplicit, assetClass, hdescriptor⟩ := hcompared.described r p rfl hcurrent hp
      obtain ⟨htype, market, hcurrency⟩ := matchable_of_descriptor hdescriptor
      have hnew : current (written newId today replacements holdings) account broker assetId =
          some ((replacing newId today).create r) := by
        rw [current_eq_some, hstored, hrow]
        exact ⟨rfl, htype⟩
      rw [hnew]
      refine ⟨⟨hquantity, hcost⟩, fun h hh => ⟨fun h₀ hh₀ => ?_, fun _ => ?_⟩⟩
      · rw [hcurrent] at hh₀
        cases hh₀
      · cases hh
        exact ⟨p, market, hp, hexplicit, hcurrency⟩
    | some h =>
      rw [hrow] at hstored
      cases htype : matchableType h.values.assetType with
      | true =>
        -- the row is replaced
        have hcurrent : current holdings account broker assetId = some h :=
          current_eq_some.mpr ⟨hrow, htype⟩
        have hnew : current (written newId today replacements holdings) account broker assetId =
            some ((replacing newId today).merge r h) :=
          current_eq_some.mpr ⟨hstored, htype⟩
        rw [hnew]
        refine ⟨⟨hquantity, hcost⟩, fun h' hh' => ⟨fun h₀ hh₀ => ?_, fun hnone => ?_⟩⟩
        · rw [hcurrent] at hh₀
          cases hh₀
          cases hh'
          rfl
        · rw [hcurrent] at hnone
          cases hnone
      | false =>
        -- a row of another type is in the way of a position, which is then empty
        have hcurrent : current holdings account broker assetId = none := by
          cases hc : current holdings account broker assetId with
          | none => rfl
          | some h' =>
            obtain ⟨hstored', htype'⟩ := current_eq_some.mp hc
            rw [hrow] at hstored'
            cases hstored'
            rw [htype] at htype'
            cases htype'
        have hzero : quantity = 0 := by
          by_contra hne
          have hmatchable := htypes hne h hrow
          rw [htype] at hmatchable
          cases hmatchable
        refine absurd ?_ hchanged
        have hpair : (pairOf positions holdings account broker assetId).current = none := hcurrent
        rw [hcompared.action, syncAction_unchanged_iff, hpair, Option.isSome_none,
          if_neg Bool.false_ne_true]
        exact hzero

/-! ## The second comparison -/

/-- A legacy fund of the broker without a position is empty. -/
def FundsSettled (positions : List FutuPositionSnapshot) (holdings : List Holding) (broker : String) :
    Prop :=
  ∀ h ∈ holdings, h.identity.broker = broker → legacyEtfType h.values.assetType = true →
    (∀ p ∈ positions, p.eligible = true → p.assetId ≠ assetOf h) →
      h.values.quantity = 0 ∧ h.values.avgCost = none

/-- The row that carries the asset of a position that is not empty can be matched with it. -/
def AssetsFree (positions : List FutuPositionSnapshot) (holdings : List Holding) (broker : String) :
    Prop :=
  ∀ p ∈ positions, p.eligible = true → p.quantity.value ≠ some 0 →
    ∀ h ∈ holdings, h.identity.broker = broker → assetOf h = p.assetId →
      matchableType h.values.assetType = true

theorem legacy_of_matchable {t : AssetType} (h : matchableType t = true) (hstock : stockSyncType t ≠ true) :
    legacyEtfType t = true := by
  cases t <;> first | rfl | exact absurd rfl hstock | cases h

theorem not_stock_of_legacy {t : AssetType} (h : legacyEtfType t = true) : stockSyncType t = false := by
  cases t <;> first | rfl | cases h

theorem targetQuantity_of_sound {t : Option FutuPositionSnapshot} (h : ∀ p, t = some p → p.Sound) :
    ∃ quantity, targetQuantity t = .ok quantity ∧ ∀ p, t = some p → p.quantity.value = some quantity := by
  cases t with
  | none => exact ⟨0, rfl, fun _ h => by cases h⟩
  | some p =>
    obtain ⟨q, hq, -⟩ := (h p rfl).numbers
    refine ⟨q, ?_, fun p' hp' => ?_⟩
    · unfold targetQuantity
      simp only [hq, ProviderNumericFact.value]
    · cases hp'
      rw [hq]
      rfl

variable (hslice : Slice account holdings)
  (hrun : DiffRun positions holdings account broker allowEmpty items replacements)
  (hsound : ∀ p ∈ positions, p.eligible = true → p.Sound)

include hsound in
theorem sound_target (assetId : String) : ∀ p, target positions assetId = some p → p.Sound :=
  fun p hp => hsound p (target_mem hp).1 (target_mem hp).2.1

variable (newId today) in
include hslice hrun hsound in
/-- After the write every asset holds the numbers of its position. -/
theorem exact_written (hfunds : FundsSettled positions holdings broker)
    (hassets : AssetsFree positions holdings broker) (assetId : String) :
    ∃ quantity, targetQuantity (target positions assetId) = .ok quantity ∧
      Exact (target positions assetId)
        (current (written newId today replacements holdings) account broker assetId) quantity := by
  by_cases hlisted : Listed positions holdings account broker assetId
  · obtain ⟨item, replacement, quantity, hok, hcompared⟩ := compared_of_listed hslice hrun hlisted
    refine ⟨quantity, hcompared.quantity_eq, (exact_of_listed _ _ hslice hrun hlisted hok hcompared ?_).1⟩
    intro hne h hstored
    obtain ⟨hmem, hid⟩ := stored_mem hstored
    cases htarget : target positions assetId with
    | some p =>
      obtain ⟨hp, heligible, hasset⟩ := target_mem htarget
      refine hassets p hp heligible ?_ h hmem ?_ ?_
      · intro hzero
        obtain ⟨q, hq, hvalue⟩ := targetQuantity_of_sound (sound_target hsound assetId)
        have hsame : q = quantity := Except.ok.inj (hq.symm.trans hcompared.quantity_eq)
        rw [hvalue p htarget] at hzero
        exact hne (hsame ▸ Option.some.inj hzero)
      · rw [hid]
      · unfold assetOf
        rw [hid, hasset]
    | none =>
      rcases hlisted with ⟨p, hp⟩ | ⟨h', hcurrent, -⟩
      · rw [htarget] at hp
        cases hp
      · obtain ⟨hstored', htype⟩ := current_eq_some.mp hcurrent
        rw [hstored] at hstored'
        cases hstored'
        exact htype
  · have htarget : target positions assetId = none := by
      cases htarget : target positions assetId with
      | none => rfl
      | some p => exact absurd (.inl ⟨p, htarget⟩) hlisted
    have hsame : current (written newId today replacements holdings) account broker assetId =
        current holdings account broker assetId := by
      unfold current
      rw [stored_written_of_not_listed hslice hrun hlisted]
    rw [hsame, htarget]
    refine ⟨0, rfl, ?_⟩
    cases hcurrent : current holdings account broker assetId with
    | none => exact ⟨rfl, rfl⟩
    | some h =>
      -- a legacy fund without a position
      obtain ⟨hstored, htype⟩ := current_eq_some.mp hcurrent
      obtain ⟨hmem, hid⟩ := stored_mem hstored
      have hlegacy := legacy_of_matchable htype fun hstock => hlisted (.inr ⟨h, hcurrent, hstock⟩)
      obtain ⟨hzero, hnone⟩ := hfunds h hmem (by rw [hid]) hlegacy fun p hp heligible hasset => by
        have hrow := rowWith_of_mem (f := FutuPositionSnapshot.assetId) hrun.nodup
          (List.mem_filter.mpr ⟨hp, heligible⟩)
        have hasset' : p.assetId = assetId := by
          rw [hasset]
          unfold assetOf
          rw [hid]
        rw [hasset'] at hrow
        unfold target at htarget
        rw [htarget] at hrow
        cases hrow
      exact ⟨hzero, hnone⟩

include hslice hrun hsound in
/-- The currencies of the compared rows are known after the write. -/
theorem valid_currency_written {assetId : String} {h : Holding}
    (hcurrent : current (written newId today replacements holdings) account broker assetId = some h)
    (hlisted : Listed positions (written newId today replacements holdings) account broker assetId)
    (hassets : AssetsFree positions holdings broker) : validCurrency h.values.currency = true := by
  have hlisted' : Listed positions holdings account broker assetId := by
    rcases hlisted with htarget | ⟨h', hh', hstock⟩
    · exact .inl htarget
    · by_contra hnot
      refine hnot (.inr ⟨h', ?_, hstock⟩)
      unfold current at hh' ⊢
      rwa [stored_written_of_not_listed hslice hrun hnot] at hh'
  obtain ⟨item, replacement, quantity, hok, hcompared⟩ := compared_of_listed hslice hrun hlisted'
  have hrow := (exact_of_listed newId today hslice hrun hlisted' hok hcompared
    (fun hne h₀ hstored => by
      obtain ⟨hmem, hid⟩ := stored_mem hstored
      rcases hlisted' with ⟨p, hp⟩ | ⟨h', hh', -⟩
      · obtain ⟨hpos, heligible, hasset⟩ := target_mem hp
        refine hassets p hpos heligible ?_ h₀ hmem (by rw [hid]) ?_
        · intro hzero
          obtain ⟨q, hq, hvalue⟩ := targetQuantity_of_sound (sound_target hsound assetId)
          have hsame : q = quantity := Except.ok.inj (hq.symm.trans hcompared.quantity_eq)
          rw [hvalue p hp] at hzero
          exact hne (hsame ▸ Option.some.inj hzero)
        · unfold assetOf
          rw [hid, hasset]
      · obtain ⟨hstored', htype⟩ := current_eq_some.mp hh'
        rw [hstored] at hstored'
        cases hstored'
        exact htype)).2 h hcurrent
  cases hbefore : current holdings account broker assetId with
  | some h₀ =>
    rw [hrow.1 h₀ hbefore]
    exact hcompared.currency h₀ hbefore
  | none =>
    obtain ⟨p, market, hp, hexplicit, hcurrency⟩ := hrow.2 hbefore
    rw [hcurrency]
    exact valid_normalizeCurrency ((sound_target hsound _ p hp).currency hexplicit) market

/-- A pair whose numbers agree is not changed. -/
theorem appendItem_of_exact {pair : SyncPair} {quantity : Rat}
    (hquantity : targetQuantity pair.target = .ok quantity)
    (hexact : Exact pair.target pair.current quantity)
    (hcurrency : ∀ h, pair.current = some h → validCurrency h.values.currency = true)
    (hplaced : ∀ p, pair.target = some p → ∃ descriptor, targetDescriptor p = .ok descriptor)
    (hsome : pair.target = none → ∃ h, pair.current = some h) :
    ∃ item, appendItem account broker pair = .ok (item, none) ∧ item.action = .unchanged := by
  have haction : syncAction pair.current.isSome quantity
      (decide ((pair.current.map (·.values.quantity)).getD 0 ≠ quantity) ||
        decide (pair.current.bind (·.values.avgCost) ≠ targetCost pair.target quantity)) =
      .unchanged := by
    refine syncAction_unchanged_iff.mpr ?_
    cases hcurrent : pair.current with
    | none =>
      have hzero := hexact.quantity_eq
      rw [hcurrent] at hzero
      exact hzero.symm
    | some h =>
      rw [Option.isSome_some, if_pos rfl, ← hcurrent]
      exact changed_eq_false.mpr ⟨hexact.quantity_eq, hexact.cost_eq⟩
  have hvalid : ¬ (pair.current.any fun h => !validCurrency h.values.currency) = true := by
    intro hany
    cases hcurrent : pair.current with
    | none =>
      rw [hcurrent] at hany
      cases hany
    | some h =>
      rw [hcurrent, Option.any_some, hcurrency h hcurrent] at hany
      cases hany
  obtain ⟨description, hdescribe⟩ : ∃ d, describe pair .unchanged = .ok d := by
    unfold describe
    cases htarget : pair.target with
    | none =>
      obtain ⟨h, hh⟩ := hsome htarget
      rw [hh]
      exact ⟨_, rfl⟩
    | some p =>
      obtain ⟨⟨targetType, targetCurrency, targetAssetClass⟩, hdescriptor⟩ := hplaced p htarget
      simp only [hdescriptor]
      rw [if_neg (by simp)]
      exact ⟨_, rfl⟩
  unfold appendItem
  rw [hquantity]
  simp only [bind, Except.bind]
  rw [haction, if_neg hvalid]
  simp only [pure, Except.pure, hdescribe]
  exact ⟨_, rfl, rfl⟩

include hslice hrun hsound in
/-- The comparison of the written slice with the same positions changes nothing. -/
theorem second_diff (hfunds : FundsSettled positions holdings broker)
    (hassets : AssetsFree positions holdings broker) :
    ∃ items', buildPositionDiff positions (written newId today replacements holdings) account broker
        allowEmpty = .ok (items', []) ∧ ∀ item ∈ items', item.action = .unchanged := by
  have hslice' := slice_written newId today hslice hrun
  have hpair : ∀ pair ∈ pairs positions (written newId today replacements holdings) broker,
      ∃ item, appendItem account broker pair = .ok (item, none) ∧ item.action = .unchanged := by
    intro pair hmem
    obtain ⟨hpairOf, hlisted⟩ := (mem_pairs hslice').mp hmem
    obtain ⟨quantity, hquantity, hexact⟩ := exact_written newId today hslice hrun
      hsound hfunds hassets pair.assetId
    rw [hpairOf]
    refine appendItem_of_exact hquantity hexact (fun h hh => ?_) (fun p hp => ?_) fun hnone => ?_
    · exact valid_currency_written hslice hrun hsound hh hlisted hassets
    · exact (sound_target hsound _ p hp).placed
    · rcases hlisted with ⟨p, hp⟩ | ⟨h, hh, -⟩
      · cases hnone.symm.trans hp
      · exact ⟨h, hh⟩
  obtain ⟨results, hresults⟩ := mapM_ok_of_forall (f := appendItem account broker)
    fun pair hmem => (hpair pair hmem).elim fun item h => ⟨_, h.1⟩
  have hforall := forall₂_of_mapM_ok hresults
  have hresult : ∀ result ∈ results, result.2 = none ∧ result.1.action = .unchanged := by
    intro result hmem
    obtain ⟨pair, hpairs, hok⟩ := forall₂_mem_right hforall hmem
    obtain ⟨item, hitem, haction⟩ := hpair pair hpairs
    have hsame : result = (item, none) := Except.ok.inj (hok.symm.trans hitem)
    rw [hsame]
    exact ⟨rfl, haction⟩
  have hempty : ¬ ((((positions.filter FutuPositionSnapshot.eligible).map fun p =>
      (p.assetId, p)).isEmpty && !allowEmpty &&
      (((written newId today replacements holdings).filter (matchable broker)).map fun h =>
        (assetOf h, h)).any fun row =>
          stockSyncType row.2.values.assetType && row.2.values.quantity ≠ 0) = true) := by
    intro hall
    obtain ⟨hnone, hany⟩ := (Bool.and_eq_true _ _).mp hall
    obtain ⟨hnone, -⟩ := (Bool.and_eq_true _ _).mp hnone
    obtain ⟨⟨assetId, h⟩, hrow, htest⟩ := List.any_eq_true.mp hany
    obtain ⟨h', hmatch, heq⟩ := List.mem_map.mp hrow
    cases heq
    have hcurrent := (rowWith_matchable hslice' (assetOf h)).symm.trans
      (rowWith_of_mem (nodup_matchable hslice') hmatch)
    have htarget : target positions (assetOf h) = none := by
      have hnil : positions.filter FutuPositionSnapshot.eligible = [] := by
        simpa using hnone
      unfold target
      rw [hnil]
      rfl
    obtain ⟨quantity, hquantity, hexact⟩ := exact_written newId today hslice hrun
      hsound hfunds hassets (assetOf h)
    rw [htarget] at hquantity
    cases hquantity
    have hzero := hexact.quantity_eq
    rw [hcurrent] at hzero
    have hne := of_decide_eq_true ((Bool.and_eq_true _ _).mp htest).2
    exact hne hzero
  refine ⟨results.map Prod.fst, ?_, fun item hitem => ?_⟩
  · unfold buildPositionDiff
    rw [keyedBy_of_nodup _ hrun.nodup, keyedBy_of_nodup _ (nodup_matchable hslice')]
    simp only [bind, Except.bind]
    rw [if_neg hempty]
    unfold pairs at hresults
    simp only [pure, Except.pure, hresults]
    have hnil : results.filterMap Prod.snd = [] :=
      List.filterMap_eq_nil_iff.mpr fun result hmem => (hresult result hmem).1
    rw [hnil]
  · obtain ⟨result, hmem, rfl⟩ := List.mem_map.mp hitem
    exact (hresult result hmem).2

/-! ## Convergence -/

/-- What a convergent sync does. -/
structure Converges (positions : List FutuPositionSnapshot) (holdings : List Holding)
    (account broker : String) (allowEmpty : Bool) (replacements : List Replacement)
    (newId : HoldingIdentity → Nat) (today : Date) : Prop where
  /-- the quantities are trusted after the write -/
  quantity : (quantityVerdict positions (written newId today replacements holdings) account
    broker).status = "trusted"
  /-- the costs are trusted after the write -/
  cost : (costVerdict positions (written newId today replacements holdings) account
    broker).status = "trusted"
  /-- a second comparison changes nothing -/
  stable : ∃ items, buildPositionDiff positions (written newId today replacements holdings) account
    broker allowEmpty = .ok (items, []) ∧ ∀ item ∈ items, item.action = .unchanged
  /-- replacements are rows of the broker of a synced type, and so are the rows they replace -/
  synced : ∀ r ∈ replacements, r.identity.account = account ∧ r.identity.broker = broker ∧
    matchableType r.values.assetType = true ∧
    ∀ h ∈ holdings, h.identity = r.identity → matchableType h.values.assetType = true ∧
      SameDescription r.values h.values
  /-- rows keep their description, and those without a replacement everything -/
  kept : ∀ h ∈ holdings, ∃ h' ∈ written newId today replacements holdings, h'.identity = h.identity ∧
    h'.recordId = h.recordId ∧ SameDescription h'.values h.values ∧
    ((∀ r ∈ replacements, r.identity ≠ h.identity) → h' = h)

variable (newId today) in
include hslice hrun hsound in
theorem trusted_of_exact (hfunds : FundsSettled positions holdings broker)
    (hassets : AssetsFree positions holdings broker) :
    (quantityVerdict positions (written newId today replacements holdings) account
        broker).status = "trusted" ∧
      (costVerdict positions (written newId today replacements holdings) account
        broker).status = "trusted" := by
  have hslice' := slice_written newId today hslice hrun
  have hagrees : ∀ assetId, expectedQuantity (target positions assetId) =
      actualQuantity (current (written newId today replacements holdings) account broker assetId) ∧
      expectedCost (target positions assetId) =
        actualCost (current (written newId today replacements holdings) account broker assetId) := by
    intro assetId
    obtain ⟨quantity, hquantity, hexact⟩ := exact_written newId today hslice hrun
      hsound hfunds hassets assetId
    exact agrees_of_exact (sound_target hsound _) hquantity hexact
  rw [quantity_trusted_iff, cost_trusted_iff]
  refine ⟨fun assetId => ?_, fun assetId => ?_⟩
  · obtain ⟨hexpected, hactual⟩ := comparison_lookup broker hslice' hrun.nodup assetId
    rw [hexpected, hactual]
    exact (hagrees assetId).1
  · obtain ⟨hexpected, hactual⟩ := comparison_lookup broker hslice' hrun.nodup assetId
    rw [hexpected, hactual]
    exact (hagrees assetId).2

include hslice hrun in
/-- What an asset holds when both verdicts are trusted. -/
theorem agrees_of_trusted
    (hquantity : (quantityVerdict positions (written newId today replacements holdings) account
      broker).status = "trusted")
    (hcost : (costVerdict positions (written newId today replacements holdings) account
      broker).status = "trusted") (assetId : String) :
    expectedQuantity (target positions assetId) =
        actualQuantity (current (written newId today replacements holdings) account broker assetId) ∧
      expectedCost (target positions assetId) =
        actualCost (current (written newId today replacements holdings) account broker assetId) := by
  have hslice' := slice_written newId today hslice hrun
  obtain ⟨hexpected, hactual⟩ := comparison_lookup broker hslice' hrun.nodup assetId
  have hq := (quantity_trusted_iff ..).mp hquantity assetId
  have hc := (cost_trusted_iff ..).mp hcost assetId
  rw [hexpected, hactual] at hq hc
  exact ⟨hq, hc⟩

include hslice hrun in
/-- A legacy fund without a position is left alone, and then has to be empty. -/
theorem fundsSettled_of_trusted
    (hquantity : (quantityVerdict positions (written newId today replacements holdings) account
      broker).status = "trusted")
    (hcost : (costVerdict positions (written newId today replacements holdings) account
      broker).status = "trusted") : FundsSettled positions holdings broker := by
  intro h hmem hbroker hlegacy hnone
  have htype : matchableType h.values.assetType = true := by
    unfold matchableType
    rw [hlegacy, Bool.or_true]
  have hcurrent : current holdings account broker (assetOf h) = some h :=
    current_eq_some.mpr ⟨stored_of_mem hslice hmem hbroker, htype⟩
  have htarget : target positions (assetOf h) = none := by
    cases htarget : target positions (assetOf h) with
    | none => rfl
    | some p =>
      obtain ⟨hp, heligible, hasset⟩ := target_mem htarget
      exact absurd hasset (hnone p hp heligible)
  have hlisted : ¬ Listed positions holdings account broker (assetOf h) := by
    rintro (⟨p, hp⟩ | ⟨h', hh', hstock⟩)
    · rw [htarget] at hp
      cases hp
    · rw [hcurrent] at hh'
      cases hh'
      rw [not_stock_of_legacy hlegacy] at hstock
      cases hstock
  obtain ⟨hq, hc⟩ := agrees_of_trusted hslice hrun hquantity hcost (assetOf h)
  have hsame : current (written newId today replacements holdings) account broker (assetOf h) =
      some h := by
    unfold current at hcurrent ⊢
    rwa [stored_written_of_not_listed hslice hrun hlisted]
  rw [htarget, hsame] at hq hc
  refine ⟨hq.symm, ?_⟩
  have hmoney : none = h.values.avgCost.map money := hc
  exact Option.map_eq_none_iff.mp hmoney.symm

include hslice hrun hsound in
/-- A row of another type keeps its type, so that it cannot stand for a position. -/
theorem assetsFree_of_trusted
    (hquantity : (quantityVerdict positions (written newId today replacements holdings) account
      broker).status = "trusted")
    (hcost : (costVerdict positions (written newId today replacements holdings) account
      broker).status = "trusted") : AssetsFree positions holdings broker := by
  intro p hp heligible hne h hmem hbroker hasset
  by_contra htype
  rw [Bool.not_eq_true] at htype
  have hstored : stored holdings account broker p.assetId = some h :=
    hasset ▸ stored_of_mem hslice hmem hbroker
  have htarget : target positions p.assetId = some p :=
    rowWith_of_mem (f := FutuPositionSnapshot.assetId) hrun.nodup
      (List.mem_filter.mpr ⟨hp, heligible⟩)
  obtain ⟨item, replacement, quantity, hok, hcompared⟩ :=
    compared_of_listed hslice hrun (.inl ⟨p, htarget⟩)
  have hwritten : current (written newId today replacements holdings) account broker p.assetId =
      none := by
    have hrow := stored_written_of_listed newId today hslice hrun
      (.inl ⟨p, htarget⟩) hok
    unfold current
    rw [hrow, hstored]
    cases replacement with
    | none => rw [Option.elim_none, Option.filter_some, htype, if_neg Bool.false_ne_true]
    | some r =>
      rw [Option.elim_some, Option.filter_some]
      exact if_neg fun h => Bool.false_ne_true (htype.symm.trans h)
  have hq := (agrees_of_trusted hslice hrun hquantity hcost p.assetId).1
  rw [hwritten, htarget] at hq
  obtain ⟨q, hvalid, -⟩ := (hsound p hp heligible).numbers
  rw [hvalid] at hne
  unfold expectedQuantity at hq
  rw [Option.bind_some, hvalid] at hq
  exact hne (congrArg some hq)

include hslice hrun hsound in
theorem scoped_replacements (hassets : AssetsFree positions holdings broker) {r : Replacement}
    (hr : r ∈ replacements) :
    r.identity.account = account ∧ r.identity.broker = broker ∧
      matchableType r.values.assetType = true ∧
      ∀ h ∈ holdings, h.identity = r.identity → matchableType h.values.assetType = true ∧
        SameDescription r.values h.values := by
  have hid := account_of_mem hrun hr
  have hrow := rowWith_of_mem (f := Replacement.identity) (nodup_replacements hslice hrun) hr
  rw [hid] at hrow
  obtain ⟨hlisted, item, hok⟩ := (replacement_iff hslice hrun _ r).mp hrow
  obtain ⟨quantity, hcompared⟩ := appendItem_ok hok
  have hexisting : ∀ h ∈ holdings, h.identity = r.identity →
      current holdings account broker r.identity.assetId = some h := by
    intro h hmem hsame
    have hbroker : h.identity.broker = broker := by rw [hsame, hid]
    have hstored : stored holdings account broker r.identity.assetId = some h := by
      rw [← hsame]
      exact stored_of_mem hslice hmem hbroker
    refine current_eq_some.mpr ⟨hstored, ?_⟩
    by_contra htype
    have hnone : current holdings account broker r.identity.assetId = none := by
      cases hc : current holdings account broker r.identity.assetId with
      | none => rfl
      | some h' =>
        obtain ⟨hstored', htype'⟩ := current_eq_some.mp hc
        rw [hstored] at hstored'
        cases hstored'
        exact absurd htype' htype
    -- a position that is not empty would be in the way
    have hne : item.action ≠ .unchanged := fun h => by cases hcompared.unchanged h
    obtain ⟨p, hp⟩ : ∃ p, target positions r.identity.assetId = some p := by
      rcases hlisted with hp | ⟨h', hh', -⟩
      · exact hp
      · rw [hnone] at hh'
        cases hh'
    obtain ⟨hpos, heligible, hasset⟩ := target_mem hp
    refine htype (hassets p hpos heligible ?_ h hmem hbroker ?_)
    · intro hzero
      obtain ⟨q, hq, hvalue⟩ := targetQuantity_of_sound
        (sound_target hsound r.identity.assetId)
      have hsame' : q = quantity := Except.ok.inj (hq.symm.trans hcompared.quantity_eq)
      refine hne ?_
      have hpair : (pairOf positions holdings account broker r.identity.assetId).current = none := hnone
      rw [hcompared.action, syncAction_unchanged_iff, hpair, Option.isSome_none,
        if_neg Bool.false_ne_true, ← hsame']
      rw [hvalue p hp] at hzero
      exact Option.some.inj hzero
    · unfold assetOf
      rw [hsame, hasset]
  refine ⟨by rw [hid], by rw [hid], ?_, fun h hmem hsame => ?_⟩
  · cases hcurrent : current holdings account broker r.identity.assetId with
    | some h =>
      rw [(hcompared.kept r h rfl hcurrent).assetType]
      exact (current_eq_some.mp hcurrent).2
    | none =>
      rcases hlisted with ⟨p, hp⟩ | ⟨h', hh', -⟩
      · obtain ⟨-, assetClass, hdescriptor⟩ := hcompared.described r p rfl hcurrent hp
        exact (matchable_of_descriptor hdescriptor).1
      · rw [hcurrent] at hh'
        cases hh'
  · have hcurrent := hexisting h hmem hsame
    exact ⟨(current_eq_some.mp hcurrent).2, hcompared.kept r h rfl hcurrent⟩

include hslice hrun hsound in
theorem kept_rows (hassets : AssetsFree positions holdings broker) {h : Holding} (hmem : h ∈ holdings) :
    ∃ h' ∈ written newId today replacements holdings, h'.identity = h.identity ∧
      h'.recordId = h.recordId ∧ SameDescription h'.values h.values ∧
      ((∀ r ∈ replacements, r.identity ≠ h.identity) → h' = h) := by
  have hrow := stored_written newId today hslice hrun h.identity
  rw [rowWith_of_mem (f := fun h : Holding => h.identity) hslice.nodup hmem] at hrow
  cases hr : rowWith Replacement.identity h.identity replacements with
  | none =>
    rw [hr] at hrow
    obtain ⟨hmem', hid⟩ := mem_of_rowWith hrow
    exact ⟨h, hmem', rfl, rfl, .rfl _, fun _ => rfl⟩
  | some r =>
    rw [hr] at hrow
    obtain ⟨hmem', -⟩ := mem_of_rowWith hrow
    obtain ⟨hrmem, hid⟩ := mem_of_rowWith hr
    obtain ⟨-, -, -, hsame⟩ := scoped_replacements hslice hrun hsound hassets hrmem
    obtain ⟨-, hdescription⟩ := hsame h hmem hid.symm
    refine ⟨_, hmem', rfl, rfl, ⟨?_, rfl, rfl, rfl, rfl, rfl⟩, fun hnone => absurd hid (hnone r hrmem)⟩
    show (if r.values.assetName = "" then h.values.assetName else r.values.assetName) = _
    split
    · rfl
    · exact hdescription.assetName

omit hslice hrun hsound in
/-- A sync whose comparison succeeds converges exactly when the legacy funds without a position are
empty and no row of another type carries the asset of a position. -/
theorem sync_converges_iff (hvalid : validateAuthoritativePositions positions = .ok ())
    (hslice : Slice account holdings)
    (hdiff : buildPositionDiff positions holdings account broker allowEmpty = .ok (items, replacements)) :
    Converges positions holdings account broker allowEmpty replacements newId today ↔
      FundsSettled positions holdings broker ∧ AssetsFree positions holdings broker := by
  have hrun := buildPositionDiff_ok hdiff
  have hsound : ∀ p ∈ positions, p.eligible = true → p.Sound :=
    fun p hp heligible => sound_of_validated hvalid hp heligible
  constructor
  · intro h
    exact ⟨fundsSettled_of_trusted hslice hrun h.quantity h.cost,
      assetsFree_of_trusted hslice hrun hsound h.quantity h.cost⟩
  · rintro ⟨hfunds, hassets⟩
    obtain ⟨hquantity, hcost⟩ := trusted_of_exact newId today hslice hrun hsound
      hfunds hassets
    exact ⟨hquantity, hcost, second_diff hslice hrun hsound hfunds hassets,
      fun r hr => scoped_replacements hslice hrun hsound hassets hr,
      fun h hmem => kept_rows hslice hrun hsound hassets hmem⟩

/-- A holding of the broker. -/
def heldRow (recordId : Nat) (assetId : String) (assetType : AssetType) (quantity : Rat)
    (avgCost : Option Rat) : Holding :=
  ⟨recordId, ⟨assetId, "lx", "富途"⟩, ⟨assetId, assetType, quantity, avgCost, "HKD", none, none, []⟩,
    none, none⟩

/-- A Futu position in Hong Kong. -/
def hkPosition (assetId : String) (quantity cost : Rat) : FutuPositionSnapshot where
  assetId := assetId
  assetName := assetId
  securityType := "STOCK"
  quantity := .valid quantity
  averageCost := .valid cost
  currency := "HKD"
  market := "HK"
  positionSide := "LONG"
  rawCode := "HK." ++ assetId
  currencyExplicit := true
  currencyValid := true
  currencyValid_eq := by decide +kernel

/-- The theorem at a slice with one stock, whose quantity changed. -/
theorem sync_converges_iff_oneStock :
    ∃ items replacements,
      buildPositionDiff [hkPosition "00700" 200 310] [heldRow 1 "00700" .hkStock 100 (some 300)] "lx"
        "富途" false = .ok (items, replacements) ∧
      (Converges [hkPosition "00700" 200 310] [heldRow 1 "00700" .hkStock 100 (some 300)] "lx" "富途"
          false replacements (fun _ => 2) 0 ↔
        FundsSettled [hkPosition "00700" 200 310] [heldRow 1 "00700" .hkStock 100 (some 300)] "富途" ∧
          AssetsFree [hkPosition "00700" 200 310] [heldRow 1 "00700" .hkStock 100 (some 300)] "富途") := by
  have hvalid : validateAuthoritativePositions [hkPosition "00700" 200 310] = .ok () := by
    decide +kernel
  have hslice : Slice "lx" [heldRow 1 "00700" .hkStock 100 (some 300)] :=
    ⟨List.nodup_singleton _, fun h hh => by rw [List.mem_singleton.mp hh]; rfl⟩
  have hsome : (buildPositionDiff [hkPosition "00700" 200 310]
      [heldRow 1 "00700" .hkStock 100 (some 300)] "lx" "富途" false).toOption.isSome = true := by
    decide +kernel
  cases hdiff : buildPositionDiff [hkPosition "00700" 200 310]
      [heldRow 1 "00700" .hkStock 100 (some 300)] "lx" "富途" false with
  | error e =>
    rw [hdiff] at hsome
    cases hsome
  | ok result =>
    exact ⟨result.1, result.2, rfl, sync_converges_iff hvalid hslice hdiff⟩

/-- A legacy fund without a position is not replaced, and the reconciler asks for a quantity of zero. -/
theorem legacy_fund_is_not_trusted :
    (buildPositionDiff [hkPosition "00700" 100 300]
        [heldRow 1 "00700" .hkStock 100 (some 300), heldRow 2 "HKFUND" .hkFund 50 (some 10)] "lx" "富途"
        false).map (fun result => (result.1.map (·.action), result.2)) = .ok ([.unchanged], []) ∧
      (quantityVerdict [hkPosition "00700" 100 300]
        (written (fun _ => 3) 0 []
          [heldRow 1 "00700" .hkStock 100 (some 300), heldRow 2 "HKFUND" .hkFund 50 (some 10)]) "lx"
        "富途").status = "untrusted" := by
  decide +kernel

end

end PortfolioManagement.Futu
