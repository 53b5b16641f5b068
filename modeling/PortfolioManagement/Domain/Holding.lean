import Mathlib.Data.List.Sort
import Mathlib.Algebra.Order.BigOperators.Group.List
import PortfolioManagement.Domain.CashFlow

/-!
# Holdings and their mutations

The remote holdings table and the contract every write to it goes through. A `HoldingTarget` is an
absolute target for one identity; it names the fields it owns and is bound to the fresh row it was
computed from, so that `replaceHolding` is a compare-and-set against the whole row.
-/

namespace PortfolioManagement

/-- `AssetType`. -/
inductive AssetType
  | aStock | hkStock | usStock
  | fund | exchangeFund | otcFund | cnFund | usFund | hkFund
  | cash | mmf | crypto | bond | other
deriving DecidableEq, Repr

/-- `AssetClass`. -/
inductive AssetClass
  | cnAsset | usAsset | hkAsset | cash | alternative
deriving DecidableEq, Repr

/-- `Industry`. -/
inductive Industry
  | ai | zhonggai | consumption | energy | semiconductor | finance | internet | tech | healthcare
  | realEstate | entertainment | index | cash | blockchain | other
deriving DecidableEq, Repr

/-- `HoldingIdentity`: the writable business identity; its parts are stripped and not blank. -/
structure HoldingIdentity where
  /-- the asset -/
  assetId : String
  /-- the account -/
  account : String
  /-- the broker -/
  broker : String
deriving DecidableEq, Repr

namespace HoldingIdentity

/-- `_required_text` of one identity field. -/
def requiredField (fieldName value : String) : Except Error String :=
  if strip value = "" then .error (.value (fieldName ++ " is required")) else .ok (strip value)

/-- `HoldingIdentity(asset_id, account, broker)`. -/
def make (assetId account broker : String) : Except Error HoldingIdentity := do
  let assetId ← requiredField "asset_id" assetId
  let account ← requiredField "account" account
  let broker ← requiredField "broker" broker
  return ⟨assetId, account, broker⟩

/-- `_identity` of a holding. -/
def text (i : HoldingIdentity) : String := identityText i.assetId i.account i.broker

end HoldingIdentity

/-- `HOLDING_VALUE_FIELDS`. -/
inductive HoldingField
  | assetName | assetType | quantity | avgCost | currency | assetClass | industry | tag
deriving DecidableEq, Repr

/-- The business values of a holding, in canonical form. -/
structure HoldingValues where
  /-- the display name -/
  assetName : String
  /-- the asset type -/
  assetType : AssetType
  /-- the quantity -/
  quantity : Rat
  /-- the average cost -/
  avgCost : Option Rat
  /-- the currency -/
  currency : String
  /-- the asset class -/
  assetClass : Option AssetClass
  /-- the industry -/
  industry : Option Industry
  /-- the tags -/
  tag : List String
deriving DecidableEq

namespace HoldingValues

/-- Whether two value sets agree on a field. -/
def agreeOn (a b : HoldingValues) : HoldingField → Bool
  | .assetName => a.assetName = b.assetName
  | .assetType => a.assetType = b.assetType
  | .quantity => a.quantity = b.quantity
  | .avgCost => a.avgCost = b.avgCost
  | .currency => a.currency = b.currency
  | .assetClass => a.assetClass = b.assetClass
  | .industry => a.industry = b.industry
  | .tag => a.tag = b.tag

/-- Take one field from another value set. -/
def copyField (src dst : HoldingValues) : HoldingField → HoldingValues
  | .assetName => { dst with assetName := src.assetName }
  | .assetType => { dst with assetType := src.assetType }
  | .quantity => { dst with quantity := src.quantity }
  | .avgCost => { dst with avgCost := src.avgCost }
  | .currency => { dst with currency := src.currency }
  | .assetClass => { dst with assetClass := src.assetClass }
  | .industry => { dst with industry := src.industry }
  | .tag => { dst with tag := src.tag }

/-- All value fields. -/
def fields : List HoldingField :=
  [.assetName, .assetType, .quantity, .avgCost, .currency, .assetClass, .industry, .tag]

end HoldingValues

/-- `Holding`: one row of the holdings table, in canonical form. -/
structure Holding where
  /-- the remote record id -/
  recordId : Nat
  /-- the business identity -/
  identity : HoldingIdentity
  /-- the business values -/
  values : HoldingValues
  /-- when the row was created, at day precision -/
  createdAt : Option Date
  /-- when the row was last written, at day precision -/
  updatedAt : Option Date
deriving DecidableEq

/-- `CompensationService.serialize_holding`: identity and values, without the record id. -/
structure HoldingState where
  /-- the business identity -/
  identity : HoldingIdentity
  /-- the business values -/
  values : HoldingValues
deriving DecidableEq

/-- The serialized form of a holding. -/
def Holding.state (h : Holding) : HoldingState := ⟨h.identity, h.values⟩

/-- `holding_state_digest`: the whole row, dates and record id included. -/
def holdingStateDigest (h : Option Holding) : Digest (Option Holding) := .of h

/-! ## Mutation targets -/

/-- `HoldingTarget`: an absolute target with the fields it owns and the base row it is bound to. -/
structure HoldingTarget where
  /-- the identity written -/
  identity : HoldingIdentity
  /-- the complete target values -/
  values : HoldingValues
  /-- the fields the write is responsible for -/
  ownedFields : List HoldingField
  /-- the record id of the base row; none to create -/
  baseRecordId : Option Nat
  /-- the digest of the base row -/
  baseDigest : Digest (Option Holding)
deriving DecidableEq

namespace HoldingTarget

/-- `HoldingTarget.from_holdings`: a target may change only fields it owns. -/
def fromHoldings (base : Option Holding) (target : HoldingState)
    (ownedFields : List HoldingField) : Except Error HoldingTarget :=
  match base with
  | none => .ok ⟨target.identity, target.values, ownedFields, none, holdingStateDigest none⟩
  | some row =>
    if target.identity ≠ row.identity then
      .error (.value ("holding target identity changed: base=" ++ row.identity.text ++
        ", target=" ++ target.identity.text))
    else if HoldingValues.fields.any fun f =>
        !ownedFields.contains f && !target.values.agreeOn row.values f then
      .error (.value "holding target changes unowned fields")
    else .ok ⟨target.identity, target.values, ownedFields, some row.recordId,
      holdingStateDigest (some row)⟩

/-- `HoldingTarget.to_holding`, serialized. -/
def state (t : HoldingTarget) : HoldingState := ⟨t.identity, t.values⟩

/-- The values a row has after the owned fields were written. -/
def applyTo (t : HoldingTarget) (values : HoldingValues) : HoldingValues :=
  t.ownedFields.foldl (HoldingValues.copyField t.values) values

end HoldingTarget

/-- `holding_owned_fields_match`. -/
def holdingOwnedFieldsMatch (h : Holding) (t : HoldingTarget) : Bool :=
  h.identity = t.identity && t.ownedFields.all fun f => h.values.agreeOn t.values f

/-! ## The remote table -/

/-- The holdings table. Record ids are unique; identities need not be. -/
structure HoldingsTable where
  /-- the rows -/
  rows : List Holding
  /-- record ids are unique -/
  nodup : (rows.map Holding.recordId).Nodup

namespace HoldingsTable

/-- The empty table. -/
def empty : HoldingsTable := ⟨[], List.nodup_nil⟩

/-- The rows of a list that share their identity with another row. -/
def duplicates (rows : List Holding) : List Holding :=
  rows.filter fun h => 1 < (rows.filter fun k => k.identity = h.identity).length

/-- The text of `HoldingsIntegrityError`. -/
def integrityError (bad : List Holding) : Error :=
  ⟨.holdingsIntegrity, "invalid holdings records: " ++
    ", ".intercalate (((bad.map Holding.recordId).dedup.insertionSort (· ≤ ·)).map toString)⟩

/-- `_convert_raw_holdings`: a slice with a duplicate identity is refused as a whole. -/
def convert (rows : List Holding) : Except Error (List Holding) :=
  if duplicates rows = [] then .ok rows else .error (integrityError (duplicates rows))

/-- `_read_fresh_holding_account_slice`. -/
def accountSlice (t : HoldingsTable) (account : String) : Except Error (List Holding) :=
  convert (t.rows.filter fun h => h.identity.account = account)

/-- `_find_holding_identity` in a slice without duplicates. -/
def findIdentity (rows : List Holding) (i : HoldingIdentity) : Option Holding :=
  rows.find? fun h => h.identity = i

/-- `get_holding_fresh`. -/
def getHoldingFresh (t : HoldingsTable) (assetId account broker : String) :
    Except Error (Option Holding) := do
  let i ← HoldingIdentity.make assetId account broker
  let fresh ← t.accountSlice i.account
  return findIdentity fresh i

/-- The CASH asset's currency, when the asset is one of the CASH assets. -/
def cashCurrency (assetId : String) : Option Currency :=
  Currency.all.find? fun c => c.cashAsset = assetId

/-- Why `get_cash_holdings_fresh` refuses a row; rows that are no CASH rows are passed over. -/
def cashRowRefused (h : Holding) : Bool :=
  if h.values.assetType = .cash then
    match cashCurrency h.identity.assetId with
    | none => true
    | some c => upper (strip h.values.currency) ≠ c.value
  else (cashCurrency (upper h.identity.assetId)).isSome

/-- The order of `get_cash_holdings_fresh`. -/
def cashOrder (a b : Holding) : Prop :=
  a.identity.account < b.identity.account ∨ a.identity.account = b.identity.account ∧
    (a.identity.broker < b.identity.broker ∨ a.identity.broker = b.identity.broker ∧
      a.identity.assetId ≤ b.identity.assetId)

instance : DecidableRel cashOrder := fun a b => by unfold cashOrder; infer_instance

/-- `get_cash_holdings_fresh`: the CASH rows of one account or of all, or an integrity error. -/
def getCashHoldingsFresh (t : HoldingsTable) (account : Option String) :
    Except Error (List Holding) :=
  match account with
  | some a =>
    if strip a = "" then .error (.value "account must not be blank")
    else select (t.rows.filter fun h => h.identity.account = strip a)
  | none => select t.rows
where
  /-- the validated selection from a complete raw scope -/
  select (rows : List Holding) : Except Error (List Holding) :=
    let selected := rows.filter fun h => h.values.assetType = .cash && !cashRowRefused h
    let bad := rows.filter cashRowRefused ++ duplicates selected
    if bad = [] then .ok (selected.insertionSort cashOrder) else .error (integrityError bad)

/-- A record id no row has. -/
def freshRecordId (t : HoldingsTable) : Nat := (t.rows.map Holding.recordId).sum + 1

theorem freshRecordId_notMem (t : HoldingsTable) :
    t.freshRecordId ∉ t.rows.map Holding.recordId := by
  intro h
  have hle := List.single_le_sum (fun _ _ => Nat.zero_le _) _ h
  unfold freshRecordId at hle
  omega

/-- `client.update_record`: write the owned fields of the row with a record id. -/
def updateRecord (t : HoldingsTable) (recordId : Nat) (target : HoldingTarget) (now : Date) :
    HoldingsTable where
  rows := t.rows.map fun h =>
    if h.recordId = recordId then
      { h with values := target.applyTo h.values, updatedAt := some now }
    else h
  nodup := by
    have hids : (t.rows.map fun h => if h.recordId = recordId then
        { h with values := target.applyTo h.values, updatedAt := some now } else h).map
          Holding.recordId = t.rows.map Holding.recordId := by
      rw [List.map_map]
      refine List.map_congr_left fun h _ => ?_
      simp only [Function.comp_apply]
      split <;> rfl
    rw [hids]
    exact t.nodup

/-- `client.create_record`: append a row with a fresh record id. The values a target does not own
are the neutral ones of an empty row, and the creation contract requires the target to have them. -/
def createRecord (t : HoldingsTable) (target : HoldingTarget) (now : Date) : HoldingsTable where
  rows := t.rows ++ [⟨t.freshRecordId, target.identity, target.values, some now, some now⟩]
  nodup := by
    rw [List.map_append, List.map_singleton]
    refine List.nodup_append.mpr ⟨t.nodup, List.nodup_singleton _, ?_⟩
    intro a ha b hb heq
    have hfresh : a = t.freshRecordId := heq.trans (List.mem_singleton.mp hb)
    exact freshRecordId_notMem t (hfresh ▸ ha)

/-- `_fresh_base_for_target`: the base row, when the fresh row is still the one the target is
bound to. -/
def freshBaseForTarget (t : HoldingsTable) (target : HoldingTarget) :
    Except Error (Option Holding) := do
  let conflict (message : String) : Error := ⟨.holdingMutationConflict, message⟩
  let fresh ← t.accountSlice target.identity.account
  match target.baseRecordId, findIdentity fresh target.identity with
  | none, some _ =>
    throw (conflict ("holding create base is no longer empty: " ++ target.identity.text))
  | none, none => return none
  | some _, none => throw (conflict ("holding base disappeared: " ++ target.identity.text))
  | some base, some current =>
    if current.recordId ≠ base then
      throw (conflict ("holding base record changed: expected=" ++ toString base ++ ", actual=" ++
        toString current.recordId))
    else if holdingStateDigest (some current) ≠ target.baseDigest then
      throw (conflict ("holding fresh base digest changed: " ++ target.identity.text))
    else return some current

/-- The remote write of `_apply_holding_target`, once the base was found fresh. -/
def writeTarget (t : HoldingsTable) (target : HoldingTarget) (now : Date) :
    Option Holding → HoldingsTable
  | some current => t.updateRecord current.recordId target now
  | none => t.createRecord target now

/-- `_prove_holding_targets_and_publish` for one target: the fresh row carries the owned fields. -/
def proveTarget (t : HoldingsTable) (target : HoldingTarget) : Except Error Unit := do
  let fresh ← t.accountSlice target.identity.account
  match findIdentity fresh target.identity with
  | none => throw ⟨.holdingMutationProof,
      "holding fresh readback is missing: " ++ target.identity.text⟩
  | some actual =>
    if holdingOwnedFieldsMatch actual target then return ()
    else throw ⟨.holdingMutationProof,
      "holding fresh readback disagrees with owned fields: identity=" ++ target.identity.text⟩

end HoldingsTable

/-! ## Bound targets -/

/-- The record and the digest a target is bound to. -/
theorem HoldingTarget.base_of_fromHoldings {base : Option Holding} {target : HoldingState}
    {fields : List HoldingField} {m : HoldingTarget}
    (h : HoldingTarget.fromHoldings base target fields = .ok m) :
    m.baseRecordId = base.map Holding.recordId ∧ m.baseDigest = holdingStateDigest base ∧
      m.identity = target.identity ∧ m.values = target.values ∧ m.ownedFields = fields ∧
      ∀ row, base = some row → target.identity = row.identity := by
  unfold HoldingTarget.fromHoldings at h
  cases base with
  | none =>
    cases h
    exact ⟨rfl, rfl, rfl, rfl, rfl, fun _ h => nomatch h⟩
  | some row =>
    simp only at h
    split_ifs at h with hid hfields
    cases h
    exact ⟨rfl, rfl, rfl, rfl, rfl, fun _ h => Option.some.inj h ▸ Classical.not_not.mp hid⟩

/-- A fresh base is the row the target was bound to. -/
theorem HoldingsTable.freshBase_eq {t : HoldingsTable} {m : HoldingTarget}
    {base base' : Option Holding} (hid : m.baseRecordId = base.map Holding.recordId)
    (hdigest : m.baseDigest = holdingStateDigest base)
    (h : t.freshBaseForTarget m = .ok base') : base' = base := by
  unfold freshBaseForTarget at h
  cases hslice : t.accountSlice m.identity.account with
  | error e => simp [hslice, bind, Except.bind] at h
  | ok rows =>
    simp only [hslice, bind, Except.bind] at h
    rw [hid] at h
    cases base with
    | none =>
      cases hfind : findIdentity rows m.identity with
      | none => simp [hfind, pure, Except.pure] at h; exact h.symm
      | some current => simp [hfind, throw, throwThe, MonadExceptOf.throw] at h
    | some row =>
      cases hfind : findIdentity rows m.identity with
      | none => simp [hfind, throw, throwThe, MonadExceptOf.throw] at h
      | some current =>
        simp only [hfind, Option.map_some, throw, throwThe, MonadExceptOf.throw] at h
        split_ifs at h with hrec hd
        cases h
        rw [hdigest] at hd
        exact Digest.of_injective (Classical.not_not.mp hd)

end PortfolioManagement
