import PortfolioManagement.LocalCache.Prices

/-!
# The index caches

`LocalHoldingsIndexCache`, `LocalNavIndexCache` and `LocalCashFlowAggCache` keep dicts under names, of
holdings or of accounts, inside a dict with a version and the time of the save.
-/

namespace PortfolioManagement.LocalCache

open Json (display text)

/-- An operation of an index cache: a name gets a dict, or loses it. -/
inductive IndexOp
  /-- `upsert`, `set_account`, `upsert_nav_records` or `append_flow`, with the dict it makes -/
  | put (name : String) (payload : Dict) (flush : Bool)
  /-- `delete` -/
  | delete (name : String) (flush : Bool)

/-- The operations on the dict. -/
def performIndexOp : IndexOp → Dict → Option (Dict × Nat)
  | .put name payload _, d => some (d.set (codes name) ⟨.object payload.items, payload.canonical⟩, 1)
  | .delete name _, d =>
    if (getItem (codes name) d.items).isSome then
      some (withoutItems (fun key _ => key = codes name) d, 1)
    else none

/-- `_flush`. -/
def IndexOp.flushes : IndexOp → Bool
  | .put _ _ flush => flush
  | .delete _ flush => flush

/-- What `_save_unlocked` writes: the version, the time and the dict under its name. -/
def savedPayload (version : Nat) (name : String) (savedAt : Codes) (d : Dict) : Dict :=
  Dict.ofItems [(codes "version", ⟨.number (natLiteral version), isNumeral_natLiteral version⟩),
    (codes "saved_at", ⟨.string savedAt, trivial⟩), (codes name, ⟨.object d.items, d.canonical⟩)]

/-- `LocalHoldingsIndexCache._load_unlocked`: another version is not loaded. -/
def acceptHoldings (loaded : Json) : Json :=
  match loaded with
  | .object data =>
    match getItem (codes "version") data, getItem (codes "items") data with
    | some (.number version), some (.object items) =>
      if version = natLiteral 2 then .object items else .object []
    | _, _ => .object []
  | _ => .object []

/-- `_load_unlocked` of the account caches: a dict without accounts is loaded as it is. -/
def acceptAccounts (loaded : Json) : Json :=
  match loaded with
  | .object data =>
    match getItem (codes "accounts") data with
    | some (.object accounts) => .object accounts
    | _ => .object data
  | _ => .object []

/-- `LocalHoldingsIndexCache`. -/
def localHoldingsIndexCache : CacheClass where
  Op := IndexOp
  perform := performIndexOp
  flushes := IndexOp.flushes
  payload := savedPayload 2 "items"
  accept := acceptHoldings

/-- `LocalNavIndexCache`. -/
def localNavIndexCache : CacheClass where
  Op := IndexOp
  perform := performIndexOp
  flushes := IndexOp.flushes
  payload := savedPayload 1 "accounts"
  accept := acceptAccounts

/-- `LocalCashFlowAggCache`. -/
def localCashFlowAggCache : CacheClass where
  Op := IndexOp
  perform := performIndexOp
  flushes := IndexOp.flushes
  payload := savedPayload 1 "accounts"
  accept := acceptAccounts

/-- `k: dict(v)`. -/
def copyEntry : Codes × Json → Except ReadError (Codes × Members)
  | (key, .object entry) => .ok (key, entry)
  | _ => .error .typeError

/-- `load_all`. -/
def loadAll (d : Dict) : Except ReadError (List (Codes × Members)) := d.items.mapM copyEntry

/-- `get_account`: a copy of an account's dict. -/
def getAccount (account : String) (d : Dict) : Members :=
  match getItem (codes account) d.items with
  | some (.object data) => data
  | _ => []

end PortfolioManagement.LocalCache
