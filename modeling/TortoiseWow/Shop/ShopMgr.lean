import Mathlib
import TortoiseWow.Lib.Run

/-!
Purchases of the shop: the statements of BuyItem as the one worker executes them, the
tasks that hand the item out or refund it, the asynchronous statements of GetBalance
and of refunds, and credits from elsewhere.
-/

namespace TortoiseWow.Shop

/-- A charge of the worker, named by its id in `shop_logs`. -/
structure Purchase where
  shopId : UInt32
  accountId : UInt32
  guidLow : UInt32
  itemId : UInt32
  price : UInt32
  deriving DecidableEq

def Purchase.cost (p : Purchase) : Int := p.price.toNat

/-- Where the worker stands in `BuyItem`: before each of its statements. -/
inductive Worker where
  | idle
  | getBalance (accountId guidLow itemId price : UInt32)
  | updateCoins (p : Purchase) (newBalance : Int)
  | insertLog (p : Purchase) (newBalance : Int)
  | checkBalance (p : Purchase) (newBalance : Int)

/-- Statements for the asynchronous connection. -/
inductive AsyncStatement where
  /-- Refused when the row is there. -/
  | insertRow (accountId : UInt32)
  | refund (p : Purchase)

/-- The rows of `shop_coins`, the worker, `m_maxShopEntry` and `refunded` of the entries by shop id,
the tasks of the world thread and the asynchronous statements. The other fields are a record:
credits by account, and the purchases that were charged, stored, refunded or reported as failed. -/
structure ShopMgr where
  coins : UInt32 → Option Int
  worker : Worker
  maxShopEntry : UInt32
  entries : UInt32 → Option Bool
  tasks : List Purchase
  pending : List AsyncStatement
  credits : UInt32 → Int
  charged : List Purchase
  stored : List Purchase
  refunded : List Purchase
  failed : List UInt32

def getInt32 (coins : Int) : Int := (Int32.ofInt coins).toInt

def intMax : Int := 2147483647

namespace ShopMgr

variable (s : ShopMgr)

def getBalance (accountId : UInt32) (ok : Bool) : Int × ShopMgr :=
  match s.coins accountId, ok with
  | some coins, true => (getInt32 coins, s)
  | _, _ => (0, { s with pending := s.pending ++ [.insertRow accountId] })

def updateCoins (accountId : UInt32) (f : Int → Int) : ShopMgr :=
  { s with coins := fun other =>
    if other = accountId then (s.coins other).map f else s.coins other }

/-- The purchase ends with the message that it could not be processed. -/
def fail (p : Purchase) : ShopMgr :=
  { s with worker := .idle, failed := s.failed ++ [p.shopId] }

def startPurchase (accountId guidLow itemId price : UInt32) (ok : Bool) : ShopMgr :=
  let (coins, s) := s.getBalance accountId ok
  if coins > 0 then
    let newBalance := coins - price.toNat
    if newBalance ≥ 0 ∧ newBalance < intMax then
      let shopId := s.maxShopEntry + 1
      { s with
        maxShopEntry := shopId
        worker := .updateCoins ⟨shopId, accountId, guidLow, itemId, price⟩ newBalance }
    else { s with worker := .idle }
  else { s with worker := .idle }

def charge (p : Purchase) (newBalance : Int) (ok : Bool) : ShopMgr :=
  if ok then
    { s.updateCoins p.accountId (fun _ => newBalance) with
      worker := .insertLog p newBalance
      charged := s.charged ++ [p] }
  else s.fail p

def logPurchase (p : Purchase) (newBalance : Int) (ok : Bool) : ShopMgr :=
  if ok then { s with worker := .checkBalance p newBalance }
  else s.fail p

def finishPurchase (p : Purchase) (newBalance : Int) (ok : Bool) : ShopMgr :=
  let (coins, s) := s.getBalance p.accountId ok
  if coins ≠ newBalance then s.fail p
  else
    { s with
      worker := .idle
      entries := fun id => if id = p.shopId then some false else s.entries id
      tasks := s.tasks ++ [p] }

/-- A task of the world thread: the item goes into the bags of the player, or is refunded. -/
def sendItem (index : Nat) (stores : Bool) : ShopMgr :=
  match s.tasks[index]? with
  | none => s
  | some p =>
      if stores then { s with tasks := s.tasks.eraseIdx index, stored := s.stored ++ [p] }
      else if s.entries p.shopId = some false then
        { s with
          tasks := s.tasks.eraseIdx index
          entries := fun id => if id = p.shopId then some true else s.entries id
          pending := s.pending ++ [.refund p] }
      else s -- an assertion of RefundPurchase fails

def executeAsync (index : Nat) : ShopMgr :=
  match s.pending[index]? with
  | none => s
  | some (.insertRow accountId) =>
      { s with
        pending := s.pending.eraseIdx index
        coins := fun other =>
          if other = accountId then some ((s.coins other).getD 0) else s.coins other }
  | some (.refund p) =>
      { s.updateCoins p.accountId (· + p.cost) with
        pending := s.pending.eraseIdx index
        refunded := s.refunded ++ [p] }

def credit (accountId : UInt32) (x : Int) : ShopMgr :=
  match s.coins accountId with
  | none => s
  | some _ =>
      { s.updateCoins accountId (· + x) with
        credits := fun other => if other = accountId then s.credits other + x else s.credits other }

end ShopMgr

/-- `ok` tells that a statement of the worker does not fail. Tasks and asynchronous statements are
run in any order. -/
inductive Event where
  | buyItem (accountId guidLow itemId : UInt32) (price : Option UInt32)
  | sendBalance (accountId : UInt32) (ok : Bool)
  | next (ok : Bool)
  | sendItem (index : Nat) (stores : Bool)
  | executeAsync (index : Nat)
  | credit (accountId : UInt32) (x : Int)

namespace ShopMgr

def step (s : ShopMgr) : Event → ShopMgr
  | .buyItem accountId guidLow itemId price =>
      match s.worker, price with
      | .idle, some price => { s with worker := .getBalance accountId guidLow itemId price }
      | _, _ => s
  | .sendBalance accountId ok =>
      match s.worker with
      | .idle => (s.getBalance accountId ok).2
      | _ => s
  | .next ok =>
      match s.worker with
      | .idle => s
      | .getBalance accountId guidLow itemId price =>
          s.startPurchase accountId guidLow itemId price ok
      | .updateCoins p newBalance => s.charge p newBalance ok
      | .insertLog p newBalance => s.logPurchase p newBalance ok
      | .checkBalance p newBalance => s.finishPurchase p newBalance ok
  | .sendItem index stores => s.sendItem index stores
  | .executeAsync index => s.executeAsync index
  | .credit accountId x => s.credit accountId x

end ShopMgr

def start (coins : UInt32 → Option Int) (maxShopEntry : UInt32) : ShopMgr where
  coins := coins
  worker := .idle
  maxShopEntry := maxShopEntry
  entries _ := none
  tasks := []
  pending := []
  credits _ := 0
  charged := []
  stored := []
  refunded := []
  failed := []

end TortoiseWow.Shop
