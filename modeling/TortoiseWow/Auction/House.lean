import TortoiseWow.Lib.OrderedMap
import TortoiseWow.Lib.Run

/-!
An auction house: the auction entries on the heap and the three maps that point
to them, by auction id, by buyout price and by the account of the owner.
-/

namespace TortoiseWow.Auction

structure AuctionEntry where
  id : UInt32
  itemGuidLow : UInt32
  itemTemplate : UInt32
  owner : UInt32
  ownerAccount : UInt32
  startbid : UInt32
  bid : UInt32
  buyout : UInt32
  bidder : UInt32
  deposit : UInt32
  houseId : UInt32
  itemCount : UInt32 := 1
  depositTime : Nat := 0
  expireTime : Nat
  lockedIpAddress : String := ""
  deriving Repr, DecidableEq

/-- The place of an entry on the heap. -/
abbrev Ptr := Nat

/-- Allocated entries; `next` is beyond all that were ever allocated. -/
structure Heap where
  entry : Ptr → Option AuctionEntry := fun _ => none
  next : Ptr := 0

namespace Heap

def allocate (heap : Heap) (auction : AuctionEntry) : Ptr × Heap :=
  (heap.next, { entry := Function.update heap.entry heap.next (some auction)
                next := heap.next + 1 })

def modify (heap : Heap) (ptr : Ptr) (f : AuctionEntry → AuctionEntry) : Heap :=
  { heap with entry := Function.update heap.entry ptr ((heap.entry ptr).map f) }

def delete (heap : Heap) (ptr : Ptr) : Heap :=
  { heap with entry := Function.update heap.entry ptr none }

end Heap

structure AuctionHouseObject where
  orderedAuctionMap : Lib.MultiMap Nat Ptr := .empty
  accountAuctionMap : Lib.MultiMap Nat Ptr := .empty
  auctionsMap : Lib.OrderedMap Nat Ptr := .empty

namespace AuctionHouseObject

def getAuction (house : AuctionHouseObject) (id : UInt32) : Option Ptr :=
  house.auctionsMap.find? id.toNat

def getAccountAuctionCount (house : AuctionHouseObject) (accountId : UInt32) : Nat :=
  house.accountAuctionMap.count accountId.toNat

def addAuction (house : AuctionHouseObject) (ptr : Ptr) (auction : AuctionEntry) :
    AuctionHouseObject :=
  { auctionsMap := house.auctionsMap.assign auction.id.toNat ptr
    orderedAuctionMap := house.orderedAuctionMap.emplace auction.buyout.toNat ptr
    accountAuctionMap := house.accountAuctionMap.emplace auction.ownerAccount.toNat ptr }

def hasId (heap : Heap) (id : UInt32) (ptr : Ptr) : Bool :=
  match heap.entry ptr with
  | some auction => auction.id == id
  | none => false

def removeAuction (heap : Heap) (house : AuctionHouseObject) (auction : AuctionEntry) :
    AuctionHouseObject :=
  { orderedAuctionMap :=
      house.orderedAuctionMap.eraseFirst auction.buyout.toNat (hasId heap auction.id)
    accountAuctionMap :=
      house.accountAuctionMap.eraseFirst auction.ownerAccount.toNat (hasId heap auction.id)
    auctionsMap := house.auctionsMap.erase auction.id.toNat }

end AuctionHouseObject

structure HouseState where
  heap : Heap := {}
  house : AuctionHouseObject := {}

namespace HouseState

def addAuction (s : HouseState) (auction : AuctionEntry) : HouseState :=
  let (ptr, heap) := s.heap.allocate auction
  { heap, house := s.house.addAuction ptr auction }

def removeAuction (s : HouseState) (ptr : Ptr) : HouseState :=
  match s.heap.entry ptr with
  | some auction => { s with house := s.house.removeAuction s.heap auction }
  | none => s

def removeAllAuctions (s : HouseState) (accountId guidLow : UInt32) : HouseState :=
  let bounds := s.house.accountAuctionMap.equalRange accountId.toNat
  let deletableEntries := (bounds.map (·.2)).filter fun ptr =>
    match s.heap.entry ptr with
    | some auction => auction.owner == guidLow
    | none => false
  deletableEntries.foldl removeAuction s

def deleteEntry (s : HouseState) (ptr : Ptr) : HouseState :=
  { s with heap := s.heap.delete ptr }

def expireAuction (s : HouseState) (ptr : Ptr) : HouseState :=
  match s.heap.entry ptr with
  | some auction =>
      if s.house.getAuction auction.id = some ptr then (s.removeAuction ptr).deleteEntry ptr
      else s
  | none => s

def updateEntry (curTime : Nat) (s : HouseState) (ptr : Ptr) : HouseState :=
  match s.heap.entry ptr with
  | some auction =>
      let heap :=
        if auction.depositTime + 5 * 60 < curTime then
          s.heap.modify ptr fun auction => { auction with lockedIpAddress := "" }
        else s.heap
      let s := { s with heap }
      if auction.expireTime < curTime then s.expireAuction ptr else s
  | none => s

/-- The iterator moves on before its entry can be erased, and only that entry
is, so the loop visits the entries that were there at its start. -/
def update (s : HouseState) (curTime : Nat) : HouseState :=
  (s.house.auctionsMap.entries.map (·.2)).foldl (updateEntry curTime) s

def placeBid (s : HouseState) (ptr : Ptr) (bidder bid : UInt32) : HouseState :=
  { s with heap := s.heap.modify ptr fun auction => { auction with bidder, bid } }

end HouseState

/-- What callers do with a house. A caller that removes an auction has it from
GetAuction and deletes the entry afterwards. -/
inductive HouseEvent where
  | add (auction : AuctionEntry)
  | remove (id : UInt32)
  | removeAll (accountId guidLow : UInt32)
  | expire (id : UInt32)
  | update (curTime : Nat)
  | bid (id bidder bid : UInt32)
  deriving Repr, DecidableEq

namespace HouseState

def step (s : HouseState) : HouseEvent → HouseState
  | .add auction => s.addAuction auction
  | .remove id =>
      match s.house.getAuction id with
      | some ptr => (s.removeAuction ptr).deleteEntry ptr
      | none => s
  | .removeAll accountId guidLow => s.removeAllAuctions accountId guidLow
  | .expire id =>
      match s.house.getAuction id with
      | some ptr => s.expireAuction ptr
      | none => s
  | .update curTime => s.update curTime
  | .bid id bidder bid =>
      match s.house.getAuction id with
      | some ptr => s.placeBid ptr bidder bid
      | none => s

def run (s : HouseState) (events : List HouseEvent) : HouseState := Lib.run step s events

end HouseState

end TortoiseWow.Auction
