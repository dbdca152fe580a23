import TortoiseWow.Auction.House
import TortoiseWow.Player.Money

/-!
The auction houses with everything their operations move: purses, bags, mails,
the pool of auctioned items and the auction table. Handlers follow the source
check by check; floating-point amounts (the cut, the deposit, the duration) are
parameters of the configuration.
-/

namespace TortoiseWow.Auction

structure Item where
  guidLow : UInt32
  entry : UInt32
  bankPos : Bool := false
  canBeTraded : Bool := true
  soulBound : Bool := false
  conjured : Bool := false
  duration : UInt32 := 0
  deriving Repr, DecidableEq

structure Character where
  guidLow : UInt32
  accountId : UInt32
  online : Bool
  hardcore : Bool
  money : UInt32
  inventory : List Item
  deriving Repr, DecidableEq

structure Mail where
  receiver : UInt32
  money : UInt32
  items : List Item
  deriving Repr, DecidableEq

structure AuctionRow where
  id : UInt32
  houseid : UInt32
  itemguid : UInt32
  itemTemplate : UInt32
  itemowner : UInt32
  buyoutprice : UInt32
  time : Nat
  buyguid : UInt32
  lastbid : UInt32
  startbid : UInt32
  deposit : UInt32
  deriving Repr, DecidableEq

def AuctionEntry.row (auction : AuctionEntry) : AuctionRow where
  id := auction.id
  houseid := auction.houseId
  itemguid := auction.itemGuidLow
  itemTemplate := auction.itemTemplate
  itemowner := auction.owner
  buyoutprice := auction.buyout
  time := auction.expireTime
  buyguid := auction.bidder
  lastbid := auction.bid
  startbid := auction.startbid
  deposit := auction.deposit

/-- What the configuration and the data stores decide: the cut of a bid in a
house, the deposit, the duration, the limit of auctions per account, and which
object serves a house id. -/
structure Config where
  auctionCut : UInt32 → UInt32 → UInt32
  auctionDeposit : UInt32 → UInt32 → Item → UInt32
  auctionTime : UInt32 → UInt32
  accountConcurrentAuctionLimit : UInt32
  getAuctionsMap : UInt32 → Nat

def AuctionEntry.getAuctionCut (config : Config) (auction : AuctionEntry) : UInt32 :=
  config.auctionCut auction.houseId auction.bid

def AuctionEntry.getAuctionOutBid (auction : AuctionEntry) : UInt32 :=
  let outbid := auction.bid / 100 * 5
  if outbid = 0 then 1 else outbid

/-- `cuts` and `forfeited` record the cuts taken and the deposits of auctions that
were cancelled or ran out without a bid; `assertionFailed` is the assertion in
AddAItem. -/
structure World where
  characters : List Character
  heap : Heap := {}
  houses : List AuctionHouseObject
  aitems : List Item := []
  mails : List Mail := []
  auctionTable : List AuctionRow := []
  auctionsIds : List UInt32 := []
  nextAuctionId : UInt32 := 1
  cuts : Nat := 0
  forfeited : Nat := 0
  assertionFailed : Bool := false

namespace World

def character? (w : World) (guidLow : UInt32) : Option Character :=
  w.characters.find? (·.guidLow == guidLow)

def modifyCharacter (w : World) (guidLow : UInt32) (f : Character → Character) : World :=
  { w with characters := w.characters.map fun c => if c.guidLow = guidLow then f c else c }

def modifyMoney (w : World) (guidLow : UInt32) (amount : Int32) : World :=
  w.modifyCharacter guidLow fun c => { c with money := TortoiseWow.modifyMoney c.money amount }

def exists? (w : World) (guidLow : UInt32) : Bool :=
  match w.character? guidLow with
  | some c => c.online || c.accountId != 0
  | none => false

def isOnline (w : World) (guidLow : UInt32) : Bool :=
  match w.character? guidLow with
  | some c => c.online
  | none => false

def isHardcore (w : World) (guidLow : UInt32) : Bool :=
  match w.character? guidLow with
  | some c => c.hardcore
  | none => false

def getAItem (w : World) (guidLow : UInt32) : Option Item :=
  w.aitems.find? (·.guidLow == guidLow)

def addAItem (w : World) (item : Item) : World :=
  if (w.getAItem item.guidLow).isSome then { w with assertionFailed := true }
  else { w with aitems := w.aitems ++ [item] }

def removeAItem (w : World) (guidLow : UInt32) : World :=
  { w with aitems := w.aitems.filter (·.guidLow ≠ guidLow) }

def sendMail (w : World) (mail : Mail) : World := { w with mails := w.mails ++ [mail] }

/-- The first id from `next` on that is not taken, if the search stays below 2^32;
an increment beyond it wraps to 0 and ends the search. -/
def freeId (taken : List UInt32) : Nat → UInt32 → UInt32
  | 0, next => next
  | fuel + 1, next =>
      if next ∈ taken then
        if next + 1 = 0 then 0 else freeId taken fuel (next + 1)
      else next

def generateAuctionID (w : World) : UInt32 × World :=
  let id := freeId w.auctionsIds (w.auctionsIds.length + 1) w.nextAuctionId
  (id, { w with auctionsIds := id :: w.auctionsIds, nextAuctionId := id + 1 })

def freeAuctionID (w : World) (id : UInt32) : World :=
  { w with auctionsIds := w.auctionsIds.filter (· ≠ id) }

def onHouse (w : World) (i : Nat) (f : HouseState → HouseState) : World :=
  match w.houses[i]? with
  | some house =>
      let s := f { heap := w.heap, house }
      { w with heap := s.heap, houses := w.houses.set i s.house }
  | none => w

def getAuction (w : World) (i : Nat) (id : UInt32) : Option (Ptr × AuctionEntry) :=
  match w.houses[i]? with
  | some house =>
      match house.getAuction id with
      | some ptr => (w.heap.entry ptr).map fun auction => (ptr, auction)
      | none => none
  | none => none

def saveToDB (w : World) (auction : AuctionEntry) : World :=
  { w with auctionTable := w.auctionTable ++ [auction.row] }

def deleteFromDB (w : World) (auction : AuctionEntry) : World :=
  { w with auctionTable := w.auctionTable.filter (·.id ≠ auction.id) }

def removeAuction (w : World) (i : Nat) (ptr : Ptr) (auction : AuctionEntry) : World :=
  (w.onHouse i fun s => s.removeAuction ptr).freeAuctionID auction.id

def deleteEntry (w : World) (ptr : Ptr) : World := { w with heap := w.heap.delete ptr }

def refundBidder (w : World) (auction : AuctionEntry) : World :=
  if w.isHardcore auction.bidder then w
  else if w.exists? auction.bidder then
    w.sendMail { receiver := auction.bidder, money := auction.bid, items := [] }
  else w

/-- The item of an auction goes to a player by mail; it leaves the pool at once if
he is offline, and is destroyed if he cannot receive it. -/
def sendItemMail (w : World) (auction : AuctionEntry) (receiver : UInt32) : World :=
  match w.getAItem auction.itemGuidLow with
  | none => w
  | some item =>
      if w.exists? receiver && !w.isHardcore receiver then
        let w := if w.isOnline receiver then w else w.removeAItem item.guidLow
        w.sendMail { receiver, money := 0, items := [item] }
      else w.removeAItem item.guidLow

def sendAuctionWonMail (w : World) (auction : AuctionEntry) : World :=
  w.sendItemMail auction auction.bidder

def sendAuctionExpiredMail (w : World) (auction : AuctionEntry) : World :=
  w.sendItemMail auction auction.owner

def sendAuctionSuccessfulMail (config : Config) (w : World) (auction : AuctionEntry) : World :=
  if w.isHardcore auction.owner then w
  else if w.exists? auction.owner then
    let cut := auction.getAuctionCut config
    let w := w.sendMail
      { receiver := auction.owner, money := auction.bid + auction.deposit - cut, items := [] }
    { w with cuts := w.cuts + cut.toNat }
  else w

def settleExpired (config : Config) (w : World) (i : Nat) (ptr : Ptr) (auction : AuctionEntry) :
    World :=
  let w :=
    if auction.bidder = 0 then
      { w.sendAuctionExpiredMail auction with
        forfeited := w.forfeited + auction.deposit.toNat }
    else (w.sendAuctionSuccessfulMail config auction).sendAuctionWonMail auction
  let w := (w.deleteFromDB auction).removeAItem auction.itemGuidLow
  (w.removeAuction i ptr auction).deleteEntry ptr

def expireAuction (config : Config) (w : World) (i : Nat) (id : UInt32) : World :=
  match w.getAuction i id with
  | some (ptr, auction) => w.settleExpired config i ptr auction
  | none => w

def updateAuction (config : Config) (i : Nat) (curTime : Nat) (w : World) (id : UInt32) : World :=
  match w.getAuction i id with
  | some (ptr, auction) =>
      let w :=
        if auction.depositTime + 5 * 60 < curTime then
          w.onHouse i fun s =>
            { s with heap := s.heap.modify ptr fun auction =>
              { auction with lockedIpAddress := "" } }
        else w
      if auction.expireTime < curTime then w.expireAuction config i id else w
  | none => w

def update (config : Config) (w : World) (i : Nat) (curTime : Nat) : World :=
  match w.houses[i]? with
  | some house =>
      (house.auctionsMap.entries.map fun entry => UInt32.ofNat entry.1).foldl
        (updateAuction config i curTime) w
  | none => w

end World

/-- What a session brings to its requests. -/
structure Session where
  player : UInt32
  suspicious : Bool := false
  /-- A game master without the right to trade. -/
  tradesForbidden : Bool := false
  remoteAddress : String := ""
  deriving Repr, DecidableEq

namespace World

structure Listing where
  house : Nat
  houseId : UInt32
  pl : Character
  it : Item
  etime : UInt32
  deposit : UInt32
  deriving Repr, DecidableEq

/-- The checks of HandleAuctionSellItem, in the order of the source. -/
def checkListing (config : Config) (w : World) (session : Session) (house : Option UInt32)
    (itemGuid bid buyout etime : UInt32) : Option Listing := do
  let pl ← w.character? session.player
  guard pl.online
  guard (¬ (bid = 0 ∨ etime = 0 ∨ session.suspicious))
  guard (¬ (2000000000 < bid ∨ 2000000000 < buyout))
  guard (¬ (buyout ≠ 0 ∧ buyout < bid))
  guard (!session.tradesForbidden)
  let houseId ← house
  let i := config.getAuctionsMap houseId
  let auctionHouse ← w.houses[i]?
  let limit := config.accountConcurrentAuctionLimit
  guard (¬ (limit ≠ 0 ∧ limit.toNat ≤ auctionHouse.getAccountAuctionCount pl.accountId))
  let etime := etime * 60
  guard (etime = 7200 ∨ etime = 28800 ∨ etime = 86400)
  guard (itemGuid ≠ 0)
  guard (w.getAItem itemGuid).isNone
  let it ← pl.inventory.find? (·.guidLow == itemGuid)
  guard (!it.bankPos)
  guard (it.canBeTraded && !it.soulBound)
  guard (¬ (it.conjured ∨ it.duration ≠ 0))
  let deposit := config.auctionDeposit houseId etime it
  guard (¬ pl.money < deposit)
  pure { house := i, houseId, pl, it, etime, deposit }

def Listing.auction (config : Config) (listing : Listing) (session : Session)
    (bid buyout : UInt32) (now : Nat) (id : UInt32) : AuctionEntry where
  id
  itemGuidLow := listing.it.guidLow
  itemTemplate := listing.it.entry
  owner := listing.pl.guidLow
  ownerAccount := listing.pl.accountId
  startbid := bid
  bidder := 0
  bid := 0
  buyout
  lockedIpAddress := session.remoteAddress
  depositTime := now
  expireTime := now + (config.auctionTime listing.etime).toNat
  deposit := listing.deposit
  houseId := listing.houseId

def handleAuctionSellItem (config : Config) (w : World) (session : Session)
    (house : Option UInt32) (itemGuid bid buyout etime : UInt32) (now : Nat) : World :=
  match w.checkListing config session house itemGuid bid buyout etime with
  | none => w
  | some listing =>
      let pl := listing.pl
      let it := listing.it
      let w := w.modifyMoney pl.guidLow (-listing.deposit.toInt32)
      let (id, w) := w.generateAuctionID
      let auction := listing.auction config session bid buyout now id
      let w := w.onHouse listing.house fun s => s.addAuction auction
      let w := w.addAItem it
      let w := w.modifyCharacter pl.guidLow fun c =>
        { c with inventory := c.inventory.filter (·.guidLow ≠ it.guidLow) }
      w.saveToDB auction

def bidAccepted (w : World) (pl : Character) (auction : AuctionEntry) (price : UInt32) : Bool :=
  !(auction.owner == pl.guidLow) &&
  !(!w.isOnline auction.owner &&
    ((w.character? auction.owner).map (·.accountId)).getD 0 == pl.accountId) &&
  !(price < auction.startbid) &&
  !(price ≤ auction.bid) &&
  !((price < auction.buyout || auction.buyout == 0) &&
    price < auction.bid + auction.getAuctionOutBid) &&
  !(pl.money < price)

def chargeBid (w : World) (pl : Character) (auction : AuctionEntry) (price : UInt32) : World :=
  if pl.guidLow = auction.bidder then w.modifyMoney pl.guidLow (-(price - auction.bid).toInt32)
  else
    let w := w.modifyMoney pl.guidLow (-price.toInt32)
    if auction.bidder ≠ 0 then w.refundBidder auction else w

def setBid (w : World) (i : Nat) (ptr : Ptr) (bidder bid : UInt32) : World :=
  w.onHouse i fun s => s.placeBid ptr bidder bid

def checkBid (config : Config) (w : World) (session : Session) (house : Option UInt32)
    (auctionId price : UInt32) : Option (Character × Nat × Ptr × AuctionEntry) := do
  let pl ← w.character? session.player
  guard pl.online
  guard (!session.tradesForbidden)
  guard (¬ (auctionId = 0 ∨ price = 0))
  let houseId ← house
  guard (!session.suspicious)
  let i := config.getAuctionsMap houseId
  let (ptr, auction) ← w.getAuction i auctionId
  guard (w.bidAccepted pl auction price)
  pure (pl, i, ptr, auction)

def raiseBid (w : World) (pl : Character) (i : Nat) (ptr : Ptr) (auction : AuctionEntry)
    (price : UInt32) : World :=
  let w := w.chargeBid pl auction price
  let w := w.setBid i ptr pl.guidLow price
  { w with auctionTable := w.auctionTable.map fun row =>
      if row.id = auction.id then { row with buyguid := pl.guidLow, lastbid := price } else row }

def buyOut (config : Config) (w : World) (pl : Character) (i : Nat) (ptr : Ptr)
    (auction : AuctionEntry) : World :=
  let w := w.chargeBid pl auction auction.buyout
  let w := w.setBid i ptr pl.guidLow auction.buyout
  let auction := { auction with bidder := pl.guidLow, bid := auction.buyout }
  let w := (w.sendAuctionSuccessfulMail config auction).sendAuctionWonMail auction
  let w := (w.removeAItem auction.itemGuidLow).removeAuction i ptr auction
  (w.deleteFromDB auction).deleteEntry ptr

def handleAuctionPlaceBid (config : Config) (w : World) (session : Session)
    (house : Option UInt32) (auctionId price : UInt32) : World :=
  match w.checkBid config session house auctionId price with
  | none => w
  | some (pl, i, ptr, auction) =>
      if price < auction.buyout ∨ auction.buyout = 0 then w.raiseBid pl i ptr auction price
      else w.buyOut config pl i ptr auction

def checkCancel (config : Config) (w : World) (session : Session) (house : Option UInt32)
    (auctionId : UInt32) : Option (Character × Nat × Ptr × AuctionEntry × Item) := do
  let pl ← w.character? session.player
  guard pl.online
  let houseId ← house
  let i := config.getAuctionsMap houseId
  let (ptr, auction) ← w.getAuction i auctionId
  guard (auction.owner = pl.guidLow)
  let item ← w.getAItem auction.itemGuidLow
  guard (¬ (0 < auction.bidder ∧ pl.money < auction.getAuctionCut config))
  pure (pl, i, ptr, auction, item)

def payCancel (config : Config) (w : World) (pl : Character) (auction : AuctionEntry) : World :=
  if 0 < auction.bidder then
    let cut := auction.getAuctionCut config
    let w := (w.refundBidder auction).modifyMoney pl.guidLow (-cut.toInt32)
    { w with cuts := w.cuts + cut.toNat }
  else w

def handleAuctionRemoveItem (config : Config) (w : World) (session : Session)
    (house : Option UInt32) (auctionId : UInt32) : World :=
  match w.checkCancel config session house auctionId with
  | none => w
  | some (pl, i, ptr, auction, item) =>
      let w := w.payCancel config pl auction
      let w := w.sendMail { receiver := pl.guidLow, money := 0, items := [item] }
      let w := { w with forfeited := w.forfeited + auction.deposit.toNat }
      let w := (w.deleteFromDB auction).removeAItem auction.itemGuidLow
      (w.removeAuction i ptr auction).deleteEntry ptr

def deletableEntries (w : World) (i : Nat) (player : UInt32) : List Ptr :=
  match w.character? player, w.houses[i]? with
  | some pl, some house =>
      let bounds := house.accountAuctionMap.equalRange pl.accountId.toNat
      (bounds.map (·.2)).filter fun ptr =>
        match w.heap.entry ptr with
        | some auction => auction.owner == pl.guidLow
        | none => false
  | _, _ => []

/-- The entries stay allocated, and the items and rows where they are. -/
def removeAllAuctions (w : World) (i : Nat) (player : UInt32) : World :=
  (w.deletableEntries i player).foldl (fun w ptr =>
    match w.heap.entry ptr with
    | some auction => w.removeAuction i ptr auction
    | none => w) w

end World

inductive MarketEvent where
  | sell (session : Session) (house : Option UInt32) (itemGuid bid buyout etime : UInt32)
      (now : Nat)
  | placeBid (session : Session) (house : Option UInt32) (auctionId price : UInt32)
  | cancel (session : Session) (house : Option UInt32) (auctionId : UInt32)
  | expire (house : Nat) (auctionId : UInt32)
  | update (house : Nat) (curTime : Nat)
  | removeAll (house : Nat) (player : UInt32)
  | status (guidLow : UInt32) (online hardcore : Bool)
  deriving Repr, DecidableEq

def World.step (config : Config) (w : World) : MarketEvent → World
  | .sell session house itemGuid bid buyout etime now =>
      w.handleAuctionSellItem config session house itemGuid bid buyout etime now
  | .placeBid session house auctionId price =>
      w.handleAuctionPlaceBid config session house auctionId price
  | .cancel session house auctionId => w.handleAuctionRemoveItem config session house auctionId
  | .expire house auctionId => w.expireAuction config house auctionId
  | .update house curTime => w.update config house curTime
  | .removeAll house player => w.removeAllAuctions house player
  | .status guidLow online hardcore =>
      w.modifyCharacter guidLow fun c => { c with online, hardcore }

def World.run (config : Config) (w : World) (events : List MarketEvent) : World :=
  Lib.run (World.step config) w events

end TortoiseWow.Auction
