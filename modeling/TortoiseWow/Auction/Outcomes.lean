import TortoiseWow.Auction.Live

/-!
What the handlers and the expiry can do to the world: each either leaves it alone
or takes it to one explicit state, under the facts its checks established.
-/

namespace TortoiseWow.Auction

namespace World

theorem character?_guidLow {w : World} {guidLow : UInt32} {c : Character}
    (h : w.character? guidLow = some c) : c.guidLow = guidLow := by
  simpa using List.find?_some h

theorem getAItem_guidLow {w : World} {guidLow : UInt32} {item : Item}
    (h : w.getAItem guidLow = some item) : item.guidLow = guidLow := by
  simpa using List.find?_some h

def HasFreeId (w : World) : Prop := ∃ id, w.nextAuctionId ≤ id ∧ id ∉ w.auctionsIds

theorem freeId_not_mem {taken : List UInt32} {fuel : Nat} {next : UInt32}
    (hfree : ∃ id, next ≤ id ∧ id ∉ taken)
    (hfuel : (taken.filter fun id => decide (next ≤ id)).length < fuel) :
    freeId taken fuel next ∉ taken := by
  induction fuel generalizing next with
  | zero => exact absurd hfuel (Nat.not_lt_zero _)
  | succ fuel ih =>
      unfold freeId
      split
      case isFalse hnew => exact hnew
      case isTrue htaken =>
        obtain ⟨id, hle, hid⟩ := hfree
        have hlt : next.toNat < id.toNat := by
          refine Nat.lt_of_le_of_ne (UInt32.le_iff_toNat_le.mp hle) ?_
          intro hsame
          exact hid (UInt32.toNat_inj.mp hsame ▸ htaken)
        have hnext : (next + 1).toNat = next.toNat + 1 := by
          rw [UInt32.toNat_add]
          exact Nat.mod_eq_of_lt (Nat.lt_of_le_of_lt hlt id.toNat_lt)
        split
        case isTrue hzero =>
          rw [hzero] at hnext
          cases hnext
        case isFalse =>
          refine ih ⟨id, ?_, hid⟩ ?_
          · rw [UInt32.le_iff_toNat_le, hnext]
            exact hlt
          · -- the id just met no longer counts
            refine Nat.lt_of_lt_of_le ?_ (Nat.le_of_lt_succ hfuel)
            have hsub : (taken.filter fun id => decide (next + 1 ≤ id)) =
                (taken.filter fun id => decide (next ≤ id)).filter
                  fun id => decide (next + 1 ≤ id) := by
              rw [List.filter_filter]
              refine List.filter_congr ?_
              intro x _
              have himp : next + 1 ≤ x → next ≤ x := by
                rw [UInt32.le_iff_toNat_le, UInt32.le_iff_toNat_le, hnext]
                omega
              simpa using himp
            rw [hsub]
            refine List.length_filter_lt_length_iff_exists.mpr ⟨next, ?_, ?_⟩
            · simp [htaken]
            · rw [decide_eq_true_eq, UInt32.le_iff_toNat_le, hnext]
              omega

theorem generateAuctionID_free {w : World} (h : w.HasFreeId) :
    w.generateAuctionID.1 ∉ w.auctionsIds :=
  freeId_not_mem h (Nat.lt_succ_of_le (List.length_filter_le _ _))

/-- What the checks of a listing establish. -/
structure Sold (config : Config) (w : World) (bid buyout : UInt32) (listing : Listing) : Prop where
  player : w.character? listing.pl.guidLow = some listing.pl
  house : ∃ house, w.houses[listing.house]? = some house
  item : listing.it ∈ listing.pl.inventory
  unlisted : w.getAItem listing.it.guidLow = none
  covered : ¬ listing.pl.money < listing.deposit
  priced : buyout ≠ 0 → bid ≤ buyout
  positive : bid ≠ 0

theorem checkListing_some {config : Config} {w : World} {session : Session}
    {house : Option UInt32} {itemGuid bid buyout etime : UInt32} {listing : Listing}
    (h : w.checkListing config session house itemGuid bid buyout etime = some listing) :
    Sold config w bid buyout listing := by
  simp only [checkListing, Option.bind_eq_bind, Option.bind_eq_some_iff, Option.guard_eq_some',
    Option.pure_def, Option.some.injEq, exists_and_left, exists_const] at h
  obtain ⟨pl, hplayer, -, hbid, -, hprice, -, houseId, -, house', hhouse, -, -, -, hunlisted, it,
    hitem, -, -, -, hcovered, rfl⟩ := h
  have hguid : it.guidLow = itemGuid := by simpa using List.find?_some hitem
  refine ⟨?_, ⟨house', hhouse⟩, List.mem_of_find?_eq_some hitem, ?_, hcovered, ?_, ?_⟩
  · exact (character?_guidLow hplayer) ▸ hplayer
  · rw [hguid]
    exact Option.isNone_iff_eq_none.mp hunlisted
  · intro hne
    refine UInt32.le_iff_toNat_le.mpr (Nat.le_of_not_lt fun hlt => hprice ⟨hne, ?_⟩)
    exact UInt32.lt_iff_toNat_lt.mpr hlt
  · exact fun hzero => hbid (Or.inl hzero)

theorem handleAuctionSellItem_eq {config : Config} {w : World} {session : Session}
    {house : Option UInt32} {itemGuid bid buyout etime : UInt32} {listing : Listing}
    (h : w.checkListing config session house itemGuid bid buyout etime = some listing)
    {auctionHouse : AuctionHouseObject}
    (hhouse : w.houses[listing.house]? = some auctionHouse) (now : Nat) :
    w.handleAuctionSellItem config session house itemGuid bid buyout etime now =
      let auction := listing.auction config session bid buyout now w.generateAuctionID.1
      { w with
        characters := ((w.modifyMoney listing.pl.guidLow
          (-listing.deposit.toInt32)).modifyCharacter listing.pl.guidLow fun c =>
            { c with
              inventory := c.inventory.filter (·.guidLow ≠ listing.it.guidLow) }).characters
        heap := (w.heap.allocate auction).2
        houses := w.houses.set listing.house (auctionHouse.addAuction w.heap.next auction)
        aitems := w.aitems ++ [listing.it]
        auctionTable := w.auctionTable ++ [auction.row]
        auctionsIds := auction.id :: w.auctionsIds
        nextAuctionId := auction.id + 1 } := by
  have hunlisted := (checkListing_some h).unlisted
  unfold getAItem at hunlisted
  simp only [handleAuctionSellItem, h, generateAuctionID, modifyMoney, modifyCharacter, onHouse,
    hhouse, addAItem, getAItem, hunlisted, saveToDB, HouseState.addAuction, Heap.allocate]
  rfl

theorem checkBid_some {config : Config} {w : World} {session : Session} {house : Option UInt32}
    {auctionId price : UInt32} {pl : Character} {i : Nat} {ptr : Ptr} {auction : AuctionEntry}
    (h : w.checkBid config session house auctionId price = some (pl, i, ptr, auction)) :
    w.character? session.player = some pl ∧ w.getAuction i auctionId = some (ptr, auction) ∧
      w.bidAccepted pl auction price = true := by
  simp only [checkBid, Option.bind_eq_bind, Option.bind_eq_some_iff, Option.guard_eq_some',
    Option.pure_def, Option.some.injEq, exists_and_left, exists_const, Prod.exists,
    Prod.mk.injEq] at h
  obtain ⟨pl', hplayer, -, -, -, houseId, -, -, ptr', auction', hget, haccepted, rfl, rfl, rfl,
    rfl⟩ := h
  exact ⟨hplayer, hget, haccepted⟩

theorem Sound.found_of_checkBid {config : Config} {w : World} (hsound : w.Sound)
    {session : Session} {house : Option UInt32} {auctionId price : UInt32} {pl : Character}
    {i : Nat} {ptr : Ptr} {auction : AuctionEntry}
    (h : w.checkBid config session house auctionId price = some (pl, i, ptr, auction)) :
    ∃ house, Found w i house ptr auction :=
  (hsound.getAuction (checkBid_some h).2.1).2

theorem checkCancel_some {config : Config} {w : World} {session : Session}
    {house : Option UInt32} {auctionId : UInt32} {pl : Character} {i : Nat} {ptr : Ptr}
    {auction : AuctionEntry} {item : Item}
    (h : w.checkCancel config session house auctionId = some (pl, i, ptr, auction, item)) :
    w.character? session.player = some pl ∧ w.getAuction i auctionId = some (ptr, auction) ∧
      w.getAItem auction.itemGuidLow = some item ∧
      ¬ (0 < auction.bidder ∧ pl.money < auction.getAuctionCut config) := by
  simp only [checkCancel, Option.bind_eq_bind, Option.bind_eq_some_iff, Option.guard_eq_some',
    Option.pure_def, Option.some.injEq, exists_and_left, exists_const, Prod.exists,
    Prod.mk.injEq] at h
  obtain ⟨pl', hplayer, -, houseId, -, ptr', auction', hget, -, item', hitem, hcovered, rfl, rfl,
    rfl, rfl, rfl⟩ := h
  exact ⟨hplayer, hget, hitem, hcovered⟩

theorem Sound.found_of_checkCancel {config : Config} {w : World} (hsound : w.Sound)
    {session : Session} {house : Option UInt32} {auctionId : UInt32} {pl : Character} {i : Nat}
    {ptr : Ptr} {auction : AuctionEntry} {item : Item}
    (h : w.checkCancel config session house auctionId = some (pl, i, ptr, auction, item)) :
    ∃ house, Found w i house ptr auction ∧ w.getAItem auction.itemGuidLow = some item := by
  obtain ⟨-, hget, hitem, -⟩ := checkCancel_some h
  obtain ⟨house, hfound⟩ := (hsound.getAuction hget).2
  exact ⟨house, hfound, hitem⟩

theorem chargeBid_eq (w : World) (pl : Character) (auction : AuctionEntry) (price : UInt32) :
    w.chargeBid pl auction price = { w with
      characters := (w.chargeBid pl auction price).characters
      mails := (w.chargeBid pl auction price).mails } := by
  simp only [chargeBid, refundBidder, sendMail, modifyMoney, modifyCharacter]
  split
  · rfl
  · split
    · split
      · rfl
      · split <;> rfl
    · rfl

theorem sendItemMail_eq (w : World) (auction : AuctionEntry) (receiver : UInt32) :
    w.sendItemMail auction receiver = { w with
      aitems := (w.sendItemMail auction receiver).aitems
      mails := (w.sendItemMail auction receiver).mails } := by
  simp only [sendItemMail, sendMail, removeAItem]
  split
  · rfl
  · split
    · split <;> rfl
    · rfl

theorem sendAuctionSuccessfulMail_eq (config : Config) (w : World) (auction : AuctionEntry) :
    w.sendAuctionSuccessfulMail config auction = { w with
      mails := (w.sendAuctionSuccessfulMail config auction).mails
      cuts := (w.sendAuctionSuccessfulMail config auction).cuts } := by
  simp only [sendAuctionSuccessfulMail, sendMail]
  split
  · rfl
  · split <;> rfl

theorem payCancel_eq (config : Config) (w : World) (pl : Character) (auction : AuctionEntry) :
    w.payCancel config pl auction = { w with
      characters := (w.payCancel config pl auction).characters
      mails := (w.payCancel config pl auction).mails
      cuts := (w.payCancel config pl auction).cuts } := by
  simp only [payCancel, refundBidder, sendMail, modifyMoney, modifyCharacter]
  split
  · split
    · rfl
    · split <;> rfl
  · rfl

/-- The item leaves the pool at the latest with the auction, and is mailed or
destroyed. -/
theorem sendItemMail_items (w : World) (auction : AuctionEntry) (receiver : UInt32) :
    (w.sendItemMail auction receiver).aitems.filter (·.guidLow ≠ auction.itemGuidLow) =
        w.aitems.filter (·.guidLow ≠ auction.itemGuidLow) ∧
      ((w.sendItemMail auction receiver).mails.flatMap (·.items) = w.mails.flatMap (·.items) ∨
        ∃ item, w.getAItem auction.itemGuidLow = some item ∧
          (w.sendItemMail auction receiver).mails.flatMap (·.items) =
            w.mails.flatMap (·.items) ++ [item]) := by
  unfold sendItemMail
  cases hitem : w.getAItem auction.itemGuidLow with
  | none => exact ⟨rfl, Or.inl rfl⟩
  | some item =>
      have hguid := getAItem_guidLow hitem
      have hfilter : (w.aitems.filter (·.guidLow ≠ item.guidLow)).filter
          (·.guidLow ≠ auction.itemGuidLow) =
            w.aitems.filter (·.guidLow ≠ auction.itemGuidLow) := by
        rw [hguid, List.filter_filter]
        simp
      dsimp only
      split
      · split
        · exact ⟨rfl, Or.inr ⟨item, rfl, by simp [sendMail]⟩⟩
        · exact ⟨hfilter, Or.inr ⟨item, rfl, by simp [sendMail, removeAItem]⟩⟩
      · exact ⟨hfilter, Or.inl rfl⟩

def closed (w : World) (i : Nat) (house : AuctionHouseObject) (ptr : Ptr)
    (auction : AuctionEntry) : World :=
  { w with
    heap := w.heap.delete ptr
    houses := w.houses.set i (house.removeAuction w.heap auction)
    auctionsIds := w.auctionsIds.filter (· ≠ auction.id)
    auctionTable := w.auctionTable.filter (·.id ≠ auction.id)
    aitems := w.aitems.filter (·.guidLow ≠ auction.itemGuidLow) }

section Closed

variable {w : World} {i : Nat} {house : AuctionHouseObject} {ptr : Ptr} {auction : AuctionEntry}

theorem Found.congr {w' : World} (hfound : Found w i house ptr auction)
    (hheap : w'.heap = w.heap) (hhouses : w'.houses = w.houses) :
    Found w' i house ptr auction :=
  ⟨hhouses ▸ hfound.here, hfound.entry, hheap ▸ hfound.heap⟩

theorem Found.close (hfound : Found w i house ptr auction) :
    (((w.deleteFromDB auction).removeAItem auction.itemGuidLow).removeAuction i ptr
      auction).deleteEntry ptr = w.closed i house ptr auction := by
  simp only [deleteFromDB, removeAItem, removeAuction, onHouse, hfound.here, freeAuctionID,
    deleteEntry, HouseState.removeAuction, hfound.heap]
  rfl

theorem Found.closeBought (hfound : Found w i house ptr auction) :
    ((((w.removeAItem auction.itemGuidLow).removeAuction i ptr auction).deleteFromDB
      auction).deleteEntry ptr) = w.closed i house ptr auction := by
  simp only [deleteFromDB, removeAItem, removeAuction, onHouse, hfound.here, freeAuctionID,
    deleteEntry, HouseState.removeAuction, hfound.heap]
  rfl

def expired (config : Config) (w : World) (auction : AuctionEntry) : World :=
  if auction.bidder = 0 then
    { w.sendAuctionExpiredMail auction with forfeited := w.forfeited + auction.deposit.toNat }
  else (w.sendAuctionSuccessfulMail config auction).sendAuctionWonMail auction

theorem expired_eq (config : Config) (w : World) (auction : AuctionEntry) :
    w.expired config auction = { w with
      aitems := (w.expired config auction).aitems
      mails := (w.expired config auction).mails
      cuts := (w.expired config auction).cuts
      forfeited := (w.expired config auction).forfeited } := by
  simp only [expired, sendAuctionExpiredMail, sendAuctionWonMail]
  split
  · rw [sendItemMail_eq]
  · rw [sendItemMail_eq, sendAuctionSuccessfulMail_eq]

theorem Found.settleExpired (config : Config) (hfound : Found w i house ptr auction) :
    w.settleExpired config i ptr auction =
      (w.expired config auction).closed i house ptr auction := by
  have hexpired : Found (w.expired config auction) i house ptr auction := by
    refine hfound.congr ?_ ?_
    · rw [expired_eq]
    · rw [expired_eq]
  exact hexpired.close

def withBid (auction : AuctionEntry) (bidder bid : UInt32) : AuctionEntry :=
  { auction with bidder, bid }

theorem set_self {α : Type} {l : List α} {i : Nat} {x : α} (h : l[i]? = some x) :
    l.set i x = l := by
  obtain ⟨hlt, hget⟩ := List.getElem?_eq_some_iff.mp h
  rw [← hget]
  exact List.set_getElem_self hlt

theorem Found.setBid (hfound : Found w i house ptr auction) (bidder bid : UInt32) :
    w.setBid i ptr bidder bid =
      { w with heap := w.heap.modify ptr (withBid · bidder bid) } := by
  simp only [World.setBid, onHouse, hfound.here, HouseState.placeBid, set_self hfound.here]
  rfl

def bought (config : Config) (w : World) (pl : Character) (ptr : Ptr) (auction : AuctionEntry) :
    World :=
  let w := w.chargeBid pl auction auction.buyout
  let w := { w with heap := w.heap.modify ptr (withBid · pl.guidLow auction.buyout) }
  (w.sendAuctionSuccessfulMail config
    (withBid auction pl.guidLow auction.buyout)).sendAuctionWonMail
    (withBid auction pl.guidLow auction.buyout)

theorem bought_eq (config : Config) (w : World) (pl : Character) (ptr : Ptr)
    (auction : AuctionEntry) : w.bought config pl ptr auction = { w with
      characters := (w.chargeBid pl auction auction.buyout).characters
      heap := w.heap.modify ptr (withBid · pl.guidLow auction.buyout)
      aitems := (w.bought config pl ptr auction).aitems
      mails := (w.bought config pl ptr auction).mails
      cuts := (w.bought config pl ptr auction).cuts } := by
  unfold bought sendAuctionWonMail
  dsimp only
  rw [sendItemMail_eq, sendAuctionSuccessfulMail_eq, chargeBid_eq]

theorem Found.bought (config : Config) (hfound : Found w i house ptr auction) (pl : Character) :
    Found (w.bought config pl ptr auction) i house ptr
      (withBid auction pl.guidLow auction.buyout) := by
  rw [bought_eq]
  refine ⟨hfound.here, hfound.entry, ?_⟩
  simp [Heap.modify, hfound.heap]

theorem Found.buyOut (config : Config) (hfound : Found w i house ptr auction) (pl : Character) :
    w.buyOut config pl i ptr auction =
      (w.bought config pl ptr auction).closed i house ptr
        (withBid auction pl.guidLow auction.buyout) := by
  rw [← Found.closeBought (hfound.bought config pl)]
  have hcharged : Found (w.chargeBid pl auction auction.buyout) i house ptr auction := by
    refine hfound.congr ?_ ?_
    · rw [chargeBid_eq]
    · rw [chargeBid_eq]
  unfold World.buyOut
  dsimp only
  rw [hcharged.setBid]
  rfl

def cancelled (config : Config) (w : World) (pl : Character) (auction : AuctionEntry)
    (item : Item) : World :=
  let w := w.payCancel config pl auction
  let w := w.sendMail { receiver := pl.guidLow, money := 0, items := [item] }
  { w with forfeited := w.forfeited + auction.deposit.toNat }

theorem cancelled_eq (config : Config) (w : World) (pl : Character) (auction : AuctionEntry)
    (item : Item) : w.cancelled config pl auction item = { w with
      characters := (w.payCancel config pl auction).characters
      mails := (w.payCancel config pl auction).mails ++
        [{ receiver := pl.guidLow, money := 0, items := [item] }]
      cuts := (w.payCancel config pl auction).cuts
      forfeited := w.forfeited + auction.deposit.toNat } := by
  unfold World.cancelled sendMail
  rw [payCancel_eq]

theorem Found.cancelled (config : Config) (hfound : Found w i house ptr auction) (pl : Character)
    (item : Item) : Found (w.cancelled config pl auction item) i house ptr auction := by
  refine hfound.congr ?_ ?_
  · rw [cancelled_eq]
  · rw [cancelled_eq]

theorem handleAuctionRemoveItem_eq {config : Config} {session : Session}
    {houseId : Option UInt32} {auctionId : UInt32} {pl : Character} {item : Item}
    (h : w.checkCancel config session houseId auctionId = some (pl, i, ptr, auction, item))
    (hfound : Found w i house ptr auction) :
    w.handleAuctionRemoveItem config session houseId auctionId =
      (w.cancelled config pl auction item).closed i house ptr auction := by
  rw [← Found.close (hfound.cancelled config pl item)]
  simp only [handleAuctionRemoveItem, h]
  rfl

end Closed

end World

end TortoiseWow.Auction
