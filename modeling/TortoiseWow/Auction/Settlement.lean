import TortoiseWow.Auction.Copper

/-!
The arithmetic of a settled auction: the cut of the highest bid, whose percentage is
taken by a uint32 product, and what the owner gets. The rates are 1 and the float step
is exact.
-/

namespace TortoiseWow.Auction

structure AuctionHouseEntry where
  cutPercent : UInt32
  positive : 1 ≤ cutPercent
  bounded : cutPercent ≤ 15

/-- uint32(cutPercent * bid * rate / 100.0f) at rate 1: the first product is one of two
uint32. -/
def cutOf (cutPercent bid : UInt32) : UInt32 :=
  UInt32.ofNat ⌊((cutPercent * bid).toNat : ℚ) * 1 / 100⌋₊

theorem cutOf_toNat (cutPercent bid : UInt32) :
    (cutOf cutPercent bid).toNat = cutPercent.toNat * bid.toNat % 2 ^ 32 / 100 := by
  have floor : ⌊((cutPercent * bid).toNat : ℚ) * 1 / 100⌋₊ = (cutPercent * bid).toNat / 100 := by
    rw [mul_one]
    exact_mod_cast Nat.floor_div_eq_div (K := ℚ) (cutPercent * bid).toNat 100
  have below : (cutPercent * bid).toNat / 100 < UInt32.size :=
    Nat.lt_of_le_of_lt (Nat.div_le_self _ _) (UInt32.toNat_lt_size _)
  rw [cutOf, floor, UInt32.toNat_ofNat_of_lt' below, UInt32.toNat_mul]

section Arithmetic

variable (entry : AuctionHouseEntry)

theorem cutOf_exact_iff (bid : UInt32) :
    (cutOf entry.cutPercent bid).toNat = entry.cutPercent.toNat * bid.toNat / 100 ↔
      entry.cutPercent.toNat * bid.toNat < 2 ^ 32 := by
  rw [cutOf_toNat]
  generalize entry.cutPercent.toNat * bid.toNat = product
  constructor
  · intro exact
    by_contra wraps
    have less : product % 2 ^ 32 + 2 ^ 32 ≤ product := by
      have parts := Nat.div_add_mod product (2 ^ 32)
      omega
    omega
  · intro fits
    rw [Nat.mod_eq_of_lt fits]

theorem cutOf_growth {bid higher : UInt32} (le : bid ≤ higher) :
    (cutOf entry.cutPercent higher).toNat + bid.toNat ≤
      (cutOf entry.cutPercent bid).toNat + higher.toNat := by
  have percent := UInt32.le_iff_toNat_le.mp entry.bounded
  change entry.cutPercent.toNat ≤ 15 at percent
  obtain ⟨more, raised⟩ := Nat.exists_eq_add_of_le (UInt32.le_iff_toNat_le.mp le)
  have product : entry.cutPercent.toNat * higher.toNat =
      entry.cutPercent.toNat * bid.toNat + entry.cutPercent.toNat * more := by
    rw [raised, Nat.mul_add]
  have step : entry.cutPercent.toNat * more ≤ 15 * more := Nat.mul_le_mul_right more percent
  have wrapped : (entry.cutPercent.toNat * bid.toNat + entry.cutPercent.toNat * more) % 2 ^ 32 ≤
      entry.cutPercent.toNat * bid.toNat % 2 ^ 32 + entry.cutPercent.toNat * more := by
    rw [Nat.add_mod]
    exact (Nat.mod_le _ _).trans (Nat.add_le_add_left (Nat.mod_le _ _) _)
  rw [cutOf_toNat, cutOf_toNat, product]
  omega

theorem cutOf_le (bid : UInt32) : cutOf entry.cutPercent bid ≤ bid := by
  have growth := cutOf_growth entry (UInt32.le_iff_toNat_le.mpr (Nat.zero_le bid.toNat) : 0 ≤ bid)
  have none : (cutOf entry.cutPercent 0).toNat = 0 := by
    rw [cutOf_toNat]
    simp
  rw [UInt32.le_iff_toNat_le]
  change _ + 0 ≤ _ at growth
  omega

/-- What SendAuctionSuccessfulMail sends the owner. -/
def profitOf (cutPercent bid deposit : UInt32) : UInt32 := bid + deposit - cutOf cutPercent bid

theorem profitOf_toNat {bid deposit : UInt32} (bidCapped : bid ≤ maxMoneyAmount)
    (depositCapped : deposit ≤ maxMoneyAmount) :
    (profitOf entry.cutPercent bid deposit).toNat + (cutOf entry.cutPercent bid).toNat =
      bid.toNat + deposit.toNat := by
  have cut := UInt32.le_iff_toNat_le.mp (cutOf_le entry bid)
  have bidBelow := UInt32.le_iff_toNat_le.mp bidCapped
  have depositBelow := UInt32.le_iff_toNat_le.mp depositCapped
  have cap : maxMoneyAmount.toNat = 2147483646 := rfl
  have sum : (bid + deposit).toNat = bid.toNat + deposit.toNat := by
    rw [UInt32.toNat_add]
    exact Nat.mod_eq_of_lt (by omega)
  have covered : cutOf entry.cutPercent bid ≤ bid + deposit := by
    rw [UInt32.le_iff_toNat_le, sum]
    omega
  rw [profitOf, UInt32.toNat_sub_of_le _ _ covered, sum]
  omega

end Arithmetic

/-- The settlement of an auction at its highest bid: the cut is the percentage rounded
down and no more than the bid, the profit is the number it stands for, and no higher
winning bid makes it smaller. -/
structure Exact (cutPercent : UInt32) (auction : AuctionEntry) : Prop where
  cut : (cutOf cutPercent auction.bid).toNat = cutPercent.toNat * auction.bid.toNat / 100
  cut_le : cutOf cutPercent auction.bid ≤ auction.bid
  profit : ((profitOf cutPercent auction.bid auction.deposit).toNat : Int) =
    auction.bid.toNat + auction.deposit.toNat - (cutOf cutPercent auction.bid).toNat
  monotone : ∀ higher ≤ maxMoneyAmount, auction.bid ≤ higher →
    profitOf cutPercent auction.bid auction.deposit ≤ profitOf cutPercent higher auction.deposit

structure AuctionEntry.InRange (auction : AuctionEntry) : Prop where
  bid : auction.bid ≤ maxMoneyAmount
  deposit : auction.deposit ≤ maxMoneyAmount
  below : auction.buyout ≠ 0 → auction.bid ≤ auction.buyout

/-- Only the cut can go wrong. -/
theorem exact_iff (entry : AuctionHouseEntry) {auction : AuctionEntry}
    (bid : auction.bid ≤ maxMoneyAmount) (deposit : auction.deposit ≤ maxMoneyAmount) :
    Exact entry.cutPercent auction ↔ entry.cutPercent.toNat * auction.bid.toNat < 2 ^ 32 := by
  have profit := profitOf_toNat entry bid deposit
  constructor
  · exact fun exact => (cutOf_exact_iff entry auction.bid).mp exact.cut
  · intro fits
    refine ⟨(cutOf_exact_iff entry auction.bid).mpr fits, cutOf_le entry auction.bid, by omega, ?_⟩
    intro higher capped raised
    have more := profitOf_toNat entry capped deposit
    have growth := cutOf_growth entry raised
    rw [UInt32.le_iff_toNat_le]
    omega

def Config.withCuts (config : Config) (store : UInt32 → AuctionHouseEntry) : Config :=
  { config with auctionCut := fun house bid => cutOf (store house).cutPercent bid }

namespace World

structure Ranged (w : World) : Prop where
  capped : ∀ c ∈ w.characters, c.money ≤ maxMoneyAmount
  entries : ∀ ptr auction, w.heap.entry ptr = some auction → auction.InRange

theorem modifyMoney_capped {money amount : UInt32} (capped : money ≤ maxMoneyAmount)
    (small : amount ≤ maxMoneyAmount) :
    TortoiseWow.modifyMoney money (-amount.toInt32) ≤ maxMoneyAmount := by
  have capped := UInt32.le_iff_toNat_le.mp capped
  have small := UInt32.le_iff_toNat_le.mp small
  have cap : maxMoneyAmount.toNat = 2147483646 := rfl
  have value := toNat_modifyMoney money (-amount)
  have negated : (-amount).toNat = (4294967296 - amount.toNat) % 4294967296 :=
    UInt32.toNat_neg amount
  have back : (-amount).toInt32 = -amount.toInt32 := rfl
  rw [back] at value
  rw [UInt32.le_iff_toNat_le, value, cap]
  split_ifs <;> omega

theorem getAuction_entry {w : World} {i : Nat} {id : UInt32} {ptr : Ptr} {auction : AuctionEntry}
    (got : w.getAuction i id = some (ptr, auction)) : w.heap.entry ptr = some auction := by
  simp only [getAuction] at got
  split at got
  case h_2 => cases got
  case h_1 house listed =>
      split at got
      case h_2 => cases got
      case h_1 ptr' under =>
          obtain ⟨auction', found, same⟩ := Option.map_eq_some_iff.mp got
          obtain ⟨rfl, rfl⟩ := Prod.mk.inj same
          exact found

namespace Ranged

variable {w : World}

theorem congr (ranged : w.Ranged) {w' : World} (heap : w'.heap = w.heap)
    (characters : w'.characters = w.characters) : w'.Ranged where
  capped := by rw [characters]; exact ranged.capped
  entries := by rw [heap]; exact ranged.entries

theorem modifyCharacter (ranged : w.Ranged) (guidLow : UInt32) {f : Character → Character}
    (keeps : ∀ c, (f c).money = c.money) : (w.modifyCharacter guidLow f).Ranged where
  capped c found := by
    obtain ⟨c', member, rfl⟩ := List.mem_map.mp found
    split
    · rw [keeps]
      exact ranged.capped c' member
    · exact ranged.capped c' member
  entries := ranged.entries

theorem debit (ranged : w.Ranged) (guidLow : UInt32) {amount : UInt32}
    (small : amount ≤ maxMoneyAmount) : (w.modifyMoney guidLow (-amount.toInt32)).Ranged where
  capped c found := by
    obtain ⟨c', member, rfl⟩ := List.mem_map.mp found
    split
    · exact modifyMoney_capped (ranged.capped c' member) small
    · exact ranged.capped c' member
  entries := ranged.entries

theorem onHouse (ranged : w.Ranged) (i : Nat) {f : HouseState → HouseState}
    (keeps : ∀ house ptr auction, (f { heap := w.heap, house }).heap.entry ptr = some auction →
      auction.InRange) : (w.onHouse i f).Ranged := by
  cases found : w.houses[i]? with
  | none =>
      have same : w.onHouse i f = w := by simp [World.onHouse, found]
      rw [same]
      exact ranged
  | some house =>
      rw [onHouse_eq found]
      exact ⟨ranged.capped, keeps house⟩

theorem deleteEntry (ranged : w.Ranged) (ptr : Ptr) : (w.deleteEntry ptr).Ranged where
  capped := ranged.capped
  entries ptr' auction found := by
    by_cases same : ptr' = ptr
    · subst same
      simp [World.deleteEntry, Heap.delete] at found
    · simp only [World.deleteEntry, Heap.delete, Function.update_of_ne same] at found
      exact ranged.entries ptr' auction found

theorem removeAuction (ranged : w.Ranged) (i : Nat) (ptr : Ptr) (auction : AuctionEntry) :
    (w.removeAuction i ptr auction).Ranged := by
  refine congr (ranged.onHouse i (f := fun s => s.removeAuction ptr) ?_) rfl rfl
  intro house ptr' auction' found
  simp only [HouseState.removeAuction] at found
  split at found
  · exact ranged.entries ptr' auction' found
  · exact ranged.entries ptr' auction' found

theorem refundBidder (ranged : w.Ranged) (auction : AuctionEntry) :
    (w.refundBidder auction).Ranged := by
  simp only [World.refundBidder]
  split
  · exact ranged
  · split
    · exact ranged.congr rfl rfl
    · exact ranged

theorem sendItemMail (ranged : w.Ranged) (auction : AuctionEntry) (receiver : UInt32) :
    (w.sendItemMail auction receiver).Ranged := by
  simp only [World.sendItemMail]
  split
  · exact ranged
  · split
    · split
      · exact ranged.congr rfl rfl
      · exact ranged.congr rfl rfl
    · exact ranged.congr rfl rfl

theorem sendAuctionSuccessfulMail (ranged : w.Ranged) (config : Config) (auction : AuctionEntry) :
    (w.sendAuctionSuccessfulMail config auction).Ranged := by
  simp only [World.sendAuctionSuccessfulMail]
  split
  · exact ranged
  · split
    · exact ranged.congr rfl rfl
    · exact ranged

theorem settleExpired (ranged : w.Ranged) (config : Config) (i : Nat) (ptr : Ptr)
    (auction : AuctionEntry) : (w.settleExpired config i ptr auction).Ranged := by
  have mailed : Ranged (if auction.bidder = 0 then
      { w.sendAuctionExpiredMail auction with forfeited := w.forfeited + auction.deposit.toNat }
      else (w.sendAuctionSuccessfulMail config auction).sendAuctionWonMail auction) := by
    split
    · exact (ranged.sendItemMail auction auction.owner).congr rfl rfl
    · exact (ranged.sendAuctionSuccessfulMail config auction).sendItemMail auction _
  simp only [World.settleExpired]
  apply Ranged.deleteEntry
  apply Ranged.removeAuction
  exact mailed.congr rfl rfl

theorem expireAuction (ranged : w.Ranged) (config : Config) (i : Nat) (id : UInt32) :
    (w.expireAuction config i id).Ranged := by
  simp only [World.expireAuction]
  split
  · exact ranged.settleExpired ..
  · exact ranged

theorem modify (ranged : w.Ranged) {ptr : Ptr} {f : AuctionEntry → AuctionEntry}
    (keeps : ∀ auction, w.heap.entry ptr = some auction → (f auction).InRange) :
    ∀ ptr' auction, (w.heap.modify ptr f).entry ptr' = some auction → auction.InRange := by
  intro ptr' auction found
  by_cases same : ptr' = ptr
  · subst same
    simp only [Heap.modify, Function.update_self, Option.map_eq_some_iff] at found
    obtain ⟨old, foundOld, rfl⟩ := found
    exact keeps old foundOld
  · simp only [Heap.modify, Function.update_of_ne same] at found
    exact ranged.entries ptr' auction found

theorem updateAuction (ranged : w.Ranged) (config : Config) (i curTime : Nat) (id : UInt32) :
    (w.updateAuction config i curTime id).Ranged := by
  simp only [World.updateAuction]
  split
  case h_2 => exact ranged
  case h_1 ptr auction found =>
      have unlocked : Ranged (if auction.depositTime + 5 * 60 < curTime then
          w.onHouse i fun s => { s with heap := s.heap.modify ptr fun auction =>
            { auction with lockedIpAddress := "" } }
          else w) := by
        split
        · refine ranged.onHouse i fun house => ranged.modify fun auction found => ?_
          have range := ranged.entries ptr auction found
          exact ⟨range.bid, range.deposit, range.below⟩
        · exact ranged
      split
      · exact unlocked.expireAuction ..
      · exact unlocked

theorem update (ranged : w.Ranged) (config : Config) (i curTime : Nat) :
    (w.update config i curTime).Ranged := by
  simp only [World.update]
  split
  case h_2 => exact ranged
  case h_1 house found =>
      generalize house.auctionsMap.entries.map (fun entry => UInt32.ofNat entry.1) = ids
      clear found
      induction ids generalizing w with
      | nil => exact ranged
      | cons id rest ih => exact ih (ranged.updateAuction config i curTime id)

theorem removeAllAuctions (ranged : w.Ranged) (i : Nat) (player : UInt32) :
    (w.removeAllAuctions i player).Ranged := by
  simp only [World.removeAllAuctions]
  generalize w.deletableEntries i player = ptrs
  induction ptrs generalizing w with
  | nil => exact ranged
  | cons ptr rest ih =>
      simp only [List.foldl_cons]
      apply ih
      split
      · exact ranged.removeAuction ..
      · exact ranged

theorem chargeBid (ranged : w.Ranged) (pl : Character) (auction : AuctionEntry) {price : UInt32}
    (small : price ≤ maxMoneyAmount) (raised : auction.bid ≤ price) :
    (w.chargeBid pl auction price).Ranged := by
  simp only [World.chargeBid]
  split
  · apply ranged.debit
    refine UInt32.le_trans ?_ small
    rw [UInt32.le_iff_toNat_le, UInt32.toNat_sub_of_le _ _ raised]
    omega
  · split
    · exact (ranged.debit _ small).refundBidder auction
    · exact ranged.debit _ small

theorem setBid (ranged : w.Ranged) (i : Nat) (ptr : Ptr) {bidder bid : UInt32}
    (keeps : ∀ auction, w.heap.entry ptr = some auction →
      ({ auction with bidder, bid } : AuctionEntry).InRange) :
    (w.setBid i ptr bidder bid).Ranged :=
  ranged.onHouse i fun _ => ranged.modify keeps

theorem raiseBid (ranged : w.Ranged) {pl : Character} {i : Nat} {ptr : Ptr}
    {auction : AuctionEntry} {price : UInt32} (found : w.heap.entry ptr = some auction)
    (small : price ≤ maxMoneyAmount) (raised : auction.bid ≤ price)
    (below : auction.buyout ≠ 0 → price ≤ auction.buyout) :
    (w.raiseBid pl i ptr auction price).Ranged := by
  have charged := ranged.chargeBid pl auction small raised
  have bid : ((w.chargeBid pl auction price).setBid i ptr pl.guidLow price).Ranged := by
    apply charged.setBid
    intro auction' found'
    rw [chargeBid_eq] at found'
    obtain rfl := Option.some.inj (found.symm.trans found')
    exact ⟨small, (ranged.entries ptr auction found).deposit, below⟩
  exact bid.congr rfl rfl

theorem buyOut (ranged : w.Ranged) (config : Config) {pl : Character} {i : Nat} {ptr : Ptr}
    {auction : AuctionEntry} (found : w.heap.entry ptr = some auction)
    (small : auction.buyout ≤ maxMoneyAmount) (priced : auction.buyout ≠ 0) :
    (w.buyOut config pl i ptr auction).Ranged := by
  have range := ranged.entries ptr auction found
  have charged := ranged.chargeBid pl auction small (range.below priced)
  have bid : ((w.chargeBid pl auction auction.buyout).setBid i ptr pl.guidLow
      auction.buyout).Ranged := by
    apply charged.setBid
    intro auction' found'
    rw [chargeBid_eq] at found'
    obtain rfl := Option.some.inj (found.symm.trans found')
    exact ⟨small, range.deposit, fun _ => UInt32.le_refl _⟩
  have mailed := (bid.sendAuctionSuccessfulMail config (withBid auction pl.guidLow
    auction.buyout)).sendItemMail (withBid auction pl.guidLow auction.buyout) pl.guidLow
  simp only [World.buyOut]
  apply Ranged.deleteEntry
  refine Ranged.congr (Ranged.removeAuction ?_ i ptr
    (withBid auction pl.guidLow auction.buyout)) rfl rfl
  exact mailed.congr rfl rfl

theorem asked_le (ranged : w.Ranged) {config : Config} {session : Session}
    {house : Option UInt32} {auctionId price : UInt32} {pl : Character} {i : Nat} {ptr : Ptr}
    {auction : AuctionEntry}
    (checked : w.checkBid config session house auctionId price = some (pl, i, ptr, auction)) :
    w.heap.entry ptr = some auction ∧ auction.bid ≤ price ∧ price ≤ maxMoneyAmount := by
  obtain ⟨player, got, accepted⟩ := checkBid_some checked
  obtain ⟨raised, covered⟩ := bidAccepted_iff accepted
  refine ⟨getAuction_entry got, UInt32.le_of_lt raised, ?_⟩
  exact UInt32.le_trans covered (ranged.capped pl (mem_of_character? player))

theorem placeBid (ranged : w.Ranged) (config : Config) (session : Session)
    (house : Option UInt32) (auctionId price : UInt32) :
    (w.handleAuctionPlaceBid config session house auctionId price).Ranged := by
  simp only [handleAuctionPlaceBid]
  cases checked : w.checkBid config session house auctionId price with
  | none => exact ranged
  | some found =>
      obtain ⟨pl, i, ptr, auction⟩ := found
      obtain ⟨entry, raised, small⟩ := ranged.asked_le checked
      dsimp only
      split
      case isTrue below =>
          exact ranged.raiseBid entry small raised
            fun priced => UInt32.le_of_lt (below.resolve_right priced)
      case isFalse reached =>
          obtain ⟨notBelow, priced⟩ := not_or.mp reached
          exact ranged.buyOut config entry
            (UInt32.le_trans (UInt32.not_lt.mp notBelow) small) priced

theorem sell (ranged : w.Ranged) (config : Config) (session : Session) (house : Option UInt32)
    (itemGuid bid buyout etime : UInt32) (now : Nat) :
    (w.handleAuctionSellItem config session house itemGuid bid buyout etime now).Ranged := by
  cases checked : w.checkListing config session house itemGuid bid buyout etime with
  | none =>
      simp only [handleAuctionSellItem, checked]
      exact ranged
  | some listing =>
      have sold := checkListing_some checked
      have small : listing.deposit ≤ maxMoneyAmount :=
        UInt32.le_trans (UInt32.not_lt.mp sold.covered)
          (ranged.capped _ (mem_of_character? sold.player))
      obtain ⟨auctionHouse, found⟩ := sold.house
      rw [handleAuctionSellItem_eq checked found]
      have listed := (ranged.debit listing.pl.guidLow small).modifyCharacter listing.pl.guidLow
        (f := fun c => { c with inventory := c.inventory.filter (·.guidLow ≠ listing.it.guidLow) })
        fun _ => rfl
      refine ⟨listed.capped, ?_⟩
      intro ptr auction entry
      by_cases new : ptr = w.heap.next
      · subst new
        simp only [Heap.allocate, Function.update_self] at entry
        obtain rfl := Option.some.inj entry
        exact ⟨UInt32.le_iff_toNat_le.mpr (Nat.zero_le _), small, fun _ =>
          UInt32.le_iff_toNat_le.mpr (Nat.zero_le _)⟩
      · simp only [Heap.allocate, Function.update_of_ne new] at entry
        exact ranged.entries ptr auction entry

theorem cancel (ranged : w.Ranged) (config : Config) (session : Session) (house : Option UInt32)
    (auctionId : UInt32) : (w.handleAuctionRemoveItem config session house auctionId).Ranged := by
  simp only [handleAuctionRemoveItem]
  cases checked : w.checkCancel config session house auctionId with
  | none => exact ranged
  | some found =>
      obtain ⟨pl, i, ptr, auction, item⟩ := found
      obtain ⟨player, -, -, covered⟩ := checkCancel_some checked
      have paid : (w.payCancel config pl auction).Ranged := by
        simp only [payCancel]
        split
        case isFalse => exact ranged
        case isTrue bidder =>
            have cut : auction.getAuctionCut config ≤ maxMoneyAmount :=
              UInt32.le_trans (UInt32.not_lt.mp fun less => covered ⟨bidder, less⟩)
                (ranged.capped pl (mem_of_character? player))
            exact ((ranged.refundBidder auction).debit pl.guidLow cut).congr rfl rfl
      dsimp only
      apply Ranged.deleteEntry
      apply Ranged.removeAuction
      exact paid.congr rfl rfl

theorem step (ranged : w.Ranged) (config : Config) (event : MarketEvent) :
    (w.step config event).Ranged := by
  cases event with
  | sell session house itemGuid bid buyout etime now => exact ranged.sell ..
  | placeBid session house auctionId price => exact ranged.placeBid ..
  | cancel session house auctionId => exact ranged.cancel ..
  | expire house auctionId => exact ranged.expireAuction ..
  | update house curTime => exact ranged.update ..
  | removeAll house player => exact ranged.removeAllAuctions ..
  | status guidLow online hardcore => exact ranged.modifyCharacter guidLow fun _ => rfl

end Ranged

/-- In every state that is reached from a world without auctions, whoever lists, bids,
cancels or settles: an auction that stands on the heap, and one that an accepted bid
settles or raises, is settled exactly if and only if percentage and bid have a product
below 2^32. -/
theorem settlement_exact_iff (config : Config) (store : UInt32 → AuctionHouseEntry) {w : World}
    (unlisted : ∀ ptr, w.heap.entry ptr = none)
    (capped : ∀ c ∈ w.characters, c.money ≤ maxMoneyAmount)
    (events : List MarketEvent) :
    let w' := w.run (config.withCuts store) events
    (∀ ptr auction, w'.heap.entry ptr = some auction →
      (Exact (store auction.houseId).cutPercent auction ↔
        (store auction.houseId).cutPercent.toNat * auction.bid.toNat < 2 ^ 32)) ∧
      ∀ session house auctionId price pl i ptr auction,
        w'.checkBid (config.withCuts store) session house auctionId price =
          some (pl, i, ptr, auction) →
        (Exact (store auction.houseId).cutPercent
          (withBid auction pl.guidLow (asked auction price)) ↔
          (store auction.houseId).cutPercent.toNat * (asked auction price).toNat < 2 ^ 32) := by
  intro w'
  have start : w.Ranged :=
    ⟨capped, fun ptr auction found => by rw [unlisted ptr] at found; cases found⟩
  have keep : ∀ (w : World) (event : MarketEvent), w.Ranged →
      (w.step (config.withCuts store) event).Ranged := fun w event ranged => ranged.step _ event
  have ranged : w'.Ranged := Lib.run_always keep start events
  refine ⟨fun ptr auction found => ?_, ?_⟩
  · have range := ranged.entries ptr auction found
    exact exact_iff (store auction.houseId) range.bid range.deposit
  · intro session house auctionId price pl i ptr auction checked
    obtain ⟨found, -, small⟩ := ranged.asked_le checked
    have range := ranged.entries ptr auction found
    have bid : asked auction price ≤ maxMoneyAmount := by
      simp only [asked]
      split
      case isTrue => exact small
      case isFalse reached =>
          exact UInt32.le_trans (UInt32.not_lt.mp (not_or.mp reached).1) small
    exact @exact_iff (store auction.houseId) (withBid auction pl.guidLow (asked auction price)) bid
      range.deposit

def stormwind : AuctionHouseEntry := ⟨5, by decide, by decide⟩

/-- One seller with one item, and a buyer with 858993460 copper. -/
def goldWorld : World where
  characters :=
    [{ guidLow := 1, accountId := 1, online := true, hardcore := false, money := 100,
       inventory := [{ guidLow := 7, entry := 2589 }] },
     { guidLow := 2, accountId := 2, online := true, hardcore := false, money := 858993460,
       inventory := [] }]
  houses := [{}]

def goldBid (price : UInt32) : World :=
  goldWorld.run (sampleConfig.withCuts fun _ => stormwind)
    [.sell { player := 1 } (some 7) 7 1 0 120 0, .placeBid { player := 2 } (some 7) 1 price]

/-- A bid of ten gold is settled exactly. -/
theorem goldBid_exact :
    ∃ auction, (goldBid 100000).heap.entry 0 = some auction ∧ Exact 5 auction := by
  have bid : ((goldBid 100000).heap.entry 0).map (·.bid) = some 100000 := by decide +kernel
  obtain ⟨auction, found, value⟩ := Option.map_eq_some_iff.mp bid
  have settled := (settlement_exact_iff sampleConfig (fun _ => stormwind) (w := goldWorld)
    (fun _ => rfl) (by decide)
    [.sell { player := 1 } (some 7) 7 1 0 120 0, .placeBid { player := 2 } (some 7) 1 100000]).1 0
    auction found
  refine ⟨auction, found, settled.mpr ?_⟩
  rw [value]
  decide

/-- Of a bid of 858993460 copper the owner pays nothing. -/
theorem goldBid_uncut :
    ∃ auction, (goldBid 858993460).heap.entry 0 = some auction ∧ auction.bid = 858993460 ∧
      (cutOf 5 auction.bid).toNat = 0 ∧ ¬ Exact 5 auction := by
  have bid : ((goldBid 858993460).heap.entry 0).map (·.bid) = some 858993460 := by decide +kernel
  obtain ⟨auction, found, value⟩ := Option.map_eq_some_iff.mp bid
  have cut : (cutOf 5 auction.bid).toNat = 0 := by
    rw [cutOf_toNat, value]
    rfl
  refine ⟨auction, found, value, cut, fun exact => ?_⟩
  have due := exact.cut
  rw [cut, value] at due
  exact absurd due (by decide)

end World

end TortoiseWow.Auction
