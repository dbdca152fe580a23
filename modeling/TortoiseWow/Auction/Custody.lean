import TortoiseWow.Auction.Outcomes

/-!
Custody of the auctioned items: the pool holds the items of the live auctions and
no others, no item is in two places, and the auction table has the rows of the
live auctions. RemoveAllAuctions is the one operation that breaks it.
-/

namespace TortoiseWow.Auction

namespace World

def bags (w : World) : List Item := w.characters.flatMap (·.inventory)

def mailed (w : World) : List Item := w.mails.flatMap (·.items)

def allItems (w : World) : List Item := w.aitems ++ (w.bags ++ w.mailed)

structure Custody (w : World) : Prop extends Sound w where
  pool : (w.aitems.map (·.guidLow)).Perm (w.live.map (·.itemGuidLow))
  apart : (w.allItems.map (·.guidLow)).Nodup
  rows : w.auctionTable.Perm (w.live.map (·.row))
  asserted : w.assertionFailed = false

/-- Custody of all but one auction, whose item is about to leave the pool. -/
structure Releasing (w : World) (auction : AuctionEntry) : Prop where
  pool : ((w.aitems.filter (·.guidLow ≠ auction.itemGuidLow)).map (·.guidLow)).Perm
    ((w.others auction.id).map (·.itemGuidLow))
  apart : ((w.aitems.filter (·.guidLow ≠ auction.itemGuidLow) ++
    (w.bags ++ w.mailed)).map (·.guidLow)).Nodup
  rows : (w.auctionTable.filter (·.id ≠ auction.id)).Perm ((w.others auction.id).map (·.row))
  asserted : w.assertionFailed = false

section Closing

variable {w w' : World} {i : Nat} {house : AuctionHouseObject} {ptr : Ptr} {auction : AuctionEntry}

theorem Custody.pool_nodup (h : w.Custody) : (w.aitems.map (·.guidLow)).Nodup := by
  have hapart := h.apart
  unfold allItems at hapart
  rw [List.map_append] at hapart
  exact (List.nodup_append.mp hapart).1

theorem Custody.itemGuid_not_mem_others (h : w.Custody) (hfound : Found w i house ptr auction) :
    auction.itemGuidLow ∉ (w.others auction.id).map (·.itemGuidLow) := by
  have hlive := h.pool.trans ((hfound.live_perm h.toSound).map (·.itemGuidLow))
  exact (List.nodup_cons.mp (hlive.nodup_iff.mp h.pool_nodup)).1

theorem Custody.existsUnique_auction (h : w.Custody) {item : Item} (hitem : item ∈ w.aitems) :
    ∃! auction, auction ∈ w.live ∧ auction.itemGuidLow = item.guidLow := by
  obtain ⟨auction, hauction, hguid⟩ := List.mem_map.mp
    (h.pool.mem_iff.mp (List.mem_map_of_mem hitem))
  refine ⟨auction, ⟨hauction, hguid⟩, ?_⟩
  rintro other ⟨hother, hguid'⟩
  exact List.inj_on_of_nodup_map (h.pool.nodup_iff.mp h.pool_nodup) hother hauction
    (hguid'.trans hguid.symm)

theorem Custody.releasing (h : w.Custody) (hfound : Found w i house ptr auction) :
    w.Releasing auction := by
  have hlive := hfound.live_perm h.toSound
  refine ⟨?_, ?_, ?_, h.asserted⟩
  · have hperm := (h.pool.trans (hlive.map (·.itemGuidLow))).filter (· ≠ auction.itemGuidLow)
    have hothers : ((w.others auction.id).map (·.itemGuidLow)).filter
        (· ≠ auction.itemGuidLow) = (w.others auction.id).map (·.itemGuidLow) := by
      refine List.filter_eq_self.mpr ?_
      intro guid hguid
      have hne : guid ≠ auction.itemGuidLow := by
        rintro rfl
        exact h.itemGuid_not_mem_others hfound hguid
      simpa using hne
    simp only [List.map_cons, List.filter_cons, ne_eq, not_true_eq_false, decide_false,
      Bool.false_eq_true, if_false] at hperm
    rw [← hothers]
    refine List.Perm.trans (List.Perm.of_eq ?_) hperm
    rw [List.filter_map]
    rfl
  · refine h.apart.sublist (List.Sublist.map _ ?_)
    exact List.Sublist.append List.filter_sublist (List.Sublist.refl _)
  · have hperm := (h.rows.trans (hlive.map (·.row))).filter (·.id ≠ auction.id)
    have hothers : ((w.others auction.id).map (·.row)).filter (·.id ≠ auction.id) =
        (w.others auction.id).map (·.row) := by
      refine List.filter_eq_self.mpr ?_
      intro row hrow
      obtain ⟨a, ha, rfl⟩ := List.mem_map.mp hrow
      exact decide_eq_true (h.id_ne_of_mem_others ha)
    have hself : auction.row.id = auction.id := rfl
    simp only [List.map_cons, List.filter_cons, hself, ne_eq, not_true_eq_false, decide_false,
      Bool.false_eq_true, if_false] at hperm
    exact hothers ▸ hperm

theorem Custody.releasing_mailed (h : w.Custody) (hfound : Found w i house ptr auction)
    (hheap : w'.others auction.id = w.others auction.id)
    (hpool : w'.aitems.filter (·.guidLow ≠ auction.itemGuidLow) =
      w.aitems.filter (·.guidLow ≠ auction.itemGuidLow))
    (hbags : w'.bags = w.bags)
    (hmails : w'.mailed = w.mailed ∨
      ∃ item, w.getAItem auction.itemGuidLow = some item ∧
        w'.mailed = w.mailed ++ [item])
    (htable : w'.auctionTable = w.auctionTable)
    (hasserted : w'.assertionFailed = w.assertionFailed) : w'.Releasing auction := by
  have hold := h.releasing hfound
  refine ⟨?_, ?_, ?_, hasserted.trans hold.asserted⟩
  · rw [hheap, hpool]
    exact hold.pool
  · rw [hpool, hbags]
    obtain hmails | ⟨item, hitem, hmails⟩ := hmails
    · rw [hmails]
      exact hold.apart
    · rw [hmails]
      have hguid := getAItem_guidLow hitem
      have hmem : item ∈ w.aitems := List.mem_of_find?_eq_some hitem
      have hperm : (w.aitems.filter (·.guidLow ≠ auction.itemGuidLow) ++
          (w.bags ++ (w.mailed ++ [item]))).Perm
          (item :: (w.aitems.filter (·.guidLow ≠ auction.itemGuidLow) ++
            (w.bags ++ w.mailed))) := by
        rw [← List.append_assoc, ← List.append_assoc]
        exact (List.perm_append_singleton _ _).trans (by simp)
      refine (hperm.map (·.guidLow)).nodup_iff.mpr (List.nodup_cons.mpr ⟨?_, hold.apart⟩)
      have happart := h.apart
      unfold allItems at happart
      rw [List.map_append] at happart ⊢
      intro hin
      obtain hin | hin := List.mem_append.mp hin
      · obtain ⟨x, hx, hxguid⟩ := List.mem_map.mp hin
        exact of_decide_eq_true (List.mem_filter.mp hx).2 (hxguid.trans hguid)
      · exact (List.nodup_append.mp happart).2.2 _ (List.mem_map_of_mem hmem) _ hin rfl
  · rw [hheap, htable]
    exact hold.rows

theorem Releasing.custody (h : w.Releasing auction) (hsound : w.Sound)
    (hfound : Found w i house ptr auction) : (w.closed i house ptr auction).Custody := by
  have hclosed : (w.closed i house ptr auction).Sound ∧
      (w.closed i house ptr auction).live = w.others auction.id := hsound.close hfound rfl rfl rfl
  obtain ⟨hsound', hlive⟩ := hclosed
  refine { toSound := hsound', pool := ?_, apart := h.apart, rows := ?_, asserted := h.asserted }
  · rw [hlive]
    exact h.pool
  · rw [hlive]
    exact h.rows

end Closing

section Frames

variable (config : Config) (w : World)

theorem modifyCharacter_bags (guidLow : UInt32) {f : Character → Character}
    (hf : ∀ c, (f c).inventory = c.inventory) : (w.modifyCharacter guidLow f).bags = w.bags := by
  simp only [bags, modifyCharacter, List.flatMap_map]
  refine congrArg (List.flatMap · w.characters) (funext fun c => ?_)
  split
  · exact hf c
  · rfl

theorem modifyMoney_bags (guidLow : UInt32) (amount : Int32) :
    (w.modifyMoney guidLow amount).bags = w.bags :=
  w.modifyCharacter_bags guidLow fun _ => rfl

theorem refundBidder_mailed (auction : AuctionEntry) :
    (w.refundBidder auction).mailed = w.mailed := by
  simp only [refundBidder, sendMail]
  split
  · rfl
  · split
    · simp [mailed]
    · rfl

theorem refundBidder_bags (auction : AuctionEntry) : (w.refundBidder auction).bags = w.bags := by
  simp only [refundBidder, sendMail]
  split
  · rfl
  · split <;> rfl

theorem chargeBid_items (pl : Character) (auction : AuctionEntry) (price : UInt32) :
    (w.chargeBid pl auction price).bags = w.bags ∧
      (w.chargeBid pl auction price).mailed = w.mailed := by
  simp only [chargeBid]
  split
  · exact ⟨modifyMoney_bags .., rfl⟩
  · split
    · exact ⟨(refundBidder_bags ..).trans (modifyMoney_bags ..), refundBidder_mailed ..⟩
    · exact ⟨modifyMoney_bags .., rfl⟩

theorem payCancel_items (pl : Character) (auction : AuctionEntry) :
    (w.payCancel config pl auction).bags = w.bags ∧
      (w.payCancel config pl auction).mailed = w.mailed := by
  simp only [payCancel]
  split
  · exact ⟨(modifyMoney_bags ..).trans (refundBidder_bags ..), refundBidder_mailed w auction⟩
  · exact ⟨rfl, rfl⟩

theorem sendAuctionSuccessfulMail_mailed (auction : AuctionEntry) :
    (w.sendAuctionSuccessfulMail config auction).mailed = w.mailed := by
  simp only [sendAuctionSuccessfulMail, sendMail]
  split
  · rfl
  · split
    · simp [mailed]
    · rfl

theorem sold_items (auction : AuctionEntry) :
    ((w.sendAuctionSuccessfulMail config auction).sendAuctionWonMail auction).aitems.filter
        (·.guidLow ≠ auction.itemGuidLow) = w.aitems.filter (·.guidLow ≠ auction.itemGuidLow) ∧
      (((w.sendAuctionSuccessfulMail config auction).sendAuctionWonMail auction).mailed = w.mailed ∨
        ∃ item, w.getAItem auction.itemGuidLow = some item ∧
          ((w.sendAuctionSuccessfulMail config auction).sendAuctionWonMail auction).mailed =
            w.mailed ++ [item]) := by
  have hsent := (w.sendAuctionSuccessfulMail config auction).sendItemMail_items auction
    auction.bidder
  have hmailed := sendAuctionSuccessfulMail_mailed config w auction
  have hpool : (w.sendAuctionSuccessfulMail config auction).aitems = w.aitems := by
    rw [sendAuctionSuccessfulMail_eq]
  unfold mailed at hmailed ⊢
  unfold getAItem at hsent ⊢
  rw [hpool, hmailed] at hsent
  exact hsent

end Frames

section Steps

variable {config : Config} {w w' : World} {i : Nat} {house : AuctionHouseObject} {ptr : Ptr}
  {auction : AuctionEntry}

theorem Custody.congr (h : w.Custody) (hheap : w'.heap = w.heap) (hhouses : w'.houses = w.houses)
    (hids : w'.auctionsIds = w.auctionsIds) (hpool : w'.aitems = w.aitems)
    (hbags : w'.bags = w.bags) (hmailed : w'.mailed = w.mailed)
    (htable : w'.auctionTable = w.auctionTable)
    (hasserted : w'.assertionFailed = w.assertionFailed) : w'.Custody := by
  obtain ⟨hsound, hlive⟩ := h.toSound.congr hheap hhouses hids
  refine { toSound := hsound, pool := ?_, apart := ?_, rows := ?_, asserted := ?_ }
  · rw [hpool, hlive]
    exact h.pool
  · unfold allItems
    rw [hpool, hbags, hmailed]
    exact h.apart
  · rw [htable, hlive]
    exact h.rows
  · exact hasserted.trans h.asserted

theorem others_congr (hheap : w'.heap = w.heap) (hhouses : w'.houses = w.houses) (id : UInt32) :
    w'.others id = w.others id := by
  unfold others entries
  rw [hheap, hhouses]

theorem Custody.settleExpired (h : w.Custody) (hfound : Found w i house ptr auction) :
    (w.settleExpired config i ptr auction).Custody := by
  rw [hfound.settleExpired]
  have heq := w.expired_eq config auction
  have hheap : (w.expired config auction).heap = w.heap := by rw [heq]
  have hhouses : (w.expired config auction).houses = w.houses := by rw [heq]
  have hids : (w.expired config auction).auctionsIds = w.auctionsIds := by rw [heq]
  have hitems : (w.expired config auction).aitems.filter (·.guidLow ≠ auction.itemGuidLow) =
        w.aitems.filter (·.guidLow ≠ auction.itemGuidLow) ∧
      ((w.expired config auction).mailed = w.mailed ∨
        ∃ item, w.getAItem auction.itemGuidLow = some item ∧
          (w.expired config auction).mailed = w.mailed ++ [item]) := by
    simp only [expired]
    split
    · exact w.sendItemMail_items auction auction.owner
    · exact w.sold_items config auction
  refine Releasing.custody ?_ (h.toSound.congr hheap hhouses hids).1 (hfound.congr hheap hhouses)
  refine h.releasing_mailed hfound (others_congr hheap hhouses _) hitems.1 ?_ hitems.2 ?_ ?_
  · rw [heq]
    rfl
  · rw [heq]
  · rw [heq]

theorem Custody.cancelled (h : w.Custody) (hfound : Found w i house ptr auction) {pl : Character}
    {item : Item} (hitem : w.getAItem auction.itemGuidLow = some item) :
    ((w.cancelled config pl auction item).closed i house ptr auction).Custody := by
  obtain ⟨hbags, hmailed⟩ := payCancel_items config w pl auction
  rw [cancelled_eq]
  refine Releasing.custody ?_ (And.left (h.toSound.congr ?_ ?_ ?_)) (hfound.congr rfl rfl)
  rotate_left
  · rfl
  · rfl
  · rfl
  refine h.releasing_mailed hfound (others_congr rfl rfl _) rfl hbags
    (Or.inr ⟨item, hitem, ?_⟩) rfl rfl
  rw [← hmailed]
  simp [mailed]

theorem Custody.bought (h : w.Custody) (hfound : Found w i house ptr auction) (pl : Character) :
    ((w.bought config pl ptr auction).closed i house ptr
      (withBid auction pl.guidLow auction.buyout)).Custody := by
  have hbought := hfound.bought config pl
  have heq := w.bought_eq config pl ptr auction
  have hitems : (w.bought config pl ptr auction).aitems.filter
        (·.guidLow ≠ auction.itemGuidLow) = w.aitems.filter (·.guidLow ≠ auction.itemGuidLow) ∧
      ((w.bought config pl ptr auction).mailed = w.mailed ∨
        ∃ item, w.getAItem auction.itemGuidLow = some item ∧
          (w.bought config pl ptr auction).mailed = w.mailed ++ [item]) := by
    have hsold := World.sold_items config
      { w.chargeBid pl auction auction.buyout with
        heap := (w.chargeBid pl auction auction.buyout).heap.modify ptr
          (withBid · pl.guidLow auction.buyout) }
      (withBid auction pl.guidLow auction.buyout)
    have hmailed := (chargeBid_items w pl auction auction.buyout).2
    have hpool : (w.chargeBid pl auction auction.buyout).aitems = w.aitems := by rw [chargeBid_eq]
    unfold mailed at hmailed ⊢
    unfold mailed getAItem at hsold
    unfold getAItem
    rw [hpool, hmailed] at hsold
    exact hsold
  have hmodified : (w.bought config pl ptr auction).Sound ∧ _ ∧ _ ∧
      (w.bought config pl ptr auction).others auction.id = w.others auction.id :=
    h.toSound.modify hfound (f := (withBid · pl.guidLow auction.buyout)) rfl
      (by rw [heq]) (by rw [heq]) (by rw [heq])
  obtain ⟨hsound, -, -, hothers⟩ := hmodified
  refine Releasing.custody ?_ hsound hbought
  have hreleasing : (w.bought config pl ptr auction).Releasing auction := by
    refine h.releasing_mailed hfound hothers hitems.1 ?_ hitems.2 ?_ ?_
    · rw [heq]
      exact (chargeBid_items w pl auction auction.buyout).1
    · rw [heq]
    · rw [heq]
  exact { hreleasing with }

theorem Custody.row_eq (h : w.Custody) (hfound : Found w i house ptr auction) {row : AuctionRow}
    (hrow : row ∈ w.auctionTable) (hid : row.id = auction.id) : row = auction.row := by
  obtain ⟨a, ha, rfl⟩ := List.mem_map.mp (h.rows.mem_iff.mp hrow)
  obtain rfl | ha := List.mem_cons.mp ((hfound.live_perm h.toSound).mem_iff.mp ha)
  · rfl
  · exact absurd hid (h.id_ne_of_mem_others ha)

theorem Custody.modify (h : w.Custody) (hfound : Found w i house ptr auction)
    {f : AuctionEntry → AuctionEntry} (hid : (f auction).id = auction.id)
    (hguid : (f auction).itemGuidLow = auction.itemGuidLow)
    (hheap : w'.heap = w.heap.modify ptr f) (hhouses : w'.houses = w.houses)
    (hids : w'.auctionsIds = w.auctionsIds) (hpool : w'.aitems = w.aitems)
    (hbags : w'.bags = w.bags) (hmailed : w'.mailed = w.mailed)
    (htable : w'.auctionTable =
      w.auctionTable.map fun row => if row.id = auction.id then (f auction).row else row)
    (hasserted : w'.assertionFailed = w.assertionFailed) : w'.Custody := by
  obtain ⟨hsound, -, hlive, -⟩ := h.toSound.modify hfound hid hheap hhouses hids
  have hold := hfound.live_perm h.toSound
  refine { toSound := hsound, pool := ?_, apart := ?_, rows := ?_, asserted := ?_ }
  · rw [hpool]
    refine (h.pool.trans (hold.map _)).trans ?_
    refine List.Perm.trans ?_ (hlive.map (·.itemGuidLow)).symm
    simp only [List.map_cons, hguid]
    exact List.Perm.refl _
  · unfold allItems
    rw [hpool, hbags, hmailed]
    exact h.apart
  · rw [htable]
    refine ((h.rows.trans (hold.map _)).map _).trans ?_
    refine List.Perm.trans ?_ (hlive.map (·.row)).symm
    have hself : auction.row.id = auction.id := rfl
    simp only [List.map_cons, hself, if_true, List.map_map]
    refine List.Perm.of_eq (congrArg _ (List.map_congr_left ?_))
    intro a ha
    exact if_neg (h.id_ne_of_mem_others ha)
  · exact hasserted.trans h.asserted

theorem Custody.raiseBid (h : w.Custody) (hfound : Found w i house ptr auction) (pl : Character)
    (price : UInt32) : (w.raiseBid pl i ptr auction price).Custody := by
  have heq := w.chargeBid_eq pl auction price
  have hcharged : Found (w.chargeBid pl auction price) i house ptr auction := by
    refine hfound.congr ?_ ?_
    · rw [heq]
    · rw [heq]
  obtain ⟨hbags, hmailed⟩ := w.chargeBid_items pl auction price
  unfold World.raiseBid
  dsimp only
  rw [hcharged.setBid]
  refine h.modify hfound (f := (withBid · pl.guidLow price)) rfl rfl ?_ ?_ ?_ ?_ hbags hmailed ?_ ?_
  · rw [heq]
  · rw [heq]
  · rw [heq]
  · rw [heq]
  · rw [heq]
    refine List.map_congr_left ?_
    intro row hrow
    split
    case isTrue hsame =>
      rw [h.row_eq hfound hrow hsame]
      rfl
    case isFalse => rfl
  · rw [heq]

theorem Custody.expireAuction (h : w.Custody) (i : Nat) (id : UInt32) :
    (w.expireAuction config i id).Custody := by
  unfold World.expireAuction
  cases hget : w.getAuction i id with
  | none => exact h
  | some found =>
      obtain ⟨ptr, auction⟩ := found
      obtain ⟨-, house, hfound⟩ := h.toSound.getAuction hget
      exact h.settleExpired hfound

theorem Custody.updateAuction (h : w.Custody) (i curTime : Nat) (id : UInt32) :
    (World.updateAuction config i curTime w id).Custody := by
  unfold World.updateAuction
  cases hget : w.getAuction i id with
  | none => exact h
  | some found =>
      obtain ⟨ptr, auction⟩ := found
      obtain ⟨-, house, hfound⟩ := h.toSound.getAuction hget
      have hunlocked : (w.onHouse i fun s => { s with heap := s.heap.modify ptr fun auction =>
          { auction with lockedIpAddress := "" } }).Custody := by
        rw [onHouse_eq hfound.here]
        refine h.modify hfound rfl rfl rfl ?_ rfl rfl rfl rfl ?_ rfl
        · exact set_self hfound.here
        · have hrows : ∀ row ∈ w.auctionTable,
              (if row.id = auction.id then auction.row else row) = row := by
            intro row hrow
            split
            case isTrue hsame => exact (h.row_eq hfound hrow hsame).symm
            case isFalse => rfl
          exact ((List.map_congr_left hrows).trans (List.map_id' _)).symm
      dsimp only
      split
      · split
        · exact hunlocked.expireAuction i id
        · exact h.expireAuction i id
      · split
        · exact hunlocked
        · exact h

theorem Custody.update (h : w.Custody) (i curTime : Nat) : (w.update config i curTime).Custody := by
  unfold World.update
  cases w.houses[i]? with
  | none => exact h
  | some house =>
      dsimp only
      generalize (house.auctionsMap.entries.map fun entry => UInt32.ofNat entry.1) = ids
      induction ids generalizing w with
      | nil => exact h
      | cons id ids ih => exact ih (h.updateAuction i curTime id)

theorem bags_filter {characters : List Character}
    (hapart : ((characters.flatMap (·.inventory)).map (·.guidLow)).Nodup) {pl : Character}
    (hpl : pl ∈ characters) {it : Item} (hit : it ∈ pl.inventory) :
    (characters.map fun c => if c.guidLow = pl.guidLow then
        { c with inventory := c.inventory.filter (·.guidLow ≠ it.guidLow) }
      else c).flatMap (·.inventory) =
      (characters.flatMap (·.inventory)).filter (·.guidLow ≠ it.guidLow) := by
  rw [List.flatMap_map, List.filter_flatMap]
  have hpairwise := (List.nodup_flatMap.mp (List.Nodup.of_map _ hapart)).2
  have hbag : ∀ c ∈ characters, c.guidLow ≠ pl.guidLow →
      c.inventory.filter (·.guidLow ≠ it.guidLow) = c.inventory := by
    intro c hc hne
    refine List.filter_eq_self.mpr ?_
    intro x hx
    have hother : x.guidLow ≠ it.guidLow := by
      intro hsame
      have hxit : x = it := List.inj_on_of_nodup_map hapart
        (List.mem_flatMap.mpr ⟨c, hc, hx⟩) (List.mem_flatMap.mpr ⟨pl, hpl, hit⟩) hsame
      have hsymm : Std.Symm (Function.onFun List.Disjoint fun c : Character => c.inventory) :=
        ⟨fun _ _ hd => List.Disjoint.symm hd⟩
      have hdisjoint := hpairwise.forall hc hpl fun hcpl => hne (congrArg _ hcpl)
      exact hdisjoint hx (hxit ▸ hit)
    exact decide_eq_true hother
  refine List.flatMap_congr ?_
  intro c hc
  split
  · rfl
  case isFalse hne => exact (hbag c hc hne).symm

theorem Custody.bags_nodup (h : w.Custody) : (w.bags.map (·.guidLow)).Nodup := by
  have hapart := h.apart
  unfold allItems at hapart
  rw [List.map_append, List.map_append] at hapart
  exact (List.nodup_append.mp (List.nodup_append.mp hapart).2.1).1

theorem Custody.listed_bags (h : w.Custody) {bid buyout : UInt32} {listing : Listing}
    (hsold : Sold config w bid buyout listing) (amount : Int32) :
    ((w.modifyMoney listing.pl.guidLow amount).modifyCharacter listing.pl.guidLow fun c =>
      { c with inventory := c.inventory.filter (·.guidLow ≠ listing.it.guidLow) }).bags =
      w.bags.filter (·.guidLow ≠ listing.it.guidLow) := by
  have hbags := w.modifyMoney_bags listing.pl.guidLow amount
  rw [← hbags]
  refine @bags_filter _ ?_
    { listing.pl with money := TortoiseWow.modifyMoney listing.pl.money amount } ?_ _ hsold.item
  · have hnodup := h.bags_nodup
    rw [← hbags] at hnodup
    exact hnodup
  · refine List.mem_map.mpr ⟨listing.pl, List.mem_of_find?_eq_some hsold.player, ?_⟩
    exact if_pos rfl

/-- The item moves from the bag to the pool. -/
theorem Custody.listed_apart (h : w.Custody) {bid buyout : UInt32} {listing : Listing}
    (hsold : Sold config w bid buyout listing) :
    (((w.aitems ++ [listing.it]) ++
      (w.bags.filter (·.guidLow ≠ listing.it.guidLow) ++ w.mailed)).map (·.guidLow)).Nodup := by
  have hperm : ((w.aitems ++ [listing.it]) ++
      (w.bags.filter (·.guidLow ≠ listing.it.guidLow) ++ w.mailed)).Perm
      (listing.it :: (w.aitems ++
        (w.bags.filter (·.guidLow ≠ listing.it.guidLow) ++ w.mailed))) := by
    rw [List.append_assoc]
    exact List.perm_middle
  refine (hperm.map (·.guidLow)).nodup_iff.mpr (List.nodup_cons.mpr ⟨?_, ?_⟩)
  · intro hin
    obtain ⟨x, hx, hxguid⟩ := List.mem_map.mp hin
    have hbag : listing.it ∈ w.bags := List.mem_flatMap.mpr
      ⟨listing.pl, List.mem_of_find?_eq_some hsold.player, hsold.item⟩
    have hapart := h.apart
    unfold allItems at hapart
    rw [List.map_append, List.map_append] at hapart
    obtain hx | hx := List.mem_append.mp hx
    · have hfound := List.find?_eq_none.mp hsold.unlisted x hx
      exact hfound (by simpa using hxguid)
    · obtain hx | hx := List.mem_append.mp hx
      · exact of_decide_eq_true (List.mem_filter.mp hx).2 hxguid
      · exact (List.nodup_append.mp (List.nodup_append.mp hapart).2.1).2.2 _
          (List.mem_map_of_mem hbag) _ (List.mem_map_of_mem hx) hxguid.symm
  · refine h.apart.sublist (List.Sublist.map _ ?_)
    refine List.Sublist.append (List.Sublist.refl _) ?_
    exact List.Sublist.append List.filter_sublist (List.Sublist.refl _)

theorem Custody.sell (h : w.Custody) (hfree : w.HasFreeId) (session : Session)
    (house : Option UInt32) (itemGuid bid buyout etime : UInt32) (now : Nat) :
    (w.handleAuctionSellItem config session house itemGuid bid buyout etime now).Custody := by
  cases hlisting : w.checkListing config session house itemGuid bid buyout etime with
  | none =>
      simp only [handleAuctionSellItem, hlisting]
      exact h
  | some listing =>
      have hsold := checkListing_some hlisting
      obtain ⟨auctionHouse, hhouse⟩ := hsold.house
      rw [handleAuctionSellItem_eq hlisting hhouse now]
      have hbags := h.listed_bags hsold (-listing.deposit.toInt32)
      have hid : (listing.auction config session bid buyout now w.generateAuctionID.1).id ∉
        w.auctionsIds := generateAuctionID_free hfree
      generalize hauction :
        listing.auction config session bid buyout now w.generateAuctionID.1 = auction at hid ⊢
      have hguid : auction.itemGuidLow = listing.it.guidLow := by
        rw [← hauction]
        rfl
      generalize hw : World.mk _ _ _ _ _ _ _ _ _ _ _ = w'
      have hadded : w'.Sound ∧ w'.live.Perm (auction :: w.live) :=
        h.toSound.add hhouse hid (hw ▸ rfl) (hw ▸ rfl) (hw ▸ rfl)
      refine { toSound := hadded.1, pool := ?_, apart := ?_, rows := ?_, asserted := ?_ }
      · refine List.Perm.trans ?_ (hadded.2.map (·.itemGuidLow)).symm
        rw [← hw]
        simp only [List.map_append, List.map_cons, List.map_nil, hguid]
        exact (List.perm_append_singleton _ _).trans (h.pool.cons _)
      · rw [← hw]
        unfold allItems
        exact hbags ▸ h.listed_apart hsold
      · refine List.Perm.trans ?_ (hadded.2.map (·.row)).symm
        rw [← hw, List.map_cons]
        exact (List.perm_append_singleton _ _).trans (h.rows.cons _)
      · rw [← hw]
        exact h.asserted

theorem Custody.placeBid (h : w.Custody) (session : Session) (house : Option UInt32)
    (auctionId price : UInt32) :
    (w.handleAuctionPlaceBid config session house auctionId price).Custody := by
  unfold handleAuctionPlaceBid
  cases hcheck : w.checkBid config session house auctionId price with
  | none => exact h
  | some found =>
      obtain ⟨pl, i, ptr, auction⟩ := found
      obtain ⟨house, hfound⟩ := h.toSound.found_of_checkBid hcheck
      dsimp only
      split
      · exact h.raiseBid hfound pl price
      · rw [hfound.buyOut]
        exact h.bought hfound pl

theorem Custody.cancel (h : w.Custody) (session : Session) (house : Option UInt32)
    (auctionId : UInt32) : (w.handleAuctionRemoveItem config session house auctionId).Custody := by
  cases hcheck : w.checkCancel config session house auctionId with
  | none =>
      simp only [handleAuctionRemoveItem, hcheck]
      exact h
  | some found =>
      obtain ⟨pl, i, ptr, auction, item⟩ := found
      obtain ⟨house, hfound, hitem⟩ := h.toSound.found_of_checkCancel hcheck
      rw [handleAuctionRemoveItem_eq hcheck hfound]
      exact h.cancelled hfound hitem

end Steps

/-- A listing has an id left, and RemoveAllAuctions finds nothing to remove. -/
def KeepsCustody (w : World) : MarketEvent → Prop
  | .sell .. => w.HasFreeId
  | .removeAll house player => w.deletableEntries house player = []
  | _ => True

theorem Custody.step {config : Config} {w : World} (h : w.Custody) {event : MarketEvent}
    (hkeeps : w.KeepsCustody event) : (w.step config event).Custody := by
  cases event with
  | sell session house itemGuid bid buyout etime now =>
      exact h.sell hkeeps session house itemGuid bid buyout etime now
  | placeBid session house auctionId price => exact h.placeBid session house auctionId price
  | cancel session house auctionId => exact h.cancel session house auctionId
  | expire house auctionId => exact h.expireAuction house auctionId
  | update house curTime => exact h.update house curTime
  | removeAll house player =>
      have hnone : w.deletableEntries house player = [] := hkeeps
      simp only [World.step, removeAllAuctions, hnone, List.foldl_nil]
      exact h
  | status guidLow online hardcore =>
      exact h.congr rfl rfl rfl rfl (modifyCharacter_bags w guidLow fun _ => rfl) rfl rfl rfl

/-- Custody holds in every state of a run whose listings find an id and in which
RemoveAllAuctions meets no auction. -/
theorem custody_in_every_state {config : Config} {w : World} (h : w.Custody)
    {events : List MarketEvent}
    (hkeeps : Lib.Along (World.step config) KeepsCustody w events) :
    ∀ before, before <+: events →
      (w.run config before).Custody ∧
      ∀ item ∈ (w.run config before).aitems, ∃! auction,
        auction ∈ (w.run config before).live ∧ auction.itemGuidLow = item.guidLow := by
  intro before hbefore
  have hcustody : (w.run config before).Custody :=
    Lib.run_invariant_upto (fun _ _ h hkeeps => h.step hkeeps) h hkeeps hbefore
  refine ⟨hcustody, ?_⟩
  intro item hitem
  exact hcustody.existsUnique_auction hitem

def sampleConfig : Config where
  auctionCut _ bid := bid / 20
  auctionDeposit _ _ _ := 50
  auctionTime etime := etime
  accountConcurrentAuctionLimit := 0
  getAuctionsMap _ := 0

/-- A house with no auction, a seller with one item and a buyer. -/
def sampleWorld : World where
  characters :=
    [{ guidLow := 1, accountId := 1, online := true, hardcore := false, money := 100,
       inventory := [{ guidLow := 7, entry := 2589 }] },
     { guidLow := 2, accountId := 2, online := true, hardcore := false, money := 5000,
       inventory := [] }]
  houses := [{}]

theorem sampleWorld_custody : sampleWorld.Custody where
  fresh _ _ := rfl
  keyed := by simp [entries, sampleWorld, Lib.OrderedMap.empty]
  unique := by decide
  taken := by decide
  pool := by decide
  apart := by decide
  rows := by decide
  asserted := rfl

theorem custody_after_buyout :
    (sampleWorld.run sampleConfig
      [.sell { player := 1 } (some 7) 7 100 1000 120 0,
       .placeBid { player := 2 } (some 7) 1 1000]).Custody := by
  refine (custody_in_every_state sampleWorld_custody ?_ _ (List.prefix_refl _)).1
  exact ⟨⟨1, by decide, by decide⟩, trivial, trivial⟩

/-- The entry leaves the house and the item stays in the pool. -/
theorem custody_lost_by_removeAll :
    ¬ ∀ (config : Config) (w : World) (events : List MarketEvent), w.Custody →
      (w.run config events).Custody := by
  intro h
  have hpool := (h sampleConfig sampleWorld
    [.sell { player := 1 } (some 7) 7 100 1000 120 0, .removeAll 0 1] sampleWorld_custody).pool
  revert hpool
  decide

end World

end TortoiseWow.Auction
