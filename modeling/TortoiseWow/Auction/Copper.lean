import TortoiseWow.Auction.Custody

/-!
Copper is conserved: what leaves a purse is held by a live auction, lies in a
mail, was taken as a cut or was forfeited with a deposit.
-/

namespace TortoiseWow.Auction

def AuctionEntry.held (auction : AuctionEntry) : Nat := auction.bid.toNat + auction.deposit.toNat

namespace World

def purses (w : World) : Nat := (w.characters.map (·.money.toNat)).sum

def posted (w : World) : Nat := (w.mails.map (·.money.toNat)).sum

/-- The copper outside the live auctions. -/
def released (w : World) : Nat := w.purses + w.posted + w.cuts + w.forfeited

def copper (w : World) : Nat := w.released + (w.live.map (·.held)).sum

structure Present (characters : List Character) : Prop where
  distinct : (characters.map (·.guidLow)).Nodup
  guid : ∀ c ∈ characters, c.guidLow ≠ 0
  account : ∀ c ∈ characters, c.accountId ≠ 0
  mortal : ∀ c ∈ characters, c.hardcore = false
  capped : ∀ c ∈ characters, c.money ≤ maxMoneyAmount

/-- An auction whose parties exist and whose amounts fit. -/
structure Payable (guids : List UInt32) (auction : AuctionEntry) : Prop where
  owner : auction.owner ∈ guids
  bidder : auction.bidder ≠ 0 → auction.bidder ∈ guids
  unbid : auction.bidder = 0 → auction.bid = 0
  below : auction.buyout ≠ 0 → auction.bid < auction.buyout
  bid : auction.bid ≤ maxMoneyAmount
  deposit : auction.deposit ≤ maxMoneyAmount

structure Solvent (w : World) : Prop extends Sound w where
  present : Present w.characters
  payable : ∀ auction ∈ w.live, Payable (w.characters.map (·.guidLow)) auction

theorem mem_of_character? {w : World} {guidLow : UInt32} {c : Character}
    (h : w.character? guidLow = some c) : c ∈ w.characters := List.mem_of_find?_eq_some h

namespace Present

variable {w : World}

theorem character? (h : Present w.characters) {c : Character} (hc : c ∈ w.characters) :
    w.character? c.guidLow = some c := by
  cases hfind : w.character? c.guidLow with
  | none =>
      have hnone := List.find?_eq_none.mp hfind c hc
      simp at hnone
  | some c' =>
      have hsame := List.inj_on_of_nodup_map h.distinct (mem_of_character? hfind) hc
        (character?_guidLow hfind)
      rw [hsame]

theorem exists? (h : Present w.characters) {guidLow : UInt32}
    (hguid : guidLow ∈ w.characters.map (·.guidLow)) :
    w.exists? guidLow = true ∧ w.isHardcore guidLow = false := by
  obtain ⟨c, hc, rfl⟩ := List.mem_map.mp hguid
  have hfind := h.character? hc
  have haccount := h.account c hc
  constructor
  · simp [World.exists?, hfind, haccount]
  · simp [isHardcore, hfind, h.mortal c hc]

theorem refundBidder (h : Present w.characters) {auction : AuctionEntry}
    (hbidder : auction.bidder ∈ w.characters.map (·.guidLow)) :
    w.refundBidder auction =
      w.sendMail { receiver := auction.bidder, money := auction.bid, items := [] } := by
  obtain ⟨hexists, hmortal⟩ := h.exists? hbidder
  simp [World.refundBidder, hexists, hmortal]

end Present

def debited (characters : List Character) (guidLow amount : UInt32) : List Character :=
  characters.map fun c =>
    if c.guidLow = guidLow
      then { c with money := TortoiseWow.modifyMoney c.money (-amount.toInt32) }
    else c

theorem modifyMoney_characters (w : World) (guidLow amount : UInt32) :
    (w.modifyMoney guidLow (-amount.toInt32)).characters =
      debited w.characters guidLow amount := rfl

theorem debited_guids (characters : List Character) (guidLow amount : UInt32) :
    (debited characters guidLow amount).map (·.guidLow) = characters.map (·.guidLow) := by
  simp only [debited, List.map_map]
  refine List.map_congr_left ?_
  intro c _
  simp only [Function.comp_apply]
  split <;> rfl

theorem debit_toNat {money amount : UInt32} (hcovered : amount ≤ money)
    (hcapped : money ≤ maxMoneyAmount) :
    (TortoiseWow.modifyMoney money (-amount.toInt32)).toNat + amount.toNat = money.toNat := by
  have hcovered := UInt32.le_iff_toNat_le.mp hcovered
  have hcapped := UInt32.le_iff_toNat_le.mp hcapped
  have hcap : maxMoneyAmount.toNat = 2147483646 := rfl
  refine (modifyMoney_debit_iff hcovered).mpr ⟨?_, ?_⟩ <;> omega

theorem debited_of_not_mem {characters : List Character} {guidLow : UInt32}
    (h : guidLow ∉ characters.map (·.guidLow)) (amount : UInt32) :
    debited characters guidLow amount = characters := by
  refine (List.map_congr_left ?_).trans (List.map_id' _)
  intro c hc
  refine if_neg ?_
  rintro rfl
  exact h (List.mem_map_of_mem hc)

theorem sum_debited {characters : List Character}
    (hdistinct : (characters.map (·.guidLow)).Nodup) {pl : Character} (hpl : pl ∈ characters)
    {amount : UInt32} (hcovered : amount ≤ pl.money) (hcapped : pl.money ≤ maxMoneyAmount) :
    ((debited characters pl.guidLow amount).map (·.money.toNat)).sum + amount.toNat =
      (characters.map (·.money.toNat)).sum := by
  induction characters with
  | nil => cases hpl
  | cons c rest ih =>
      obtain ⟨hnew, hrest⟩ := List.nodup_cons.mp hdistinct
      have hcons : debited (c :: rest) pl.guidLow amount =
          (if c.guidLow = pl.guidLow then
            { c with money := TortoiseWow.modifyMoney c.money (-amount.toInt32) } else c) ::
            debited rest pl.guidLow amount := rfl
      rw [hcons]
      obtain rfl | hpl := List.mem_cons.mp hpl
      · have hdebit := debit_toNat hcovered hcapped
        rw [if_pos rfl, debited_of_not_mem hnew]
        simp only [List.map_cons, List.sum_cons]
        omega
      · have hother : c.guidLow ≠ pl.guidLow := by
          intro hsame
          exact hnew (List.mem_map.mpr ⟨pl, hpl, hsame.symm⟩)
        have hsum := ih hrest hpl
        rw [if_neg hother]
        simp only [List.map_cons, List.sum_cons]
        omega

theorem Present.debit {characters : List Character} (h : Present characters) {pl : Character}
    (hpl : pl ∈ characters) {amount : UInt32} (hcovered : amount ≤ pl.money) :
    Present (debited characters pl.guidLow amount) := by
  have hkept : ∀ c ∈ debited characters pl.guidLow amount, ∃ c' ∈ characters,
      c.guidLow = c'.guidLow ∧ c.accountId = c'.accountId ∧ c.hardcore = c'.hardcore ∧
        c.money.toNat ≤ c'.money.toNat := by
    intro c hc
    obtain ⟨c', hc', rfl⟩ := List.mem_map.mp hc
    refine ⟨c', hc', ?_⟩
    split
    case isTrue hsame =>
      obtain rfl := List.inj_on_of_nodup_map h.distinct hc' hpl hsame
      have hdebit := debit_toNat hcovered (h.capped _ hpl)
      exact ⟨rfl, rfl, rfl, by dsimp only; omega⟩
    case isFalse => exact ⟨rfl, rfl, rfl, Nat.le_refl _⟩
  refine ⟨?_, ?_, ?_, ?_, ?_⟩
  · rw [debited_guids]
    exact h.distinct
  · intro c hc
    obtain ⟨c', hc', hguid, -, -, -⟩ := hkept c hc
    exact hguid ▸ h.guid c' hc'
  · intro c hc
    obtain ⟨c', hc', -, haccount, -, -⟩ := hkept c hc
    exact haccount ▸ h.account c' hc'
  · intro c hc
    obtain ⟨c', hc', -, -, hhardcore, -⟩ := hkept c hc
    exact hhardcore ▸ h.mortal c' hc'
  · intro c hc
    obtain ⟨c', hc', -, -, -, hmoney⟩ := hkept c hc
    have hcapped := UInt32.le_iff_toNat_le.mp (h.capped c' hc')
    exact UInt32.le_iff_toNat_le.mpr (hmoney.trans hcapped)

def bidCost (pl : Character) (auction : AuctionEntry) (price : UInt32) : UInt32 :=
  if pl.guidLow = auction.bidder then price - auction.bid else price

def refundMails (pl : Character) (auction : AuctionEntry) : List Mail :=
  if pl.guidLow = auction.bidder ∨ auction.bidder = 0 then []
  else [{ receiver := auction.bidder, money := auction.bid, items := [] }]

section Payments

variable {config : Config} {w : World} {pl : Character} {auction : AuctionEntry}

theorem Present.chargeBid (h : Present w.characters)
    (hpayable : Payable (w.characters.map (·.guidLow)) auction) (hpl : pl ∈ w.characters)
    {price : UInt32} (hcovered : price ≤ pl.money) :
    w.chargeBid pl auction price = { w with
      characters := debited w.characters pl.guidLow (bidCost pl auction price)
      mails := w.mails ++ refundMails pl auction } := by
  unfold World.chargeBid bidCost refundMails
  by_cases hown : pl.guidLow = auction.bidder
  · simp only [hown, if_true, true_or, List.append_nil]
    rfl
  · by_cases hzero : auction.bidder = 0
    · rw [if_neg hown, if_neg hown, if_pos (Or.inr hzero), List.append_nil]
      exact if_neg (not_not.mpr hzero)
    · simp only [hown, hzero, if_false, or_self, ne_eq, not_false_eq_true, if_true]
      have hrefund : (w.modifyMoney pl.guidLow (-price.toInt32)).refundBidder auction =
          (w.modifyMoney pl.guidLow (-price.toInt32)).sendMail
            { receiver := auction.bidder, money := auction.bid, items := [] } := by
        refine Present.refundBidder (h.debit hpl hcovered) ?_
        rw [modifyMoney_characters, debited_guids]
        exact hpayable.bidder hzero
      rw [hrefund]
      rfl

theorem bidCost_le {price : UInt32} (hraised : auction.bid ≤ price) :
    bidCost pl auction price ≤ price := by
  unfold bidCost
  split
  · rw [UInt32.le_iff_toNat_le, UInt32.toNat_sub_of_le _ _ hraised]
    exact Nat.sub_le _ _
  · exact UInt32.le_refl _

/-- What a bid takes from the purse and gives back by mail is the raise. -/
theorem bidCost_add (hpayable : Payable (w.characters.map (·.guidLow)) auction)
    {price : UInt32} (hraised : auction.bid ≤ price) :
    (bidCost pl auction price).toNat + auction.bid.toNat =
      price.toNat + ((refundMails pl auction).map (·.money.toNat)).sum := by
  have hle := UInt32.le_iff_toNat_le.mp hraised
  unfold bidCost refundMails
  by_cases hown : pl.guidLow = auction.bidder
  · rw [if_pos hown, if_pos (Or.inl hown), UInt32.toNat_sub_of_le _ _ hraised]
    simp only [List.map_nil, List.sum_nil]
    omega
  · rw [if_neg hown]
    by_cases hzero : auction.bidder = 0
    · rw [if_pos (Or.inr hzero), hpayable.unbid hzero]
      rfl
    · rw [if_neg (not_or.mpr ⟨hown, hzero⟩)]
      simp

theorem Present.released_chargeBid (h : Present w.characters)
    (hpayable : Payable (w.characters.map (·.guidLow)) auction) (hpl : pl ∈ w.characters)
    {price : UInt32} (hcovered : price ≤ pl.money) (hraised : auction.bid ≤ price) :
    (w.chargeBid pl auction price).released + price.toNat = w.released + auction.bid.toNat := by
  have hcost : bidCost pl auction price ≤ pl.money := UInt32.le_trans (bidCost_le hraised) hcovered
  have hsum := sum_debited h.distinct hpl hcost (h.capped _ hpl)
  have hadd : (bidCost pl auction price).toNat + auction.bid.toNat = _ :=
    bidCost_add hpayable hraised
  rw [h.chargeBid hpayable hpl hcovered]
  simp only [released, purses, posted, List.map_append, List.sum_append]
  omega

theorem Present.released_sendAuctionSuccessfulMail
    (hcut : ∀ house bid, config.auctionCut house bid ≤ bid)
    (h : Present w.characters) (howner : auction.owner ∈ w.characters.map (·.guidLow))
    (hbid : auction.bid ≤ maxMoneyAmount) (hdeposit : auction.deposit ≤ maxMoneyAmount) :
    (w.sendAuctionSuccessfulMail config auction).released = w.released + auction.held := by
  obtain ⟨hexists, hmortal⟩ := h.exists? howner
  have hbid := UInt32.le_iff_toNat_le.mp hbid
  have hdeposit := UInt32.le_iff_toNat_le.mp hdeposit
  have hcap : maxMoneyAmount.toNat = 2147483646 := rfl
  have hcut := UInt32.le_iff_toNat_le.mp (hcut auction.houseId auction.bid)
  have hsum : (auction.bid + auction.deposit).toNat =
    auction.bid.toNat + auction.deposit.toNat := by
    rw [UInt32.toNat_add]
    omega
  have hprofit : (auction.bid + auction.deposit - auction.getAuctionCut config).toNat +
      (auction.getAuctionCut config).toNat = auction.held := by
    unfold AuctionEntry.getAuctionCut AuctionEntry.held
    rw [UInt32.toNat_sub_of_le _ _ (UInt32.le_iff_toNat_le.mpr (by omega))]
    omega
  simp only [World.sendAuctionSuccessfulMail, hmortal, hexists, Bool.false_eq_true, if_false,
    if_true, sendMail, released, purses, posted, List.map_append, List.sum_append, List.map_cons,
    List.map_nil, List.sum_cons, List.sum_nil]
  omega

theorem released_sendItemMail (w : World) (auction : AuctionEntry) (receiver : UInt32) :
    (w.sendItemMail auction receiver).released = w.released := by
  unfold sendItemMail
  cases w.getAItem auction.itemGuidLow with
  | none => rfl
  | some item =>
      dsimp only
      split
      · split
        · simp [released, purses, posted, sendMail]
        · simp [released, purses, posted, sendMail, removeAItem]
      · rfl

theorem released_expired (hcut : ∀ house bid, config.auctionCut house bid ≤ bid)
    (h : Present w.characters) (hpayable : Payable (w.characters.map (·.guidLow)) auction) :
    (w.expired config auction).released = w.released + auction.held := by
  simp only [expired]
  split
  case isTrue hzero =>
    have hsent := w.released_sendItemMail auction auction.owner
    have hbid := hpayable.unbid hzero
    simp only [released, purses, posted, sendAuctionExpiredMail, AuctionEntry.held, hbid] at hsent ⊢
    have hforfeited : (w.sendItemMail auction auction.owner).forfeited = w.forfeited := by
      rw [sendItemMail_eq]
    simp only [UInt32.toNat_zero]
    omega
  case isFalse =>
    unfold sendAuctionWonMail
    rw [released_sendItemMail]
    exact h.released_sendAuctionSuccessfulMail hcut hpayable.owner hpayable.bid hpayable.deposit

theorem Present.payCancel (h : Present w.characters)
    (hpayable : Payable (w.characters.map (·.guidLow)) auction) :
    w.payCancel config pl auction = if auction.bidder = 0 then w else { w with
      characters := debited w.characters pl.guidLow (auction.getAuctionCut config)
      mails := w.mails ++ [{ receiver := auction.bidder, money := auction.bid, items := [] }]
      cuts := w.cuts + (auction.getAuctionCut config).toNat } := by
  have hpositive : 0 < auction.bidder ↔ auction.bidder ≠ 0 := by
    rw [UInt32.lt_iff_toNat_lt, ne_eq, ← UInt32.toNat_inj]
    exact Nat.pos_iff_ne_zero
  unfold World.payCancel
  by_cases hzero : auction.bidder = 0
  · rw [if_pos hzero, if_neg (fun hlt => hpositive.mp hlt hzero)]
  · rw [if_neg hzero, if_pos (hpositive.mpr hzero), h.refundBidder (hpayable.bidder hzero)]
    rfl

theorem released_cancelled (h : Present w.characters)
    (hpayable : Payable (w.characters.map (·.guidLow)) auction) (hpl : pl ∈ w.characters)
    (hcovered : auction.bidder ≠ 0 → auction.getAuctionCut config ≤ pl.money) (item : Item) :
    (w.cancelled config pl auction item).released = w.released + auction.held := by
  rw [cancelled_eq, h.payCancel hpayable]
  by_cases hzero : auction.bidder = 0
  · simp only [if_pos hzero, released, purses, posted, List.map_append, List.sum_append,
      List.map_cons, List.map_nil, List.sum_cons, List.sum_nil, AuctionEntry.held,
      hpayable.unbid hzero, UInt32.toNat_zero]
    omega
  · have hsum := sum_debited h.distinct hpl (hcovered hzero) (h.capped _ hpl)
    simp only [if_neg hzero, released, purses, posted, List.map_append, List.sum_append,
      List.map_cons, List.map_nil, List.sum_cons, List.sum_nil, AuctionEntry.held,
      UInt32.toNat_zero]
    omega

theorem released_bought (hcut : ∀ house bid, config.auctionCut house bid ≤ bid)
    (h : Present w.characters) (hpayable : Payable (w.characters.map (·.guidLow)) auction)
    (hpl : pl ∈ w.characters) (hcovered : auction.buyout ≤ pl.money)
    (hraised : auction.bid ≤ auction.buyout) (ptr : Ptr) :
    (w.bought config pl ptr auction).released = w.released + auction.held := by
  have hcost : bidCost pl auction auction.buyout ≤ pl.money :=
    UInt32.le_trans (bidCost_le hraised) hcovered
  have hcharged := h.released_chargeBid hpayable hpl hcovered hraised
  unfold World.bought sendAuctionWonMail
  rw [released_sendItemMail, Present.released_sendAuctionSuccessfulMail hcut]
  · simp only [withBid, AuctionEntry.held]
    change (w.chargeBid pl auction auction.buyout).released + _ = _
    omega
  · rw [h.chargeBid hpayable hpl hcovered]
    exact h.debit hpl hcost
  · rw [h.chargeBid hpayable hpl hcovered]
    dsimp only
    rw [debited_guids]
    exact hpayable.owner
  · exact UInt32.le_trans hcovered (h.capped _ hpl)
  · exact hpayable.deposit

end Payments

/-- A step keeps the parties solvent and the copper as it was. -/
structure Conserved (w w' : World) : Prop where
  solvent : w'.Solvent
  copper : w'.copper = w.copper

section Steps

variable {config : Config} {w w' : World} {i : Nat} {house : AuctionHouseObject} {ptr : Ptr}
  {auction auction' : AuctionEntry} {pl : Character}

theorem Solvent.conserved (h : w.Solvent) : Conserved w w := ⟨h, rfl⟩

theorem Conserved.trans {w'' : World} (h : Conserved w w') (h' : Conserved w' w'') :
    Conserved w w'' := ⟨h'.solvent, h'.copper.trans h.copper⟩

theorem Solvent.payable_found (h : w.Solvent) (hfound : Found w i house ptr auction) :
    Payable (w.characters.map (·.guidLow)) auction :=
  h.payable auction ((hfound.live_perm h.toSound).mem_iff.mpr List.mem_cons_self)

theorem Solvent.payable_others (h : w.Solvent) (hfound : Found w i house ptr auction)
    {a : AuctionEntry} (ha : a ∈ w.others auction.id) :
    Payable (w.characters.map (·.guidLow)) a :=
  h.payable a ((hfound.live_perm h.toSound).mem_iff.mpr (List.mem_cons_of_mem _ ha))

theorem Solvent.copper_eq (h : w.Solvent) (hfound : Found w i house ptr auction) :
    w.copper = w.released + auction.held + ((w.others auction.id).map (·.held)).sum := by
  unfold World.copper
  rw [((hfound.live_perm h.toSound).map (·.held)).sum_eq]
  simp only [List.map_cons, List.sum_cons]
  omega

theorem Solvent.closed (h : w.Solvent) (hfound : Found w i house ptr auction)
    (hsound : w'.Sound) (hfound' : Found w' i house ptr auction')
    (hothers : w'.others auction'.id = w.others auction.id)
    (hpresent : Present w'.characters)
    (hguids : w'.characters.map (·.guidLow) = w.characters.map (·.guidLow))
    (hreleased : w'.released = w.released + auction.held) :
    Conserved w (w'.closed i house ptr auction') := by
  have hclosed : (w'.closed i house ptr auction').Sound ∧
      (w'.closed i house ptr auction').live = w'.others auction'.id :=
    hsound.close hfound' rfl rfl rfl
  obtain ⟨hsound', hlive⟩ := hclosed
  rw [hothers] at hlive
  refine ⟨{ toSound := hsound', present := hpresent, payable := ?_ }, ?_⟩
  · intro a ha
    rw [hlive] at ha
    change Payable (w'.characters.map (·.guidLow)) a
    rw [hguids]
    exact h.payable_others hfound ha
  · unfold World.copper
    rw [hlive]
    change w'.released + _ = _
    rw [hreleased]
    exact (h.copper_eq hfound).symm

theorem Solvent.settleExpired (hcut : ∀ house bid, config.auctionCut house bid ≤ bid)
    (h : w.Solvent) (hfound : Found w i house ptr auction) :
    Conserved w (w.settleExpired config i ptr auction) := by
  have hreleased := released_expired hcut h.present (h.payable_found hfound)
  rw [hfound.settleExpired]
  have heq := w.expired_eq config auction
  have hheap : (w.expired config auction).heap = w.heap := by rw [heq]
  have hhouses : (w.expired config auction).houses = w.houses := by rw [heq]
  have hids : (w.expired config auction).auctionsIds = w.auctionsIds := by rw [heq]
  have hcharacters : (w.expired config auction).characters = w.characters := by rw [heq]
  refine h.closed hfound (h.toSound.congr hheap hhouses hids).1 (hfound.congr hheap hhouses)
    (others_congr hheap hhouses _) ?_ ?_ hreleased
  · rw [hcharacters]
    exact h.present
  · rw [hcharacters]

theorem Solvent.cancelled (h : w.Solvent) (hfound : Found w i house ptr auction)
    (hpl : pl ∈ w.characters)
    (hcovered : auction.bidder ≠ 0 → auction.getAuctionCut config ≤ pl.money) (item : Item) :
    Conserved w ((w.cancelled config pl auction item).closed i house ptr auction) := by
  have hpayable := h.payable_found hfound
  have hreleased := released_cancelled h.present hpayable hpl hcovered item
  have heq := w.cancelled_eq config pl auction item
  have hheap : (w.cancelled config pl auction item).heap = w.heap := by rw [heq]
  have hhouses : (w.cancelled config pl auction item).houses = w.houses := by rw [heq]
  have hids : (w.cancelled config pl auction item).auctionsIds = w.auctionsIds := by rw [heq]
  refine h.closed hfound (h.toSound.congr hheap hhouses hids).1 (hfound.congr hheap hhouses)
    (others_congr hheap hhouses _) ?_ ?_ hreleased
  · rw [heq, h.present.payCancel hpayable]
    split
    · exact h.present
    case isFalse hbidder => exact h.present.debit hpl (hcovered hbidder)
  · rw [heq, h.present.payCancel hpayable]
    split
    · rfl
    · exact debited_guids ..

theorem Solvent.bought (hcut : ∀ house bid, config.auctionCut house bid ≤ bid) (h : w.Solvent)
    (hfound : Found w i house ptr auction) (hpl : pl ∈ w.characters)
    (hcovered : auction.buyout ≤ pl.money) (hraised : auction.bid ≤ auction.buyout) :
    Conserved w ((w.bought config pl ptr auction).closed i house ptr
      (withBid auction pl.guidLow auction.buyout)) := by
  have hpayable := h.payable_found hfound
  have hreleased := released_bought hcut h.present hpayable hpl hcovered hraised ptr
  have heq := w.bought_eq config pl ptr auction
  have hmodified : (w.bought config pl ptr auction).Sound ∧ _ ∧ _ ∧
      (w.bought config pl ptr auction).others auction.id = w.others auction.id :=
    h.toSound.modify hfound (f := (withBid · pl.guidLow auction.buyout)) rfl
      (by rw [heq]) (by rw [heq]) (by rw [heq])
  obtain ⟨hsound, -, -, hothers⟩ := hmodified
  refine h.closed hfound hsound (hfound.bought config pl) hothers ?_ ?_ hreleased
  · rw [heq, h.present.chargeBid hpayable hpl hcovered]
    exact h.present.debit hpl (UInt32.le_trans (bidCost_le hraised) hcovered)
  · rw [heq, h.present.chargeBid hpayable hpl hcovered]
    exact debited_guids ..

/-- An auction is rewritten while the money around it moves. -/
theorem Solvent.modify (h : w.Solvent) (hfound : Found w i house ptr auction)
    {f : AuctionEntry → AuctionEntry} (hid : (f auction).id = auction.id)
    (hheap : w'.heap = w.heap.modify ptr f) (hhouses : w'.houses = w.houses)
    (hids : w'.auctionsIds = w.auctionsIds) (hpresent : Present w'.characters)
    (hguids : w'.characters.map (·.guidLow) = w.characters.map (·.guidLow))
    (hpayable : Payable (w.characters.map (·.guidLow)) (f auction))
    (hreleased : w'.released + (f auction).held = w.released + auction.held) :
    Conserved w w' := by
  obtain ⟨hsound, -, hlive, -⟩ := h.toSound.modify hfound hid hheap hhouses hids
  refine ⟨{ toSound := hsound, present := hpresent, payable := ?_ }, ?_⟩
  · intro a ha
    rw [hguids]
    obtain rfl | ha := List.mem_cons.mp (hlive.mem_iff.mp ha)
    · exact hpayable
    · exact h.payable_others hfound ha
  · rw [h.copper_eq hfound]
    unfold World.copper
    rw [(hlive.map (·.held)).sum_eq]
    simp only [List.map_cons, List.sum_cons]
    omega

theorem bidAccepted_iff {price : UInt32} (haccepted : w.bidAccepted pl auction price = true) :
    auction.bid < price ∧ price ≤ pl.money := by
  unfold bidAccepted at haccepted
  simp only [Bool.and_eq_true, Bool.not_eq_true', decide_eq_false_iff_not] at haccepted
  obtain ⟨⟨⟨-, hraised⟩, -⟩, hcovered⟩ := haccepted
  refine ⟨?_, ?_⟩
  · rw [UInt32.lt_iff_toNat_lt]
    rw [UInt32.le_iff_toNat_le] at hraised
    omega
  · rw [UInt32.le_iff_toNat_le]
    rw [UInt32.lt_iff_toNat_lt] at hcovered
    omega

theorem Solvent.raiseBid (h : w.Solvent) (hfound : Found w i house ptr auction)
    (hpl : pl ∈ w.characters) {price : UInt32} (hcovered : price ≤ pl.money)
    (hraised : auction.bid ≤ price) (hbelow : price < auction.buyout ∨ auction.buyout = 0) :
    Conserved w (w.raiseBid pl i ptr auction price) := by
  have hpayable := h.payable_found hfound
  have hreleased := h.present.released_chargeBid hpayable hpl hcovered hraised
  have heq := h.present.chargeBid hpayable hpl hcovered
  have hcharged : Found (w.chargeBid pl auction price) i house ptr auction := by
    rw [heq]
    exact hfound.congr rfl rfl
  unfold World.raiseBid
  dsimp only
  rw [hcharged.setBid]
  refine h.modify hfound (f := (withBid · pl.guidLow price)) rfl ?_ ?_ ?_ ?_ ?_ ?_ ?_
  · rw [heq]
  · rw [heq]
  · rw [heq]
  · rw [heq]
    exact h.present.debit hpl (UInt32.le_trans (bidCost_le hraised) hcovered)
  · rw [heq]
    exact debited_guids ..
  · refine ⟨hpayable.owner, ?_, ?_, ?_, ?_, hpayable.deposit⟩
    · intro _
      exact List.mem_map_of_mem hpl
    · intro hzero
      exact absurd hzero (h.present.guid pl hpl)
    · intro hbuyout
      exact hbelow.resolve_right hbuyout
    · exact UInt32.le_trans hcovered (h.present.capped pl hpl)
  · change (w.chargeBid pl auction price).released + _ = _
    simp only [AuctionEntry.held, withBid]
    omega

theorem Solvent.placeBid (hcut : ∀ house bid, config.auctionCut house bid ≤ bid)
    (h : w.Solvent) (session : Session) (house : Option UInt32) (auctionId price : UInt32) :
    Conserved w (w.handleAuctionPlaceBid config session house auctionId price) := by
  unfold handleAuctionPlaceBid
  cases hcheck : w.checkBid config session house auctionId price with
  | none => exact h.conserved
  | some found =>
      obtain ⟨pl, i, ptr, auction⟩ := found
      obtain ⟨house, hfound⟩ := h.toSound.found_of_checkBid hcheck
      obtain ⟨hplayer, -, haccepted⟩ := checkBid_some hcheck
      obtain ⟨hraised, hcovered⟩ := bidAccepted_iff haccepted
      have hpl := mem_of_character? hplayer
      dsimp only
      split
      case isTrue hbelow =>
        exact h.raiseBid hfound hpl hcovered (UInt32.le_of_lt hraised) hbelow
      case isFalse hreached =>
        obtain ⟨hbuyout, hnonzero⟩ := not_or.mp hreached
        have hle : auction.buyout ≤ price := by
          rw [UInt32.le_iff_toNat_le]
          rw [UInt32.lt_iff_toNat_lt] at hbuyout
          omega
        have hbelow := (h.payable_found hfound).below hnonzero
        rw [hfound.buyOut]
        exact h.bought hcut hfound hpl (UInt32.le_trans hle hcovered) (UInt32.le_of_lt hbelow)

theorem Solvent.cancel (h : w.Solvent) (session : Session) (house : Option UInt32)
    (auctionId : UInt32) :
    Conserved w (w.handleAuctionRemoveItem config session house auctionId) := by
  cases hcheck : w.checkCancel config session house auctionId with
  | none =>
      simp only [handleAuctionRemoveItem, hcheck]
      exact h.conserved
  | some found =>
      obtain ⟨pl, i, ptr, auction, item⟩ := found
      obtain ⟨house, hfound, -⟩ := h.toSound.found_of_checkCancel hcheck
      obtain ⟨hplayer, -, -, hcovered⟩ := checkCancel_some hcheck
      rw [handleAuctionRemoveItem_eq hcheck hfound]
      refine h.cancelled hfound (mem_of_character? hplayer) ?_ item
      intro hbidder
      rw [UInt32.le_iff_toNat_le]
      rw [UInt32.lt_iff_toNat_lt, UInt32.lt_iff_toNat_lt] at hcovered
      have hpositive : auction.bidder.toNat ≠ 0 := fun hzero =>
        hbidder (UInt32.toNat_inj.mp hzero)
      change ¬ (0 < _ ∧ _) at hcovered
      omega

theorem Solvent.expireAuction (hcut : ∀ house bid, config.auctionCut house bid ≤ bid)
    (h : w.Solvent) (i : Nat) (id : UInt32) : Conserved w (w.expireAuction config i id) := by
  unfold World.expireAuction
  cases hget : w.getAuction i id with
  | none => exact h.conserved
  | some found =>
      obtain ⟨ptr, auction⟩ := found
      obtain ⟨-, house, hfound⟩ := h.toSound.getAuction hget
      exact h.settleExpired hcut hfound

theorem Solvent.updateAuction (hcut : ∀ house bid, config.auctionCut house bid ≤ bid)
    (h : w.Solvent) (i curTime : Nat) (id : UInt32) :
    Conserved w (World.updateAuction config i curTime w id) := by
  unfold World.updateAuction
  cases hget : w.getAuction i id with
  | none => exact h.conserved
  | some found =>
      obtain ⟨ptr, auction⟩ := found
      obtain ⟨-, house, hfound⟩ := h.toSound.getAuction hget
      have hunlocked : Conserved w (w.onHouse i fun s => { s with
          heap := s.heap.modify ptr fun auction => { auction with lockedIpAddress := "" } }) := by
        rw [onHouse_eq hfound.here]
        have hpayable := h.payable_found hfound
        exact h.modify hfound rfl rfl (set_self hfound.here) rfl h.present rfl
          { hpayable with } rfl
      dsimp only
      split
      · split
        · exact hunlocked.trans (hunlocked.solvent.expireAuction hcut i id)
        · exact h.expireAuction hcut i id
      · split
        · exact hunlocked
        · exact h.conserved

theorem Solvent.update (hcut : ∀ house bid, config.auctionCut house bid ≤ bid) (h : w.Solvent)
    (i curTime : Nat) : Conserved w (w.update config i curTime) := by
  unfold World.update
  cases w.houses[i]? with
  | none => exact h.conserved
  | some house =>
      dsimp only
      generalize (house.auctionsMap.entries.map fun entry => UInt32.ofNat entry.1) = ids
      induction ids generalizing w with
      | nil => exact h.conserved
      | cons id ids ih =>
          have hfirst := h.updateAuction hcut i curTime id
          exact hfirst.trans (ih hfirst.solvent)

/-- What leaves the fields of `Present` alone. -/
theorem Present.map {characters : List Character} (h : Present characters)
    {f : Character → Character} (hguid : ∀ c, (f c).guidLow = c.guidLow)
    (haccount : ∀ c, (f c).accountId = c.accountId) (hmoney : ∀ c, (f c).money = c.money)
    (hmortal : ∀ c, c.hardcore = false → (f c).hardcore = false) :
    Present (characters.map f) := by
  refine ⟨?_, ?_, ?_, ?_, ?_⟩
  · rw [List.map_map]
    exact (List.map_congr_left fun c _ => hguid c) ▸ h.distinct
  all_goals
    intro c' hc'
    obtain ⟨c, hc, rfl⟩ := List.mem_map.mp hc'
  · exact hguid c ▸ h.guid c hc
  · exact haccount c ▸ h.account c hc
  · exact hmortal c (h.mortal c hc)
  · exact hmoney c ▸ h.capped c hc

def listedCharacters (w : World) (listing : Listing) : List Character :=
  (debited w.characters listing.pl.guidLow listing.deposit).map fun c =>
    if c.guidLow = listing.pl.guidLow then
      { c with inventory := c.inventory.filter (·.guidLow ≠ listing.it.guidLow) }
    else c

theorem map_listedCharacters (w : World) (listing : Listing) {β : Type} {g : Character → β}
    (hg : ∀ c inventory, g { c with inventory } = g c) :
    (w.listedCharacters listing).map g =
      (debited w.characters listing.pl.guidLow listing.deposit).map g := by
  unfold listedCharacters
  rw [List.map_map]
  refine List.map_congr_left ?_
  intro c _
  simp only [Function.comp_apply]
  split
  · exact hg ..
  · rfl

theorem Present.listed (h : Present w.characters) {listing : Listing}
    (hpl : listing.pl ∈ w.characters) (hcovered : listing.deposit ≤ listing.pl.money) :
    Present (w.listedCharacters listing) := by
  refine (h.debit hpl hcovered).map ?_ ?_ ?_ ?_
  · intro c
    split <;> rfl
  · intro c
    split <;> rfl
  · intro c
    split <;> rfl
  · intro c hmortal
    split
    · exact hmortal
    · exact hmortal

theorem Solvent.sell (h : w.Solvent) (hfree : w.HasFreeId) (session : Session)
    (house : Option UInt32) (itemGuid bid buyout etime : UInt32) (now : Nat) :
    Conserved w
      (w.handleAuctionSellItem config session house itemGuid bid buyout etime now) := by
  cases hlisting : w.checkListing config session house itemGuid bid buyout etime with
  | none =>
      simp only [handleAuctionSellItem, hlisting]
      exact h.conserved
  | some listing =>
      have hsold := checkListing_some hlisting
      obtain ⟨auctionHouse, hhouse⟩ := hsold.house
      rw [handleAuctionSellItem_eq hlisting hhouse now]
      have hid : (listing.auction config session bid buyout now w.generateAuctionID.1).id ∉
        w.auctionsIds := generateAuctionID_free hfree
      have hpl := mem_of_character? hsold.player
      have hcovered : listing.deposit ≤ listing.pl.money := by
        have hlt := hsold.covered
        rw [UInt32.le_iff_toNat_le]
        rw [UInt32.lt_iff_toNat_lt] at hlt
        omega
      have hsum := sum_debited h.present.distinct hpl hcovered (h.present.capped _ hpl)
      generalize hw : World.mk _ _ _ _ _ _ _ _ _ _ _ = w'
      have hcharacters : w'.characters = w.listedCharacters listing := by
        rw [← hw]
        rfl
      have hadded : w'.Sound ∧ w'.live.Perm
          (listing.auction config session bid buyout now w.generateAuctionID.1 :: w.live) :=
        h.toSound.add hhouse hid (hw ▸ rfl) (hw ▸ rfl) (hw ▸ rfl)
      have hguids : w'.characters.map (·.guidLow) = w.characters.map (·.guidLow) := by
        rw [hcharacters, w.map_listedCharacters listing fun _ _ => rfl, debited_guids]
      have hpurses : w'.purses + listing.deposit.toNat = w.purses := by
        unfold purses
        rw [hcharacters, w.map_listedCharacters listing fun _ _ => rfl, hsum]
      have hrest : w'.posted = w.posted ∧ w'.cuts = w.cuts ∧ w'.forfeited = w.forfeited := by
        rw [← hw]
        exact ⟨rfl, rfl, rfl⟩
      refine ⟨{ toSound := hadded.1, present := ?_, payable := ?_ }, ?_⟩
      · rw [hcharacters]
        exact h.present.listed hpl hcovered
      · intro a ha
        rw [hguids]
        obtain rfl | ha := List.mem_cons.mp (hadded.2.mem_iff.mp ha)
        · refine ⟨List.mem_map_of_mem hpl, ?_, ?_, ?_, ?_, ?_⟩
          · exact fun hne => absurd rfl hne
          · exact fun _ => rfl
          · intro hne
            rw [UInt32.lt_iff_toNat_lt]
            exact Nat.pos_of_ne_zero fun hzero => hne (UInt32.toNat_inj.mp hzero)
          · exact UInt32.le_iff_toNat_le.mpr (Nat.zero_le _)
          · exact UInt32.le_trans hcovered (h.present.capped _ hpl)
        · exact h.payable a ha
      · obtain ⟨hposted, hcuts, hforfeited⟩ := hrest
        have hheld : (listing.auction config session bid buyout now w.generateAuctionID.1).held =
            listing.deposit.toNat := Nat.zero_add _
        unfold World.copper released
        rw [(hadded.2.map (·.held)).sum_eq, hposted, hcuts, hforfeited]
        simp only [List.map_cons, List.sum_cons, hheld]
        omega

/-- A player logs in or out. -/
theorem Solvent.status (h : w.Solvent) (guidLow : UInt32) (online : Bool) :
    Conserved w (w.modifyCharacter guidLow fun c => { c with online, hardcore := false }) := by
  generalize hw : w.modifyCharacter guidLow _ = w'
  have hframe : w'.Sound ∧ w'.live = w.live :=
    h.toSound.congr (hw ▸ rfl) (hw ▸ rfl) (hw ▸ rfl)
  have hmap : ∀ {β : Type} (g : Character → β),
      (∀ c : Character, g { c with online, hardcore := false } = g c) →
      w'.characters.map g = w.characters.map g := by
    intro β g hg
    rw [← hw]
    simp only [modifyCharacter, List.map_map]
    refine List.map_congr_left ?_
    intro c _
    simp only [Function.comp_apply]
    split
    · exact hg c
    · rfl
  refine ⟨{ toSound := hframe.1, present := ?_, payable := ?_ }, ?_⟩
  · rw [← hw]
    refine h.present.map ?_ ?_ ?_ ?_
    · intro c
      split <;> rfl
    · intro c
      split <;> rfl
    · intro c
      split <;> rfl
    · intro c hmortal
      split
      · rfl
      · exact hmortal
  · rw [hframe.2, hmap (·.guidLow) fun _ => rfl]
    exact h.payable
  · have hrest : w'.posted = w.posted ∧ w'.cuts = w.cuts ∧ w'.forfeited = w.forfeited := by
      rw [← hw]
      exact ⟨rfl, rfl, rfl⟩
    obtain ⟨hposted, hcuts, hforfeited⟩ := hrest
    unfold World.copper released purses
    rw [hframe.2, hmap (·.money.toNat) fun _ => rfl, hposted, hcuts, hforfeited]

theorem sendItemMail_mails (w : World) (auction : AuctionEntry) (receiver : UInt32) :
    w.mails <+: (w.sendItemMail auction receiver).mails := by
  unfold sendItemMail
  cases w.getAItem auction.itemGuidLow with
  | none => exact List.prefix_refl _
  | some item =>
      dsimp only
      split
      · split
        · exact List.prefix_append _ _
        · exact List.prefix_append _ _
      · exact List.prefix_refl _

theorem sendAuctionSuccessfulMail_mails (config : Config) (w : World) (auction : AuctionEntry) :
    w.mails <+: (w.sendAuctionSuccessfulMail config auction).mails := by
  unfold World.sendAuctionSuccessfulMail
  split
  · exact List.prefix_refl _
  · split
    · exact List.prefix_append _ _
    · exact List.prefix_refl _

def asked (auction : AuctionEntry) (price : UInt32) : UInt32 :=
  if price < auction.buyout ∨ auction.buyout = 0 then price else auction.buyout

/-- An accepted bid takes its cost from the bidder and refunds the one he outbid. -/
theorem Solvent.placeBid_pays (h : w.Solvent) {session : Session} {houseId : Option UInt32}
    {auctionId price : UInt32}
    (hcheck : w.checkBid config session houseId auctionId price = some (pl, i, ptr, auction)) :
    auction.bid ≤ asked auction price ∧ asked auction price ≤ pl.money ∧
    (w.handleAuctionPlaceBid config session houseId auctionId price).characters =
        debited w.characters pl.guidLow (bidCost pl auction (asked auction price)) ∧
      w.mails ++ refundMails pl auction <+:
        (w.handleAuctionPlaceBid config session houseId auctionId price).mails := by
  obtain ⟨house, hfound⟩ := h.toSound.found_of_checkBid hcheck
  obtain ⟨hplayer, -, haccepted⟩ := checkBid_some hcheck
  obtain ⟨hraised, hcovered⟩ := bidAccepted_iff haccepted
  have hpl := mem_of_character? hplayer
  have hpayable := h.payable_found hfound
  unfold handleAuctionPlaceBid asked
  simp only [hcheck]
  split
  case isTrue hbelow =>
    have heq := h.present.chargeBid hpayable hpl hcovered
    have hcharged : Found (w.chargeBid pl auction price) i house ptr auction := by
      rw [heq]
      exact hfound.congr rfl rfl
    refine ⟨UInt32.le_of_lt hraised, hcovered, ?_⟩
    unfold World.raiseBid
    dsimp only
    rw [hcharged.setBid, heq]
    exact ⟨rfl, List.prefix_refl _⟩
  case isFalse hreached =>
    obtain ⟨hbuyout, hnonzero⟩ := not_or.mp hreached
    have hle : auction.buyout ≤ price := by
      rw [UInt32.le_iff_toNat_le]
      rw [UInt32.lt_iff_toNat_lt] at hbuyout
      omega
    have heq := h.present.chargeBid hpayable hpl (UInt32.le_trans hle hcovered)
    refine ⟨UInt32.le_of_lt (hpayable.below hnonzero), UInt32.le_trans hle hcovered, ?_, ?_⟩
    · rw [hfound.buyOut]
      unfold World.closed
      rw [bought_eq, heq]
    · rw [hfound.buyOut]
      unfold World.closed World.bought sendAuctionWonMail
      refine List.IsPrefix.trans ?_ (sendItemMail_mails _ _ _)
      refine List.IsPrefix.trans ?_ (sendAuctionSuccessfulMail_mails _ _ _)
      rw [heq]

end Steps

/-- The operations of the auction house on characters that are not hardcore; a
listing has an id left. -/
def KeepsCopper (w : World) : MarketEvent → Prop
  | .sell .. => w.HasFreeId
  | .removeAll .. => False
  | .status _ _ hardcore => hardcore = false
  | _ => True

theorem Solvent.step {config : Config} (hcut : ∀ house bid, config.auctionCut house bid ≤ bid)
    {w : World} (h : w.Solvent) {event : MarketEvent} (hkeeps : w.KeepsCopper event) :
    Conserved w (w.step config event) := by
  cases event with
  | sell session house itemGuid bid buyout etime now =>
      exact h.sell hkeeps session house itemGuid bid buyout etime now
  | placeBid session house auctionId price => exact h.placeBid hcut session house auctionId price
  | cancel session house auctionId => exact h.cancel session house auctionId
  | expire house auctionId => exact h.expireAuction hcut house auctionId
  | update house curTime => exact h.update hcut house curTime
  | removeAll house player => exact absurd hkeeps id
  | status guidLow online hardcore =>
      obtain rfl : hardcore = false := hkeeps
      exact h.status guidLow online

theorem Solvent.purse_after_bid {config : Config}
    (hcut : ∀ house bid, config.auctionCut house bid ≤ bid) {w : World} (h : w.Solvent)
    {session : Session} {houseId : Option UInt32} {auctionId price : UInt32} {pl : Character}
    {i : Nat} {ptr : Ptr} {auction : AuctionEntry}
    (hcheck : w.checkBid config session houseId auctionId price = some (pl, i, ptr, auction)) :
    ∃ pl', (w.handleAuctionPlaceBid config session houseId auctionId price).character? pl.guidLow =
        some pl' ∧
      pl'.money.toNat + (asked auction price).toNat = pl.money.toNat +
        if auction.bidder = pl.guidLow then auction.bid.toNat else 0 := by
  obtain ⟨hraised, hcovered, hcharacters, -⟩ := h.placeBid_pays hcheck
  have hpl := mem_of_character? (checkBid_some hcheck).1
  have hcost : bidCost pl auction (asked auction price) ≤ pl.money :=
    UInt32.le_trans (bidCost_le hraised) hcovered
  have hdebit := debit_toNat hcost (h.present.capped pl hpl)
  have hmem : ∀ cost, { pl with money := TortoiseWow.modifyMoney pl.money (-cost.toInt32) } ∈
      debited w.characters pl.guidLow cost :=
    fun _ => List.mem_map.mpr ⟨pl, hpl, if_pos rfl⟩
  have hafter := (h.placeBid hcut session houseId auctionId price).solvent.present
  have hfound := hafter.character? (hcharacters.symm ▸ hmem _)
  refine ⟨_, hfound, ?_⟩
  dsimp only
  by_cases hown : auction.bidder = pl.guidLow
  · have hle := UInt32.le_iff_toNat_le.mp hraised
    have heq : (bidCost pl auction (asked auction price)).toNat =
        (asked auction price).toNat - auction.bid.toNat := by
      unfold bidCost
      rw [if_pos hown.symm, UInt32.toNat_sub_of_le _ _ hraised]
    rw [if_pos hown]
    omega
  · have heq : bidCost pl auction (asked auction price) = asked auction price :=
      if_neg (Ne.symm hown)
    rw [if_neg hown]
    rw [heq] at hdebit ⊢
    omega

/-- Over every run copper is conserved; in every state it reaches, an accepted bid
costs a new bidder the price and the standing one the difference, and the bidder
who is outbid gets back his bid. -/
theorem copper_conserved {config : Config}
    (hcut : ∀ house bid, config.auctionCut house bid ≤ bid) {w : World} (h : w.Solvent)
    {events : List MarketEvent} (hkeeps : Lib.Along (World.step config) KeepsCopper w events) :
    ∀ before, before <+: events →
      (w.run config before).copper = w.copper ∧
      ∀ session houseId auctionId price pl i ptr auction,
        (w.run config before).checkBid config session houseId auctionId price =
          some (pl, i, ptr, auction) →
        let after :=
          (w.run config before).handleAuctionPlaceBid config session houseId auctionId price
        (∃ pl', after.character? pl.guidLow = some pl' ∧
          pl'.money.toNat + (asked auction price).toNat = pl.money.toNat +
            if auction.bidder = pl.guidLow then auction.bid.toNat else 0) ∧
        (auction.bidder ≠ 0 → auction.bidder ≠ pl.guidLow →
          (w.run config before).mails ++
            [{ receiver := auction.bidder, money := auction.bid, items := [] }] <+:
              after.mails) := by
  intro before hbefore
  have hreached : Conserved w (w.run config before) := by
    refine Lib.run_invariant_upto (I := fun w' => Conserved w w') ?_ h.conserved hkeeps hbefore
    intro w' event hconserved hkeeps
    exact hconserved.trans (hconserved.solvent.step hcut hkeeps)
  refine ⟨hreached.copper, ?_⟩
  intro session houseId auctionId price pl i ptr auction hcheck after
  have hsolvent := hreached.solvent
  refine ⟨hsolvent.purse_after_bid hcut hcheck, ?_⟩
  intro hbidder hother
  have hmails := (hsolvent.placeBid_pays hcheck).2.2.2
  unfold refundMails at hmails
  rwa [if_neg (not_or.mpr ⟨Ne.symm hother, hbidder⟩)] at hmails

theorem sampleWorld_solvent : sampleWorld.Solvent where
  toSound := sampleWorld_custody.toSound
  present := ⟨by decide, by decide, by decide, by decide, by decide⟩
  payable := by simp [live, entries, sampleWorld, Lib.OrderedMap.empty]

theorem sampleConfig_cut (house bid : UInt32) : sampleConfig.auctionCut house bid ≤ bid := by
  rw [UInt32.le_iff_toNat_le]
  change (bid / 20).toNat ≤ _
  rw [UInt32.toNat_div]
  exact Nat.div_le_self _ _

theorem copper_after_bids :
    (sampleWorld.run sampleConfig
      [.sell { player := 1 } (some 7) 7 100 1000 120 0,
       .placeBid { player := 2 } (some 7) 1 200,
       .placeBid { player := 2 } (some 7) 1 1000]).copper = sampleWorld.copper := by
  refine (copper_conserved sampleConfig_cut sampleWorld_solvent ?_ _ (List.prefix_refl _)).1
  exact ⟨⟨1, by decide, by decide⟩, trivial, trivial, trivial⟩

/-- Two auctions at the ends of the range of ids, and the next id at the upper end. -/
def fullWorld : World :=
  let auction (id : UInt32) : AuctionEntry :=
    { id, itemGuidLow := id, itemTemplate := 2589, owner := 1, ownerAccount := 1, startbid := 10,
      bid := 0, buyout := 0, bidder := 0, deposit := 50, houseId := 7, expireTime := 0 }
  let s : HouseState := (HouseState.addAuction {} (auction 4294967295)).addAuction (auction 0)
  { sampleWorld with
    heap := s.heap
    houses := [s.house]
    auctionsIds := [4294967295, 0]
    nextAuctionId := 4294967295 }

theorem fullWorld_solvent : fullWorld.Solvent where
  fresh ptr hptr := by
    have hptr : (2 : Nat) ≤ ptr := hptr
    have hfirst : ptr ≠ 0 := Nat.ne_of_gt (Nat.lt_of_lt_of_le (by decide) hptr)
    have hsecond : ptr ≠ 1 := Nat.ne_of_gt (Nat.lt_of_lt_of_le (by decide) hptr)
    change Function.update (Function.update (fun _ => none) 0 _) 1 _ ptr = none
    rw [Function.update_of_ne hsecond, Function.update_of_ne hfirst]
  keyed := by
    change ∀ entry ∈ [((0 : Nat), (1 : Ptr)), (4294967295, 0)], _
    simp only [List.forall_mem_cons, List.not_mem_nil, false_imp_iff, implies_true, and_true]
    exact ⟨⟨_, rfl, rfl⟩, _, rfl, rfl⟩
  unique := by decide
  taken := by decide
  present := ⟨by decide, by decide, by decide, by decide, by decide⟩
  payable := by
    change ∀ auction ∈ [_, _], _
    simp only [List.forall_mem_cons, List.not_mem_nil, false_imp_iff, implies_true, and_true]
    constructor
    · exact ⟨by decide, by decide, by decide, by decide, by decide, by decide⟩
    · exact ⟨by decide, by decide, by decide, by decide, by decide, by decide⟩

/-- Five percent at a rate of 25. -/
def greedyConfig : Config := { sampleConfig with auctionCut := fun _ bid => bid + bid / 4 }

/-- The search for an id runs over the end of the range and takes 0 again: the
auction that had it is no longer in the house, and its deposit is gone. And where the
cut is above the bid, the owner is mailed what is left of it modulo 2^32. -/
theorem copper_lost_with_taken_id :
    (fullWorld.Solvent ∧ (∀ house bid, sampleConfig.auctionCut house bid ≤ bid) ∧
      (fullWorld.run sampleConfig [.sell { player := 1 } (some 7) 7 100 1000 120 0]).copper + 50 =
        fullWorld.copper) ∧
    sampleWorld.HasFreeId ∧
      (sampleWorld.run greedyConfig
        [.sell { player := 1 } (some 7) 7 100 1000 120 0,
         .placeBid { player := 2 } (some 7) 1 400,
         .expire 0 1]).copper = sampleWorld.copper + 2 ^ 32 :=
  ⟨⟨fullWorld_solvent, sampleConfig_cut, by decide⟩, ⟨1, by decide, by decide⟩, by decide⟩

end World

end TortoiseWow.Auction
