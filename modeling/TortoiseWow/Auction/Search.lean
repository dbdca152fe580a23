import TortoiseWow.Auction.Market
import TortoiseWow.Lib.Paging

/-!
Searching an auction house: the fast path for a query of wildcards and the general
filtering loop, which agree exactly when nothing has to be filtered.
-/

namespace TortoiseWow.Auction

/-- What a search reads of an item template. -/
structure ItemPrototype where
  itemClass : UInt32
  subClass : UInt32
  inventoryType : UInt32
  quality : UInt32
  requiredLevel : UInt32
  name1 : String
  /-- The spell that the first spell of a recipe teaches. -/
  taughtSpell : Option UInt32 := none
  deriving Repr, DecidableEq

structure PoolItem where
  entry : UInt32
  enchantmentId : UInt32 := 0
  randomPropertyId : UInt32 := 0
  suffixFactor : UInt32 := 0
  count : UInt32 := 1
  spellCharges : UInt32 := 0
  proto : Option ItemPrototype
  deriving Repr, DecidableEq

structure Searcher where
  remoteAddress : String
  canUseItem : PoolItem → Bool := fun _ => true
  hasSpell : UInt32 → Bool := fun _ => false
  /-- Utf8FitTo on the localized name with its suffix. -/
  nameFits : PoolItem → ItemPrototype → String → Bool := fun _ _ _ => true

structure Query where
  wsearchedname : String
  levelmin : UInt8
  levelmax : UInt8
  usable : UInt8
  listfrom : Nat
  auctionSlotID : UInt32
  auctionMainCategory : UInt32
  auctionSubCategory : UInt32
  quality : UInt32
  deriving Repr, DecidableEq

/-- All fields but the page are wildcards. -/
def Query.isWildcard (query : Query) : Bool :=
  query.auctionMainCategory == 0xffffffff && query.auctionSubCategory == 0xffffffff &&
    query.auctionSlotID == 0xffffffff && query.quality == 0xffffffff && query.levelmin == 0 &&
    query.levelmax == 0 && query.usable == 0 && query.wsearchedname == ""

def wildcards (listfrom : Nat) : Query :=
  { wsearchedname := "", levelmin := 0, levelmax := 0, usable := 0, listfrom,
    auctionSlotID := 0xffffffff, auctionMainCategory := 0xffffffff,
    auctionSubCategory := 0xffffffff, quality := 0xffffffff }

/-- The record of an auction in the packet. -/
structure AuctionInfo where
  id : UInt32
  entry : UInt32
  enchantmentId : UInt32
  randomPropertyId : UInt32
  suffixFactor : UInt32
  count : UInt32
  spellCharges : UInt32
  owner : UInt32
  startbid : UInt32
  outbid : UInt32
  buyout : UInt32
  timeLeft : UInt32
  bidder : UInt32
  bid : UInt32
  deriving Repr, DecidableEq

structure Shelf where
  auctions : List AuctionEntry
  getAItem : UInt32 → Option PoolItem
  now : Nat := 0

/-- The packet so far, and the two counters. -/
structure Listed where
  data : List AuctionInfo := []
  count : Nat := 0
  totalcount : Nat := 0
  deriving Repr, DecidableEq

def AuctionEntry.isAvailableFor (auction : AuctionEntry) (player : Searcher) : Bool :=
  if auction.lockedIpAddress ≠ "" then auction.lockedIpAddress == player.remoteAddress else true

def invtypeChest : UInt32 := 5
def invtypeRobe : UInt32 := 20
def itemClassRecipe : UInt32 := 9

namespace Shelf

/-- The record, unless the item is missing. -/
def buildAuctionInfo (shelf : Shelf) (auction : AuctionEntry) : Option AuctionInfo :=
  (shelf.getAItem auction.itemGuidLow).map fun item =>
    { id := auction.id
      entry := item.entry
      enchantmentId := item.enchantmentId
      randomPropertyId := item.randomPropertyId
      suffixFactor := item.suffixFactor
      count := item.count
      spellCharges := item.spellCharges
      owner := auction.owner
      startbid := auction.startbid
      outbid := if auction.bid = 0 then 0 else auction.getAuctionOutBid
      buyout := auction.buyout
      timeLeft := UInt32.ofInt (((auction.expireTime : Int) - shelf.now) * 1000)
      bidder := auction.bidder
      bid := auction.bid }

def write (shelf : Shelf) (auction : AuctionEntry) (listed : Listed) : Listed :=
  { listed with
    data := listed.data ++ (shelf.buildAuctionInfo auction).toList
    count := listed.count + 1 }

/-- The loop of the fast path. -/
def listAvailable (shelf : Shelf) (player : Searcher) : List AuctionEntry → Listed → Listed
  | [], listed => listed
  | auction :: rest, listed =>
      if auction.isAvailableFor player then
        let listed := shelf.write auction listed
        if 50 ≤ listed.count then listed else shelf.listAvailable player rest listed
      else shelf.listAvailable player rest listed

def fastPath (shelf : Shelf) (player : Searcher) (query : Query) : Listed :=
  let listed : Listed := { totalcount := shelf.auctions.length }
  if query.listfrom < listed.totalcount then
    shelf.listAvailable player (shelf.auctions.drop query.listfrom) listed
  else listed

/-- The tests of the general loop on the template and the item. -/
def fits (player : Searcher) (query : Query) (item : PoolItem) (proto : ItemPrototype) : Bool :=
  !(query.auctionMainCategory != 0xffffffff && proto.itemClass != query.auctionMainCategory) &&
  !(query.auctionSubCategory != 0xffffffff && proto.subClass != query.auctionSubCategory) &&
  !(query.auctionSlotID != 0xffffffff && proto.inventoryType != query.auctionSlotID &&
    (query.auctionSlotID != invtypeChest || proto.inventoryType != invtypeRobe)) &&
  !(query.quality != 0xffffffff && proto.quality < query.quality) &&
  !(query.levelmin != 0 && (proto.requiredLevel < query.levelmin.toUInt32 ||
    (query.levelmax != 0 && query.levelmax.toUInt32 < proto.requiredLevel))) &&
  !(query.usable != 0 && !player.canUseItem item) &&
  !(query.usable != 0 && proto.itemClass == itemClassRecipe &&
    proto.taughtSpell.any player.hasSpell)

/-- The test of the name, made when the player may see the auction. -/
def nameFits (player : Searcher) (query : Query) (item : PoolItem) (proto : ItemPrototype) : Bool :=
  query.wsearchedname == "" ||
    (proto.name1 != "" && player.nameFits item proto query.wsearchedname)

/-- What the general loop does not skip. -/
def passes (shelf : Shelf) (player : Searcher) (query : Query) (auction : AuctionEntry) : Bool :=
  match shelf.getAItem auction.itemGuidLow with
  | none => false
  | some item =>
      match item.proto with
      | none => false
      | some proto =>
          fits player query item proto && auction.isAvailableFor player &&
            nameFits player query item proto

/-- One round of the general loop. -/
def listOne (shelf : Shelf) (player : Searcher) (query : Query) (listed : Listed)
    (auction : AuctionEntry) : Listed :=
  if shelf.passes player query auction then
    let listed := if listed.count < 50 ∧ query.listfrom ≤ listed.totalcount then
        shelf.write auction listed
      else listed
    { listed with totalcount := listed.totalcount + 1 }
  else listed

def generalLoop (shelf : Shelf) (player : Searcher) (query : Query) : Listed :=
  shelf.auctions.foldl (shelf.listOne player query) {}

def buildListAuctionItems (shelf : Shelf) (player : Searcher) (query : Query) : Listed :=
  if query.isWildcard then shelf.fastPath player query else shelf.generalLoop player query

def page (shelf : Shelf) (auctions : List AuctionEntry) (listfrom : Nat) : Listed :=
  { data := ((auctions.drop listfrom).take 50).filterMap shelf.buildAuctionInfo
    count := ((auctions.drop listfrom).take 50).length
    totalcount := auctions.length }

variable (shelf : Shelf) (player : Searcher)

theorem filterMap_concat (auctions : List AuctionEntry) (auction : AuctionEntry) :
    (auctions ++ [auction]).filterMap shelf.buildAuctionInfo =
      auctions.filterMap shelf.buildAuctionInfo ++ (shelf.buildAuctionInfo auction).toList := by
  rw [List.filterMap_append]
  cases found : shelf.buildAuctionInfo auction with
  | none => simp [found]
  | some info => simp [found]

theorem page_concat (auctions : List AuctionEntry) (auction : AuctionEntry) (listfrom : Nat) :
    shelf.page (auctions ++ [auction]) listfrom =
      { (if (shelf.page auctions listfrom).count < 50 ∧ listfrom ≤ auctions.length then
          shelf.write auction (shelf.page auctions listfrom) else shelf.page auctions listfrom) with
        totalcount := auctions.length + 1 } := by
  have entries := Lib.take_drop_concat auctions auction listfrom 50
  have count : (shelf.page auctions listfrom).count =
    ((auctions.drop listfrom).take 50).length := rfl
  rw [count]
  split
  case isTrue room =>
      rw [if_pos room] at entries
      simp only [page, entries, write, filterMap_concat, List.length_append, List.length_singleton]
  case isFalse full =>
      rw [if_neg full] at entries
      simp only [page, entries, List.length_append, List.length_singleton]

theorem generalLoop_eq (query : Query) :
    shelf.generalLoop player query =
      shelf.page (shelf.auctions.filter (shelf.passes player query)) query.listfrom := by
  simp only [generalLoop]
  induction shelf.auctions using List.reverseRecOn with
  | nil => simp [page]
  | append_singleton before auction ih =>
      rw [List.foldl_append, ih, List.foldl_cons, List.foldl_nil, List.filter_append]
      generalize before.filter (shelf.passes player query) = passed
      simp only [listOne]
      cases pass : shelf.passes player query auction with
      | false => simp [pass]
      | true =>
          rw [List.filter_singleton, pass, if_pos rfl, cond_true, page_concat]
          have total : (shelf.page passed query.listfrom).totalcount = passed.length := rfl
          rw [total]
          split <;> rfl

theorem listAvailable_eq (auctions : List AuctionEntry) (listed : Listed)
    (room : listed.count < 50) :
    shelf.listAvailable player auctions listed =
      { listed with
        data := listed.data ++ ((auctions.filter (·.isAvailableFor player)).take
          (50 - listed.count)).filterMap shelf.buildAuctionInfo
        count := listed.count + ((auctions.filter (·.isAvailableFor player)).take
          (50 - listed.count)).length } := by
  induction auctions generalizing listed with
  | nil => simp [listAvailable]
  | cons auction rest ih =>
      simp only [listAvailable]
      cases available : auction.isAvailableFor player with
      | false => simp [available, ih listed room]
      | true =>
          rw [List.filter_cons_of_pos
            (p := fun a : AuctionEntry => a.isAvailableFor player) available]
          generalize rest.filter (fun a => a.isAvailableFor player) = others at ih ⊢
          obtain ⟨left, more⟩ : ∃ left, 50 - listed.count = left + 1 :=
            ⟨49 - listed.count, by omega⟩
          have written : (auction :: others.take left).filterMap shelf.buildAuctionInfo =
              (shelf.buildAuctionInfo auction).toList ++
                (others.take left).filterMap shelf.buildAuctionInfo := by
            cases found : shelf.buildAuctionInfo auction with
            | none => simp [found]
            | some info => simp [found]
          rw [more, List.take_succ_cons, written, if_pos rfl]
          by_cases full : 50 ≤ (shelf.write auction listed).count
          · have last : left = 0 := by
              simp only [write] at full
              omega
            rw [if_pos full, last]
            simp [write]
          · have next := ih (shelf.write auction listed) (Nat.lt_of_not_le full)
            have rest : 50 - (shelf.write auction listed).count = left := by
              simp only [write]
              omega
            rw [if_neg full, next, rest]
            simp only [write, List.append_assoc, List.length_cons, Listed.mk.injEq,
              true_and, and_true]
            omega

theorem fastPath_eq (available : ∀ auction ∈ shelf.auctions, auction.isAvailableFor player = true)
    (query : Query) : shelf.fastPath player query = shelf.page shelf.auctions query.listfrom := by
  have all : (shelf.auctions.drop query.listfrom).filter (fun a => a.isAvailableFor player) =
      shelf.auctions.drop query.listfrom :=
    List.filter_eq_self.mpr fun auction later => available auction (List.mem_of_mem_drop later)
  simp only [fastPath]
  split
  case isTrue =>
      rw [shelf.listAvailable_eq player _ _ (show 0 < 50 by decide), all]
      simp [page]
  case isFalse beyond =>
      rw [page, List.drop_eq_nil_of_le (Nat.le_of_not_lt beyond)]
      rfl

def listable (auction : AuctionEntry) : Bool :=
  auction.isAvailableFor player && ((shelf.getAItem auction.itemGuidLow).any (·.proto.isSome))

/-- A query of wildcards skips what cannot be listed and nothing else. -/
theorem passes_wildcards (listfrom : Nat) (auction : AuctionEntry) :
    shelf.passes player (wildcards listfrom) auction = shelf.listable player auction := by
  simp only [passes, listable]
  cases shelf.getAItem auction.itemGuidLow with
  | none => simp
  | some item =>
      cases template : item.proto with
      | none => simp [template]
      | some proto => simp [template, fits, nameFits, wildcards]

/-- What the fast path is meant to do: for every page the packet and the counters of the
general loop; over the pages every available auction once; and a count of the records
that were written. -/
structure FastPathCorrect : Prop where
  agree : ∀ listfrom, shelf.buildListAuctionItems player (wildcards listfrom) =
    shelf.generalLoop player (wildcards listfrom)
  once : ∀ pages, shelf.auctions.length ≤ 50 * pages →
    ((List.range pages).flatMap fun k =>
      (shelf.buildListAuctionItems player (wildcards (50 * k))).data.map (·.id)).Perm
      ((shelf.auctions.filter (·.isAvailableFor player)).map (·.id))
  counted : ∀ listfrom, (shelf.buildListAuctionItems player (wildcards listfrom)).count =
    (shelf.buildListAuctionItems player (wildcards listfrom)).data.length

theorem filterMap_id {auctions : List AuctionEntry}
    (listable : ∀ auction ∈ auctions, shelf.listable player auction = true) :
    (auctions.filterMap shelf.buildAuctionInfo).map (·.id) = auctions.map (·.id) := by
  induction auctions with
  | nil => rfl
  | cons auction rest ih =>
      have first := listable auction List.mem_cons_self
      simp only [Shelf.listable, Bool.and_eq_true, Option.any_eq_true] at first
      obtain ⟨item, found, -⟩ := first.2
      have record : ∃ info, shelf.buildAuctionInfo auction = some info ∧ info.id = auction.id := by
        simp only [buildAuctionInfo, found, Option.map_some]
        exact ⟨_, rfl, rfl⟩
      obtain ⟨info, built, same⟩ := record
      rw [List.filterMap_cons_some built, List.map_cons, List.map_cons, same,
        ih fun auction later => listable auction (List.mem_cons_of_mem _ later)]

/-- The fast path is correct for a player exactly where every auction can be listed for
him. -/
theorem fastPath_correct_iff :
    shelf.FastPathCorrect player ↔
      ∀ auction ∈ shelf.auctions, shelf.listable player auction = true := by
  have fast : ∀ listfrom, shelf.buildListAuctionItems player (wildcards listfrom) =
      shelf.fastPath player (wildcards listfrom) := fun listfrom => if_pos rfl
  have general : ∀ listfrom, shelf.generalLoop player (wildcards listfrom) =
      shelf.page (shelf.auctions.filter (shelf.listable player)) listfrom := by
    intro listfrom
    rw [generalLoop_eq]
    exact congrArg (fun p => shelf.page (shelf.auctions.filter p) listfrom)
      (funext (shelf.passes_wildcards player listfrom))
  constructor
  · intro correct
    have agree := congrArg Listed.totalcount (correct.agree shelf.auctions.length)
    rw [fast, general] at agree
    have all : shelf.auctions.length = (shelf.auctions.filter (shelf.listable player)).length := by
      simpa [fastPath, wildcards, page] using agree
    exact List.length_filter_eq_length_iff.mp all.symm
  · intro every
    have available : ∀ auction ∈ shelf.auctions, auction.isAvailableFor player = true :=
      fun auction listed => (Bool.and_eq_true_iff.mp (every auction listed)).1
    have pages : ∀ listfrom, shelf.buildListAuctionItems player (wildcards listfrom) =
        shelf.page shelf.auctions listfrom :=
      fun listfrom => (fast listfrom).trans (shelf.fastPath_eq player available _)
    have written : ∀ listfrom, (shelf.page shelf.auctions listfrom).data.map (·.id) =
        (((shelf.auctions.drop listfrom).take 50).map (·.id)) := fun listfrom =>
      shelf.filterMap_id player fun auction onPage =>
        every auction (List.mem_of_mem_drop (List.mem_of_mem_take onPage))
    refine ⟨fun listfrom => ?_, fun count enough => ?_, fun listfrom => ?_⟩
    · rw [pages, general, List.filter_eq_self.mpr every]
    · have ids := congrArg (List.map AuctionEntry.id) (Lib.flatMap_pages shelf.auctions enough)
      rw [List.map_flatMap] at ids
      simp only [pages, written]
      rw [ids, List.filter_eq_self.mpr available]
    · rw [pages]
      have lengths := congrArg List.length (written listfrom)
      simp only [List.length_map] at lengths
      exact lengths.symm

/-- Two auctions, the first reserved for an address that is not the searcher's. -/
def lockedFirst : Shelf :=
  { auctions := [
      { id := 1, itemGuidLow := 1, itemTemplate := 2589, owner := 1, ownerAccount := 1,
        startbid := 1, bid := 0, buyout := 0, bidder := 0, deposit := 0, houseId := 1,
        expireTime := 100, lockedIpAddress := "10.0.0.9" },
      { id := 2, itemGuidLow := 2, itemTemplate := 2589, owner := 1, ownerAccount := 1,
        startbid := 1, bid := 0, buyout := 0, bidder := 0, deposit := 0, houseId := 1,
        expireTime := 100 }]
    getAItem := fun _ => some
      { entry := 2589
        proto := some
          { itemClass := 7, subClass := 0, inventoryType := 0, quality := 1, requiredLevel := 0,
            name1 := "Linen Cloth" } } }

/-- The packet says that there are two auctions, and lists one. -/
theorem lockedFirst_totalcount : ¬ lockedFirst.FastPathCorrect { remoteAddress := "10.0.0.1" } := by
  intro correct
  have agree := congrArg Listed.totalcount (correct.agree 0)
  exact absurd agree (by decide)

end Shelf

end TortoiseWow.Auction
