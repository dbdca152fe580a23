import TortoiseWow.Auction.Coherence
import TortoiseWow.Lib.Paging
import Mathlib.Order.Interval.Finset.Nat

/-!
Snapshots of an auction house taken page by page, while auctions come and go
between the calls.
-/

namespace TortoiseWow.Auction

structure AuctionSnapshot where
  id : UInt32
  itemGuidLow : UInt32
  itemTemplate : UInt32
  owner : UInt32
  ownerAccount : UInt32
  startbid : UInt32
  bid : UInt32
  buyout : UInt32
  bidder : UInt32
  houseId : UInt32
  itemCount : UInt32
  expireTime : Nat
  deriving Repr, DecidableEq

def AuctionEntry.snapshot (auction : AuctionEntry) : AuctionSnapshot where
  id := auction.id
  itemGuidLow := auction.itemGuidLow
  itemTemplate := auction.itemTemplate
  owner := auction.owner
  ownerAccount := auction.ownerAccount
  startbid := auction.startbid
  bid := auction.bid
  buyout := auction.buyout
  bidder := auction.bidder
  houseId := auction.houseId
  itemCount := auction.itemCount
  expireTime := auction.expireTime

namespace HouseState

def snapshotEntry (s : HouseState) (entry : Nat × Ptr) : Option AuctionSnapshot :=
  (s.heap.entry entry.2).map AuctionEntry.snapshot

def getAuctionsSnapshotPage (s : HouseState) (afterId limit : UInt32) : List AuctionSnapshot :=
  ((s.house.auctionsMap.after afterId.toNat).filterMap s.snapshotEntry).take limit.toNat

def getAuctionsSnapshot (s : HouseState) : List AuctionSnapshot :=
  s.getAuctionsSnapshotPage 0 0xFFFFFFFF

end HouseState

def houseAt (changes : Nat → List HouseEvent) : Nat → HouseState
  | 0 => HouseState.run {} (changes 0)
  | call + 1 => (houseAt changes call).run (changes (call + 1))

/-- The pages of a reader that passes on the last id it received, until one is
shorter than the limit. -/
def snapshotScan (changes : Nat → List HouseEvent) (limit : UInt32) :
    Nat → Nat → UInt32 → Option (List (List AuctionSnapshot))
  | 0, _, _ => none
  | fuel + 1, call, lastId =>
      let page := (houseAt changes call).getAuctionsSnapshotPage lastId limit
      if page.length < limit.toNat then some [page]
      else
        match page.getLast? with
        | some last => (snapshotScan changes limit fuel (call + 1) last.id).map (page :: ·)
        | none => none

namespace HouseState

theorem keyed_houseAt (changes : Nat → List HouseEvent) (call : Nat) :
    (houseAt changes call).Keyed := by
  induction call with
  | zero => exact keyed_empty.run _
  | succ call ih => exact ih.run _

def snapshots (s : HouseState) : List AuctionSnapshot :=
  s.house.auctionsMap.entries.filterMap s.snapshotEntry

namespace Keyed

variable {s : HouseState}

theorem snapshotEntry (h : s.Keyed) {entry : Nat × Ptr}
    (hentry : entry ∈ s.house.auctionsMap.entries) :
    ∃ auction, s.snapshotEntry entry = some auction.snapshot ∧
      s.heap.entry entry.2 = some auction ∧ auction.snapshot.id.toNat = entry.1 := by
  obtain ⟨auction, hauction, hid⟩ := h.alive entry hentry
  exact ⟨auction, by simp [HouseState.snapshotEntry, hauction], hauction, hid⟩

theorem filterMap_filter (h : s.Keyed) (after : Nat) {entries : List (Nat × Ptr)}
    (hsub : ∀ entry ∈ entries, entry ∈ s.house.auctionsMap.entries) :
    (entries.filter (after < ·.1)).filterMap s.snapshotEntry =
      (entries.filterMap s.snapshotEntry).filter (fun snapshot => after < snapshot.id.toNat) := by
  induction entries with
  | nil => rfl
  | cons entry entries ih =>
      obtain ⟨auction, hsnapshot, -, hid⟩ := h.snapshotEntry (hsub entry (by simp))
      have hrest := ih (fun entry hentry => hsub entry (List.mem_cons_of_mem _ hentry))
      rw [List.filterMap_cons_some hsnapshot]
      by_cases hlt : after < entry.1
      · rw [List.filter_cons_of_pos (by simpa using hlt), List.filterMap_cons_some hsnapshot,
          List.filter_cons_of_pos (by simpa [hid] using hlt), hrest]
      · rw [List.filter_cons_of_neg (by simpa using hlt),
          List.filter_cons_of_neg (by simpa [hid] using hlt), hrest]

theorem getAuctionsSnapshotPage_eq (h : s.Keyed) (afterId limit : UInt32) :
    s.getAuctionsSnapshotPage afterId limit =
      Lib.page (fun snapshot => snapshot.id.toNat) s.snapshots afterId.toNat limit.toNat := by
  unfold HouseState.getAuctionsSnapshotPage Lib.page
  rw [Lib.OrderedMap.after_eq_filter, h.filterMap_filter afterId.toNat (fun _ hentry => hentry)]
  rfl

theorem snapshots_sorted (h : s.Keyed) :
    s.snapshots.Pairwise (fun a b => a.id.toNat < b.id.toNat) := by
  refine List.pairwise_filterMap.mpr (s.house.auctionsMap.sorted.imp_of_mem ?_)
  intro entry entry' hentry hentry' hlt snapshot hsnapshot snapshot' hsnapshot'
  obtain ⟨auction, heq, -, hid⟩ := h.snapshotEntry hentry
  obtain ⟨auction', heq', -, hid'⟩ := h.snapshotEntry hentry'
  obtain rfl := Option.some.inj (heq.symm.trans hsnapshot)
  obtain rfl := Option.some.inj (heq'.symm.trans hsnapshot')
  omega

theorem mem_snapshots (h : s.Keyed) {id : UInt32} :
    (∃ snapshot ∈ s.snapshots, snapshot.id.toNat = id.toNat) ↔
      (s.house.getAuction id).isSome := by
  constructor
  · rintro ⟨snapshot, hmem, hid⟩
    obtain ⟨entry, hentry, hsnapshot⟩ := List.mem_filterMap.mp hmem
    obtain ⟨auction, heq, -, hkey⟩ := h.snapshotEntry hentry
    obtain rfl := Option.some.inj (heq.symm.trans hsnapshot)
    have hfound := Lib.OrderedMap.find?_of_mem hentry
    rw [← hkey, hid] at hfound
    exact Option.isSome_of_eq_some hfound
  · intro hsome
    obtain ⟨ptr, hptr⟩ := Option.isSome_iff_exists.mp hsome
    have hentry := Lib.OrderedMap.find?_eq_some hptr
    obtain ⟨auction, heq, -, hid⟩ := h.snapshotEntry hentry
    exact ⟨auction.snapshot, List.mem_filterMap.mpr ⟨_, hentry, heq⟩, hid⟩

/-- There are fewer than 2^32 ids, so a full snapshot leaves none out. -/
theorem snapshots_length (h : s.Keyed) :
    (s.snapshots.filter fun snapshot => 0 < snapshot.id.toNat).length ≤ 2 ^ 32 - 1 := by
  have hsorted : ((s.snapshots.filter fun snapshot => 0 < snapshot.id.toNat).map
      fun snapshot => snapshot.id.toNat).Nodup :=
    List.pairwise_map.mpr ((h.snapshots_sorted.filter _).imp fun hlt => Nat.ne_of_lt hlt)
  have hsub : ((s.snapshots.filter fun snapshot => 0 < snapshot.id.toNat).map
      fun snapshot => snapshot.id.toNat).toFinset ⊆ Finset.Ioo 0 (2 ^ 32) := by
    intro k hk
    obtain ⟨snapshot, hmem, rfl⟩ := List.mem_map.mp (List.mem_toFinset.mp hk)
    have hpos : 0 < snapshot.id.toNat := by simpa using (List.mem_filter.mp hmem).2
    exact Finset.mem_Ioo.mpr ⟨hpos, snapshot.id.toNat_lt⟩
  have hcard := Finset.card_le_card hsub
  rw [List.toFinset_card_of_nodup hsorted, List.length_map, Nat.card_Ioo] at hcard
  omega

theorem getAuctionsSnapshot_eq (h : s.Keyed) :
    s.getAuctionsSnapshot = s.snapshots.filter fun snapshot => 0 < snapshot.id.toNat := by
  unfold HouseState.getAuctionsSnapshot
  rw [h.getAuctionsSnapshotPage_eq]
  exact List.take_of_length_le h.snapshots_length

end Keyed

end HouseState

theorem snapshotScan_eq (changes : Nat → List HouseEvent) (limit : UInt32) (fuel call : Nat)
    (lastId : UInt32) :
    snapshotScan changes limit fuel call lastId =
      Lib.scan (fun snapshot => snapshot.id.toNat) (fun call => (houseAt changes call).snapshots)
        limit.toNat fuel call lastId.toNat := by
  induction fuel generalizing call lastId with
  | zero => rfl
  | succ fuel ih =>
      simp only [snapshotScan, Lib.scan]
      rw [(HouseState.keyed_houseAt changes call).getAuctionsSnapshotPage_eq]
      split
      · rfl
      · split
        next last hlast => simp only [hlast, ih]
        next hnone => simp only [hnone]

/-- A reader with any page size finishes, whatever happens between the calls. It
receives strictly ascending ids, so none twice, and every id other than 0 that is
in the house at every call; the pages together are the snapshot if nothing
changes after the first call. -/
theorem snapshotScan_complete (changes : Nat → List HouseEvent) (limit : UInt32)
    (hlimit : 1 ≤ limit) :
    ∃ pages, snapshotScan changes limit (2 ^ 32) 0 0 = some pages ∧
      pages.flatten.Pairwise (fun a b => a.id < b.id) ∧
      (∀ id, id ≠ 0 →
        (∀ call < pages.length, ((houseAt changes call).house.getAuction id).isSome) →
        ∃ snapshot ∈ pages.flatten, snapshot.id = id) ∧
      ((∀ call, changes (call + 1) = []) →
        pages.flatten = (houseAt changes 0).getAuctionsSnapshot) := by
  have hkeyed := HouseState.keyed_houseAt changes
  rw [snapshotScan_eq]
  obtain ⟨pages, hscan, hsorted, -, hpresent, hsame⟩ :=
    Lib.scan_spec (fun call => (hkeyed call).snapshots_sorted)
      (fun call snapshot _ => snapshot.id.toNat_lt) (UInt32.le_iff_toNat_le.mp hlimit)
      (2 ^ 32) 0 0 (by decide) (by decide)
  refine ⟨pages, hscan, ?_, ?_, ?_⟩
  · exact hsorted.imp fun hlt => UInt32.lt_iff_toNat_lt.mpr hlt
  · intro id hid hthere
    have hpos : 0 < id.toNat :=
      Nat.pos_of_ne_zero fun hzero => hid (UInt32.toNat_inj.mp hzero)
    obtain ⟨call, -, snapshot, -, hkey, hmem⟩ := hpresent id.toNat hpos (fun call hcall => by
      rw [Nat.zero_add]
      exact (hkeyed call).mem_snapshots.mpr (hthere call hcall))
    exact ⟨snapshot, hmem, UInt32.toNat_inj.mp hkey⟩
  · intro hnone
    have hconst : ∀ call, houseAt changes call = houseAt changes 0 := by
      intro call
      induction call with
      | zero => rfl
      | succ call ih =>
          simp only [houseAt, hnone call]
          exact ih
    rw [(hkeyed 0).getAuctionsSnapshot_eq]
    exact hsame fun call => by rw [hconst]

/-- Three auctions, the first of which is removed after the first page. -/
def threeAuctions : Nat → List HouseEvent
  | 0 => [1, 2, 3].map fun id =>
      .add { id, itemGuidLow := id, itemTemplate := 100, owner := 5, ownerAccount := 7
             startbid := 1, bid := 0, buyout := 50, bidder := 0, deposit := 3, houseId := 1
             expireTime := 900 }
  | 1 => [.remove 1]
  | _ + 2 => []

theorem threeAuctions_received :
    ∃ pages, snapshotScan threeAuctions 1 (2 ^ 32) 0 0 = some pages ∧
      pages.flatten.Pairwise (fun a b => a.id < b.id) := by
  obtain ⟨pages, hscan, hsorted, -, -⟩ := snapshotScan_complete threeAuctions 1 (by decide)
  exact ⟨pages, hscan, hsorted⟩

/-- An auction under id 0 lies before the first cursor. -/
def auctionZero : Nat → List HouseEvent
  | 0 => [.add { id := 0, itemGuidLow := 10, itemTemplate := 100, owner := 5, ownerAccount := 7
                 startbid := 1, bid := 0, buyout := 50, bidder := 0, deposit := 3, houseId := 1
                 expireTime := 900 }]
  | _ + 1 => []

theorem auctionZero_not_received :
    snapshotScan auctionZero 1 1 0 0 = some [[]] ∧
      ((houseAt auctionZero 0).house.getAuction 0).isSome := by
  decide

end TortoiseWow.Auction
