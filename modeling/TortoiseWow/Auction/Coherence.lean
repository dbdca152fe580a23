import TortoiseWow.Auction.House

/-!
The three maps of an auction house hold the same live entries, each once and
under the key its fields name, whatever the callers do.
-/

namespace TortoiseWow.Auction

def Heap.key (heap : Heap) (field : AuctionEntry → UInt32) (ptr : Ptr) : Nat :=
  match heap.entry ptr with
  | some auction => (field auction).toNat
  | none => 0

theorem Heap.key_of_entry {heap : Heap} {ptr : Ptr} {auction : AuctionEntry}
    (h : heap.entry ptr = some auction) (field : AuctionEntry → UInt32) :
    heap.key field ptr = (field auction).toNat := by
  simp [Heap.key, h]

theorem Heap.key_congr {heap heap' : Heap} {ptr : Ptr} (h : heap'.entry ptr = heap.entry ptr)
    (field : AuctionEntry → UInt32) : heap'.key field ptr = heap.key field ptr := by
  simp [Heap.key, h]

namespace HouseState

structure Keyed (s : HouseState) : Prop where
  fresh : ∀ ptr, s.heap.next ≤ ptr → s.heap.entry ptr = none
  alive : ∀ entry ∈ s.house.auctionsMap.entries,
    ∃ auction, s.heap.entry entry.2 = some auction ∧ auction.id.toNat = entry.1

namespace Keyed

variable {s : HouseState}

theorem addAuction (h : s.Keyed) (auction : AuctionEntry) : (s.addAuction auction).Keyed := by
  have hother : ∀ ptr, ptr ≠ s.heap.next →
      (s.addAuction auction).heap.entry ptr = s.heap.entry ptr :=
    fun ptr hptr => Function.update_of_ne hptr _ _
  refine ⟨?_, ?_⟩
  · intro ptr hptr
    have hlt : s.heap.next < ptr := hptr
    rw [hother ptr (Nat.ne_of_gt hlt)]
    exact h.fresh ptr (Nat.le_of_lt hlt)
  · intro entry hentry
    rcases Lib.OrderedMap.mem_assignEntries_of_mem hentry with rfl | hentry
    · exact ⟨auction, Function.update_self .., rfl⟩
    · obtain ⟨old, hold, hid⟩ := h.alive entry hentry
      refine ⟨old, ?_, hid⟩
      rw [hother]
      · exact hold
      · intro hsame
        rw [hsame, h.fresh _ (Nat.le_refl _)] at hold
        cases hold

/-- Erasing ids keeps the rest. -/
theorem removeAuction (h : s.Keyed) (ptr : Ptr) : (s.removeAuction ptr).Keyed := by
  unfold HouseState.removeAuction
  split
  · exact ⟨h.fresh, fun entry hentry => h.alive entry (Lib.OrderedMap.mem_erase.mp hentry).1⟩
  · exact h

theorem modify (h : s.Keyed) (ptr : Ptr) {f : AuctionEntry → AuctionEntry}
    (hid : ∀ auction, (f auction).id = auction.id) :
    Keyed { s with heap := s.heap.modify ptr f } := by
  refine ⟨?_, ?_⟩
  · intro ptr' hptr'
    by_cases hsame : ptr' = ptr
    · subst hsame
      simp [Heap.modify, h.fresh ptr' hptr']
    · exact (Function.update_of_ne hsame _ _).trans (h.fresh ptr' hptr')
  · intro entry hentry
    obtain ⟨auction, hauction, hkey⟩ := h.alive entry hentry
    by_cases hsame : entry.2 = ptr
    · refine ⟨f auction, ?_, by rw [hid, hkey]⟩
      rw [← hsame]
      simp [Heap.modify, hauction]
    · exact ⟨auction, (Function.update_of_ne hsame _ _).trans hauction, hkey⟩

theorem removeAuction_deleteEntry (h : s.Keyed) (ptr : Ptr) :
    ((s.removeAuction ptr).deleteEntry ptr).Keyed := by
  have hremoved := h.removeAuction ptr
  refine ⟨?_, ?_⟩
  · intro ptr' hptr'
    by_cases hsame : ptr' = ptr
    · rw [hsame]
      exact Function.update_self ..
    · exact (Function.update_of_ne hsame _ _).trans (hremoved.fresh ptr' hptr')
  · intro entry hentry
    obtain ⟨auction, hauction, hkey⟩ := hremoved.alive entry hentry
    have hne : entry.2 ≠ ptr := by
      intro hsame
      have hheap : (s.removeAuction ptr).heap = s.heap := by
        unfold HouseState.removeAuction
        split <;> rfl
      have hmem : entry ∈ (s.removeAuction ptr).house.auctionsMap.entries := hentry
      rw [hheap, hsame] at hauction
      simp only [HouseState.removeAuction, hauction] at hmem
      exact (Lib.OrderedMap.mem_erase.mp hmem).2 hkey.symm
    exact ⟨auction, (Function.update_of_ne hne _ _).trans hauction, hkey⟩

theorem expireAuction (h : s.Keyed) (ptr : Ptr) : (s.expireAuction ptr).Keyed := by
  unfold HouseState.expireAuction
  split
  · split
    · exact h.removeAuction_deleteEntry ptr
    · exact h
  · exact h

theorem updateEntry (h : s.Keyed) (curTime : Nat) (ptr : Ptr) :
    (s.updateEntry curTime ptr).Keyed := by
  unfold HouseState.updateEntry
  split
  next auction _ =>
    have hheap : Keyed { s with
        heap := (if auction.depositTime + 5 * 60 < curTime then
            s.heap.modify ptr (fun auction => { auction with lockedIpAddress := "" })
          else s.heap) } := by
      split
      · exact h.modify ptr (fun _ => rfl)
      · exact h
    dsimp only
    split
    · exact hheap.expireAuction ptr
    · exact hheap
  next => exact h

theorem foldl {f : HouseState → Ptr → HouseState} (hf : ∀ s ptr, Keyed s → (f s ptr).Keyed)
    (h : s.Keyed) (ptrs : List Ptr) : (ptrs.foldl f s).Keyed := by
  induction ptrs generalizing s with
  | nil => exact h
  | cons ptr ptrs ih => exact ih (hf s ptr h)

theorem step (h : s.Keyed) (event : HouseEvent) : (s.step event).Keyed := by
  cases event with
  | add auction => exact h.addAuction auction
  | remove id =>
      simp only [HouseState.step]
      split
      · exact h.removeAuction_deleteEntry _
      · exact h
  | removeAll accountId guidLow => exact h.foldl (fun _ ptr h => h.removeAuction ptr) _
  | expire id =>
      simp only [HouseState.step]
      split
      · exact h.expireAuction _
      · exact h
  | update curTime => exact h.foldl (fun _ ptr h => h.updateEntry curTime ptr) _
  | bid id bidder bid =>
      simp only [HouseState.step]
      split
      · exact h.modify _ (fun _ => rfl)
      · exact h

theorem run (h : s.Keyed) (events : List HouseEvent) : (s.run events).Keyed := by
  induction events generalizing s with
  | nil => exact h
  | cons event events ih => exact ih (h.step event)

end Keyed

def live (s : HouseState) : List Ptr := s.house.auctionsMap.entries.map (·.2)

/-- The two multimaps point to the live auctions, under their buyout prices and
the accounts of their owners. -/
structure Coherent (s : HouseState) : Prop extends Keyed s where
  ordered : s.house.orderedAuctionMap.entries.Perm
    (s.live.map fun ptr => (s.heap.key AuctionEntry.buyout ptr, ptr))
  account : s.house.accountAuctionMap.entries.Perm
    (s.live.map fun ptr => (s.heap.key AuctionEntry.ownerAccount ptr, ptr))

theorem keyed_empty : Keyed {} := ⟨fun _ _ => rfl, by simp [Lib.OrderedMap.empty]⟩

theorem coherent_empty : Coherent {} where
  toKeyed := keyed_empty
  ordered := by simp [live, Lib.OrderedMap.empty, Lib.MultiMap.empty]
  account := by simp [live, Lib.OrderedMap.empty, Lib.MultiMap.empty]

namespace Coherent

variable {s : HouseState}

theorem of_live (h : s.Coherent) {ptr : Ptr} (hlive : ptr ∈ s.live) :
    ∃ auction, s.heap.entry ptr = some auction ∧
      (auction.id.toNat, ptr) ∈ s.house.auctionsMap.entries := by
  obtain ⟨entry, hentry, rfl⟩ := List.mem_map.mp hlive
  obtain ⟨auction, hauction, hid⟩ := h.alive entry hentry
  exact ⟨auction, hauction, hid ▸ hentry⟩

/-- A pointer has one id, so the distinct keys make the pointers distinct. -/
theorem live_nodup (h : s.Coherent) : s.live.Nodup := by
  refine List.pairwise_map.mpr (s.house.auctionsMap.sorted.imp_of_mem ?_)
  intro entry entry' hentry hentry' hlt hsame
  obtain ⟨auction, hauction, hid⟩ := h.alive entry hentry
  obtain ⟨auction', hauction', hid'⟩ := h.alive entry' hentry'
  rw [hsame, hauction'] at hauction
  obtain rfl := Option.some.inj hauction
  omega

theorem heap_congr (h : s.Coherent) {heap : Heap} (hkeyed : Keyed { s with heap := heap })
    (hkeep : ∀ ptr ∈ s.live, ∀ auction, s.heap.entry ptr = some auction →
      ∃ auction', heap.entry ptr = some auction' ∧
        auction'.buyout = auction.buyout ∧ auction'.ownerAccount = auction.ownerAccount) :
    Coherent { s with heap := heap } := by
  have hkeys : ∀ ptr ∈ s.live, heap.key AuctionEntry.buyout ptr = s.heap.key AuctionEntry.buyout ptr
      ∧ heap.key AuctionEntry.ownerAccount ptr = s.heap.key AuctionEntry.ownerAccount ptr := by
    intro ptr hptr
    obtain ⟨auction, hauction, -⟩ := h.of_live hptr
    obtain ⟨auction', hauction', hbuyout, haccount⟩ := hkeep ptr hptr auction hauction
    rw [Heap.key_of_entry hauction', Heap.key_of_entry hauction', Heap.key_of_entry hauction,
      Heap.key_of_entry hauction, hbuyout, haccount]
    exact ⟨rfl, rfl⟩
  refine ⟨hkeyed, ?_, ?_⟩
  · refine h.ordered.trans (List.Perm.of_eq (List.map_congr_left ?_))
    intro ptr hptr
    rw [(hkeys ptr hptr).1]
  · refine h.account.trans (List.Perm.of_eq (List.map_congr_left ?_))
    intro ptr hptr
    rw [(hkeys ptr hptr).2]

theorem addAuction (h : s.Coherent) {auction : AuctionEntry}
    (hnew : s.house.getAuction auction.id = none) : (s.addAuction auction).Coherent := by
  have hnone : s.heap.entry s.heap.next = none := h.fresh _ (Nat.le_refl _)
  have hother : ∀ ptr ∈ s.live, ptr ≠ s.heap.next := by
    rintro ptr hptr rfl
    obtain ⟨auction', hauction', -⟩ := h.of_live hptr
    rw [hnone] at hauction'
    cases hauction'
  have hmap : (s.addAuction auction).house.auctionsMap.entries.Perm
      ((auction.id.toNat, s.heap.next) :: s.house.auctionsMap.entries) :=
    Lib.OrderedMap.assignEntries_perm _ (Lib.OrderedMap.find?_eq_none.mp hnew)
  have hlive : (s.addAuction auction).live.Perm (s.heap.next :: s.live) := hmap.map Prod.snd
  have hentry : ∀ ptr, ptr ≠ s.heap.next →
      (s.addAuction auction).heap.entry ptr = s.heap.entry ptr :=
    fun ptr hptr => Function.update_of_ne hptr _ _
  have hself : (s.addAuction auction).heap.entry s.heap.next = some auction :=
    Function.update_self ..
  have hkeyed : ∀ field : AuctionEntry → UInt32,
      ((s.heap.next :: s.live).map fun ptr =>
        ((s.addAuction auction).heap.key field ptr, ptr)) =
      ((field auction).toNat, s.heap.next) :: s.live.map fun ptr =>
        (s.heap.key field ptr, ptr) := by
    intro field
    rw [List.map_cons, Heap.key_of_entry hself]
    refine congrArg _ (List.map_congr_left ?_)
    intro ptr hptr
    rw [Heap.key_congr (hentry ptr (hother ptr hptr))]
  refine ⟨h.toKeyed.addAuction auction, ?_, ?_⟩
  · refine List.Perm.trans ?_ (hlive.map _).symm
    rw [hkeyed AuctionEntry.buyout]
    exact (Lib.MultiMap.emplaceEntries_perm _ _ _).trans (h.ordered.cons _)
  · refine List.Perm.trans ?_ (hlive.map _).symm
    rw [hkeyed AuctionEntry.ownerAccount]
    exact (Lib.MultiMap.emplaceEntries_perm _ _ _).trans (h.account.cons _)

theorem removeAuction_eq {ptr : Ptr} {auction : AuctionEntry}
    (h : s.heap.entry ptr = some auction) :
    s.removeAuction ptr = { s with house := s.house.removeAuction s.heap auction } := by
  simp [HouseState.removeAuction, h]

theorem removeAuction (h : s.Coherent) {ptr : Ptr} (hlive : ptr ∈ s.live) :
    (s.removeAuction ptr).Coherent ∧ s.live.Perm (ptr :: (s.removeAuction ptr).live) := by
  have hkeyed := h.toKeyed.removeAuction ptr
  obtain ⟨auction, hauction, hmem⟩ := h.of_live hlive
  rw [removeAuction_eq hauction] at hkeyed ⊢
  have hmap := Lib.OrderedMap.perm_erase hmem
  have hperm :
    s.live.Perm (ptr :: (s.house.auctionsMap.erase auction.id.toNat).entries.map (·.2)) :=
    hmap.map Prod.snd
  have hother : ∀ ptr' ∈ (s.house.auctionsMap.erase auction.id.toNat).entries.map (·.2),
      AuctionHouseObject.hasId s.heap auction.id ptr' = false := by
    intro ptr' hptr'
    obtain ⟨entry, hentry, rfl⟩ := List.mem_map.mp hptr'
    obtain ⟨hentry, hkey⟩ := Lib.OrderedMap.mem_erase.mp hentry
    obtain ⟨auction', hauction', hid⟩ := h.alive entry hentry
    simp only [AuctionHouseObject.hasId, hauction', beq_eq_false_iff_ne, ne_eq]
    rintro hsame
    exact hkey (by rw [← hid, hsame])
  have hself : AuctionHouseObject.hasId s.heap auction.id ptr = true := by
    simp [AuctionHouseObject.hasId, hauction]
  have herase : ∀ {map : Lib.MultiMap Nat Ptr} (field : AuctionEntry → UInt32),
      map.entries.Perm (s.live.map fun ptr => (s.heap.key field ptr, ptr)) →
      (map.eraseFirst (field auction).toNat
        (AuctionHouseObject.hasId s.heap auction.id)).entries.Perm
        (((s.house.auctionsMap.erase auction.id.toNat).entries.map (·.2)).map fun ptr =>
          (s.heap.key field ptr, ptr)) := by
    intro map field hentries
    refine Lib.MultiMap.eraseFirst_perm (?_ : map.entries.Perm ((_, ptr) :: _)) hself ?_
    · refine hentries.trans ((hperm.map _).trans ?_)
      rw [List.map_cons, Heap.key_of_entry hauction]
    · intro entry hentry _
      obtain ⟨ptr', hptr', rfl⟩ := List.mem_map.mp hentry
      exact hother ptr' hptr'
  exact ⟨⟨hkeyed, herase _ h.ordered, herase _ h.account⟩, hperm⟩

theorem removeAuction_deleteEntry (h : s.Coherent) {ptr : Ptr} (hlive : ptr ∈ s.live) :
    ((s.removeAuction ptr).deleteEntry ptr).Coherent := by
  obtain ⟨hremoved, hperm⟩ := h.removeAuction hlive
  refine hremoved.heap_congr (h.toKeyed.removeAuction_deleteEntry ptr) ?_
  intro ptr' hptr' auction hauction
  have hne : ptr' ≠ ptr := by
    rintro rfl
    exact (List.nodup_cons.mp (hperm.nodup_iff.mp h.live_nodup)).1 hptr'
  exact ⟨auction, (Function.update_of_ne hne _ _).trans hauction, rfl, rfl⟩

theorem getAuction_live {id : UInt32} {ptr : Ptr} (h : s.house.getAuction id = some ptr) :
    ptr ∈ s.live :=
  List.mem_map_of_mem (f := Prod.snd) (Lib.OrderedMap.find?_eq_some h)

theorem expireAuction (h : s.Coherent) (ptr : Ptr) : (s.expireAuction ptr).Coherent := by
  unfold HouseState.expireAuction
  split
  next auction _ =>
    split
    next hfound => exact h.removeAuction_deleteEntry (getAuction_live hfound)
    next => exact h
  next => exact h

theorem modify (h : s.Coherent) (ptr : Ptr) {f : AuctionEntry → AuctionEntry}
    (hid : ∀ auction, (f auction).id = auction.id)
    (hbuyout : ∀ auction, (f auction).buyout = auction.buyout)
    (haccount : ∀ auction, (f auction).ownerAccount = auction.ownerAccount) :
    Coherent { s with heap := s.heap.modify ptr f } := by
  refine h.heap_congr (h.toKeyed.modify ptr hid) ?_
  intro ptr' _ auction hauction
  by_cases hsame : ptr' = ptr
  · subst hsame
    exact ⟨f auction, by simp [Heap.modify, hauction], hbuyout _, haccount _⟩
  · exact ⟨auction, (Function.update_of_ne hsame _ _).trans hauction, rfl, rfl⟩

theorem updateEntry (h : s.Coherent) (curTime : Nat) (ptr : Ptr) :
    (s.updateEntry curTime ptr).Coherent := by
  unfold HouseState.updateEntry
  split
  next auction _ =>
    have hheap : Coherent { s with
        heap := (if auction.depositTime + 5 * 60 < curTime then
            s.heap.modify ptr (fun auction => { auction with lockedIpAddress := "" })
          else s.heap) } := by
      split
      next => exact h.modify ptr (fun _ => rfl) (fun _ => rfl) (fun _ => rfl)
      next => exact h
    dsimp only
    split
    next => exact hheap.expireAuction ptr
    next => exact hheap
  next => exact h

theorem update (h : s.Coherent) (curTime : Nat) : (s.update curTime).Coherent := by
  have hfold : ∀ (ptrs : List Ptr) (s : HouseState), s.Coherent →
      (ptrs.foldl (HouseState.updateEntry curTime) s).Coherent := by
    intro ptrs
    induction ptrs with
    | nil => exact fun _ h => h
    | cons ptr ptrs ih => exact fun s h => ih _ (h.updateEntry curTime ptr)
  exact hfold _ s h

/-- Distinct live auctions are removed one after the other: taking one out leaves
the others live. -/
theorem foldl_removeAuction (h : s.Coherent) {ptrs : List Ptr} (hnodup : ptrs.Nodup)
    (hlive : ∀ ptr ∈ ptrs, ptr ∈ s.live) : (ptrs.foldl HouseState.removeAuction s).Coherent := by
  induction ptrs generalizing s with
  | nil => exact h
  | cons ptr ptrs ih =>
      obtain ⟨hremoved, hperm⟩ := h.removeAuction (hlive ptr (by simp))
      obtain ⟨hnew, hrest⟩ := List.nodup_cons.mp hnodup
      refine ih hremoved hrest ?_
      intro ptr' hptr'
      have hmem := hperm.mem_iff.mp (hlive ptr' (List.mem_cons_of_mem _ hptr'))
      exact (List.mem_cons.mp hmem).resolve_left fun hsame => hnew (hsame ▸ hptr')

theorem removeAllAuctions (h : s.Coherent) (accountId guidLow : UInt32) :
    (s.removeAllAuctions accountId guidLow).Coherent := by
  have hptrs : (s.house.accountAuctionMap.entries.map (·.2)).Perm s.live := by
    have hmap := h.account.map Prod.snd
    rwa [List.map_map, show Prod.snd ∘ (fun ptr =>
      (s.heap.key AuctionEntry.ownerAccount ptr, ptr)) = id from rfl, List.map_id] at hmap
  have hsub : ((s.house.accountAuctionMap.equalRange accountId.toNat).map (·.2)).Sublist
      (s.house.accountAuctionMap.entries.map (·.2)) := List.filter_sublist.map _
  refine h.foldl_removeAuction ?_ ?_
  · exact ((hptrs.nodup_iff.mpr h.live_nodup).sublist hsub).filter _
  · intro ptr hptr
    exact hptrs.mem_iff.mp (hsub.subset (List.mem_filter.mp hptr).1)

theorem placeBid (h : s.Coherent) (ptr : Ptr) (bidder bid : UInt32) :
    (s.placeBid ptr bidder bid).Coherent :=
  h.modify ptr (fun _ => rfl) (fun _ => rfl) (fun _ => rfl)

theorem getAccountAuctionCount (h : s.Coherent) (accountId : UInt32) :
    s.house.getAccountAuctionCount accountId =
      s.live.countP fun ptr => s.heap.key AuctionEntry.ownerAccount ptr = accountId.toNat := by
  unfold AuctionHouseObject.getAccountAuctionCount Lib.MultiMap.count
  rw [h.account.countP_eq, List.countP_map]
  rfl

end Coherent

end HouseState

def HouseEvent.Fresh (s : HouseState) : HouseEvent → Prop
  | .add auction => s.house.getAuction auction.id = none
  | _ => True

instance (s : HouseState) : (event : HouseEvent) → Decidable (event.Fresh s)
  | .add auction => inferInstanceAs (Decidable (s.house.getAuction auction.id = none))
  | .remove _ | .removeAll _ _ | .expire _ | .update _ | .bid _ _ _ =>
      inferInstanceAs (Decidable True)

theorem HouseState.Coherent.step {s : HouseState} {event : HouseEvent} (h : s.Coherent)
    (hfresh : event.Fresh s) : (s.step event).Coherent := by
  cases event with
  | add auction => exact h.addAuction hfresh
  | remove id =>
      simp only [HouseState.step]
      split
      next ptr hfound => exact h.removeAuction_deleteEntry (getAuction_live hfound)
      next => exact h
  | removeAll accountId guidLow => exact h.removeAllAuctions accountId guidLow
  | expire id =>
      simp only [HouseState.step]
      split
      next ptr hfound => exact h.expireAuction ptr
      next => exact h
  | update curTime => exact h.update curTime
  | bid id bidder bid =>
      simp only [HouseState.step]
      split
      next ptr hfound => exact h.placeBid ptr bidder bid
      next => exact h

/-- In every reachable state the three maps hold the same entries, each once and
under the key its fields name, and none that was deleted; so an account is
counted as often as it has live auctions. -/
theorem maps_coherent (events : List HouseEvent)
    (hfresh : Lib.Along HouseState.step (fun s event => event.Fresh s) {} events) :
    let s := HouseState.run {} events
    s.live.Nodup ∧
      (∀ entry ∈ s.house.auctionsMap.entries,
        ∃ auction, s.heap.entry entry.2 = some auction ∧ auction.id.toNat = entry.1) ∧
      s.house.orderedAuctionMap.entries.Perm
        (s.live.map fun ptr => (s.heap.key AuctionEntry.buyout ptr, ptr)) ∧
      s.house.accountAuctionMap.entries.Perm
        (s.live.map fun ptr => (s.heap.key AuctionEntry.ownerAccount ptr, ptr)) ∧
      ∀ accountId, s.house.getAccountAuctionCount accountId =
        s.live.countP fun ptr => s.heap.key AuctionEntry.ownerAccount ptr = accountId.toNat := by
  intro s
  have h : s.Coherent :=
    Lib.run_invariant (fun _ _ h hevent => HouseState.Coherent.step h hevent)
      HouseState.coherent_empty hfresh
  exact ⟨h.live_nodup, h.alive, h.ordered, h.account, h.getAccountAuctionCount⟩

def twoAuctions : List HouseEvent :=
  [.add { id := 1, itemGuidLow := 10, itemTemplate := 100, owner := 5, ownerAccount := 7
          startbid := 1, bid := 0, buyout := 50, bidder := 0, deposit := 3, houseId := 1
          expireTime := 900 },
   .add { id := 2, itemGuidLow := 11, itemTemplate := 100, owner := 5, ownerAccount := 7
          startbid := 1, bid := 0, buyout := 50, bidder := 0, deposit := 3, houseId := 1
          expireTime := 100 },
   .bid 1 6 20, .update 200]

theorem one_auction_counted :
    (HouseState.run {} twoAuctions).house.getAccountAuctionCount 7 = 1 ∧
      (HouseState.run {} twoAuctions).live.Nodup := by
  refine ⟨by decide, (maps_coherent twoAuctions ?_).1⟩
  exact ⟨by decide, by decide, trivial, trivial, trivial⟩

end TortoiseWow.Auction
