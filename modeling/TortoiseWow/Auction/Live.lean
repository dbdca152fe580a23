import TortoiseWow.Auction.Market

/-!
The live auctions of all houses as one list, and what the operations on a house
do to it: an auction is added, rewritten or taken out, and the others stay.
-/

namespace TortoiseWow.Auction

namespace World

def entries (w : World) : List (Nat × Ptr) := w.houses.flatMap (·.auctionsMap.entries)

def live (w : World) : List AuctionEntry := w.entries.filterMap fun entry => w.heap.entry entry.2

def others (w : World) (id : UInt32) : List AuctionEntry :=
  (w.entries.filter (·.1 ≠ id.toNat)).filterMap fun entry => w.heap.entry entry.2

/-- Entries are allocated and lie under their ids, which are distinct across the
houses and taken. -/
structure Sound (w : World) : Prop where
  fresh : ∀ ptr, w.heap.next ≤ ptr → w.heap.entry ptr = none
  keyed : ∀ entry ∈ w.entries,
    ∃ auction, w.heap.entry entry.2 = some auction ∧ auction.id.toNat = entry.1
  unique : (w.entries.map (·.1)).Nodup
  taken : ∀ auction ∈ w.live, auction.id ∈ w.auctionsIds

theorem onHouse_eq {w : World} {i : Nat} {house : AuctionHouseObject}
    (h : w.houses[i]? = some house) (f : HouseState → HouseState) :
    w.onHouse i f = { w with
      heap := (f { heap := w.heap, house := house }).heap
      houses := w.houses.set i (f { heap := w.heap, house := house }).house } := by
  simp [onHouse, h]

theorem flatMap_set {α β : Type} {l : List α} {i : Nat} {x : α} (h : l[i]? = some x)
    (f : α → List β) : ∃ before after, l.flatMap f = before ++ f x ++ after ∧
      ∀ y, (l.set i y).flatMap f = before ++ f y ++ after := by
  induction l generalizing i with
  | nil => simp at h
  | cons first rest ih =>
      cases i with
      | zero =>
          obtain rfl : first = x := by simpa using h
          exact ⟨[], rest.flatMap f, by simp, by simp⟩
      | succ i =>
          obtain ⟨before, after, hl, hset⟩ := ih (by simpa using h)
          refine ⟨f first ++ before, after, ?_, ?_⟩
          · simp [hl]
          · intro y
            simp [hset y]

theorem mem_entries_of_house {w : World} {i : Nat} {house : AuctionHouseObject}
    (h : w.houses[i]? = some house) {entry : Nat × Ptr}
    (hentry : entry ∈ house.auctionsMap.entries) : entry ∈ w.entries :=
  List.mem_flatMap.mpr ⟨house, List.mem_of_getElem? h, hentry⟩

structure Found (w : World) (i : Nat) (house : AuctionHouseObject) (ptr : Ptr)
    (auction : AuctionEntry) : Prop where
  here : w.houses[i]? = some house
  entry : (auction.id.toNat, ptr) ∈ house.auctionsMap.entries
  heap : w.heap.entry ptr = some auction

theorem Sound.getAuction {w : World} (h : w.Sound) {i : Nat} {id : UInt32} {ptr : Ptr}
    {auction : AuctionEntry} (hfound : w.getAuction i id = some (ptr, auction)) :
    auction.id = id ∧ ∃ house, Found w i house ptr auction := by
  unfold World.getAuction at hfound
  cases hhouse : w.houses[i]? with
  | none => simp [hhouse] at hfound
  | some house =>
      cases hptr : house.getAuction id with
      | none => simp [hhouse, hptr] at hfound
      | some ptr' =>
          simp only [hhouse, hptr] at hfound
          obtain ⟨auction', hauction, heq⟩ := Option.map_eq_some_iff.mp hfound
          obtain ⟨rfl, rfl⟩ := Prod.mk.inj heq
          have hentry := Lib.OrderedMap.find?_eq_some hptr
          obtain ⟨a, ha, hid⟩ := h.keyed _ (mem_entries_of_house hhouse hentry)
          obtain rfl := Option.some.inj (hauction.symm.trans ha)
          refine ⟨UInt32.toNat_inj.mp hid, house, hhouse, ?_, hauction⟩
          rw [hid]
          exact hentry

namespace Found

variable {w : World} {i : Nat} {house : AuctionHouseObject} {ptr : Ptr} {auction : AuctionEntry}

theorem mem_entries (hfound : Found w i house ptr auction) :
    (auction.id.toNat, ptr) ∈ w.entries := mem_entries_of_house hfound.here hfound.entry

theorem live_perm_of_unique (hunique : (w.entries.map (·.1)).Nodup)
    (hfound : Found w i house ptr auction) :
    w.live.Perm (auction :: w.others auction.id) := by
  have hnodup : w.entries.Nodup := List.Nodup.of_map _ hunique
  have hperm : w.entries.Perm
      ((auction.id.toNat, ptr) :: w.entries.filter (·.1 ≠ auction.id.toNat)) := by
    refine (List.perm_ext_iff_of_nodup hnodup ?_).mpr ?_
    · exact List.nodup_cons.mpr ⟨by simp, hnodup.filter _⟩
    · intro entry
      simp only [List.mem_cons, List.mem_filter, decide_eq_true_eq, ne_eq]
      constructor
      · intro hentry
        by_cases hkey : entry.1 = auction.id.toNat
        · exact Or.inl (List.inj_on_of_nodup_map hunique hentry hfound.mem_entries hkey)
        · exact Or.inr ⟨hentry, hkey⟩
      · rintro (rfl | hentry)
        · exact hfound.mem_entries
        · exact hentry.1
  have hmap := hperm.filterMap fun entry => w.heap.entry entry.2
  simp only [List.filterMap_cons, hfound.heap] at hmap
  exact hmap

theorem live_perm (h : w.Sound) (hfound : Found w i house ptr auction) :
    w.live.Perm (auction :: w.others auction.id) :=
  hfound.live_perm_of_unique h.unique

theorem ptr_ne (h : w.Sound) (hfound : Found w i house ptr auction) {entry : Nat × Ptr}
    (hentry : entry ∈ w.entries) (hkey : entry.1 ≠ auction.id.toNat) : entry.2 ≠ ptr := by
  intro hsame
  obtain ⟨a, ha, hid⟩ := h.keyed entry hentry
  rw [hsame, hfound.heap] at ha
  obtain rfl := Option.some.inj ha
  exact hkey hid.symm

theorem others_congr (h : w.Sound) (hfound : Found w i house ptr auction) {heap : Heap}
    (hheap : ∀ ptr', ptr' ≠ ptr → heap.entry ptr' = w.heap.entry ptr') :
    ((w.entries.filter (·.1 ≠ auction.id.toNat)).filterMap fun entry => heap.entry entry.2) =
      w.others auction.id := by
  refine List.filterMap_congr ?_
  intro entry hentry
  obtain ⟨hentry, hkey⟩ := List.mem_filter.mp hentry
  exact hheap _ (hfound.ptr_ne h hentry (by simpa using hkey))

theorem entries_erase (h : w.Sound) (hfound : Found w i house ptr auction) :
    (w.houses.set i (house.removeAuction w.heap auction)).flatMap (·.auctionsMap.entries) =
      w.entries.filter (·.1 ≠ auction.id.toNat) := by
  obtain ⟨before, after, hall, hset⟩ :=
    flatMap_set hfound.here (fun house => house.auctionsMap.entries)
  have hunique := h.unique
  unfold entries at hunique ⊢
  rw [hset, hall]
  rw [hall, List.map_append, List.map_append] at hunique
  have hmem : auction.id.toNat ∈ house.auctionsMap.entries.map (·.1) :=
    List.mem_map_of_mem hfound.entry
  obtain ⟨hleft, -, hdisjoint⟩ := List.nodup_append.mp hunique
  obtain ⟨-, -, hdisjoint'⟩ := List.nodup_append.mp hleft
  have hbefore : before.filter (·.1 ≠ auction.id.toNat) = before := by
    refine List.filter_eq_self.mpr ?_
    intro entry hentry
    simpa using hdisjoint' _ (List.mem_map_of_mem hentry) _ hmem
  have hafter : after.filter (·.1 ≠ auction.id.toNat) = after := by
    refine List.filter_eq_self.mpr ?_
    intro entry hentry
    have hne := hdisjoint _ (List.mem_append_right _ hmem) _ (List.mem_map_of_mem hentry)
    simpa using hne.symm
  rw [List.filter_append, List.filter_append, hbefore, hafter]
  rfl

end Found

namespace Sound

variable {w w' : World} {i : Nat} {house : AuctionHouseObject} {ptr : Ptr} {auction : AuctionEntry}

theorem congr (h : w.Sound) (hheap : w'.heap = w.heap) (hhouses : w'.houses = w.houses)
    (hids : w'.auctionsIds = w.auctionsIds) : w'.Sound ∧ w'.live = w.live := by
  have hentries : w'.entries = w.entries := by
    unfold entries
    rw [hhouses]
  have hlive : w'.live = w.live := by
    unfold live
    rw [hentries, hheap]
  refine ⟨⟨?_, ?_, ?_, ?_⟩, hlive⟩
  · rw [hheap]
    exact h.fresh
  · rw [hheap, hentries]
    exact h.keyed
  · rw [hentries]
    exact h.unique
  · rw [hlive, hids]
    exact h.taken

theorem modify (h : w.Sound) (hfound : Found w i house ptr auction)
    {f : AuctionEntry → AuctionEntry} (hid : (f auction).id = auction.id)
    (hheap : w'.heap = w.heap.modify ptr f) (hhouses : w'.houses = w.houses)
    (hids : w'.auctionsIds = w.auctionsIds) :
    w'.Sound ∧ Found w' i house ptr (f auction) ∧
      w'.live.Perm (f auction :: w.others auction.id) ∧
      w'.others auction.id = w.others auction.id := by
  have hentries : w'.entries = w.entries := by
    unfold entries
    rw [hhouses]
  have hother : ∀ ptr', ptr' ≠ ptr → w'.heap.entry ptr' = w.heap.entry ptr' := by
    intro ptr' hne
    rw [hheap]
    exact Function.update_of_ne hne _ _
  have hself : w'.heap.entry ptr = some (f auction) := by
    rw [hheap]
    simp [Heap.modify, hfound.heap]
  have hothers : w'.others auction.id = w.others auction.id := by
    unfold others
    rw [hentries]
    exact hfound.others_congr h hother
  have hfound' : Found w' i house ptr (f auction) :=
    ⟨hhouses ▸ hfound.here, hid ▸ hfound.entry, hself⟩
  have hperm : w'.live.Perm (f auction :: w.others auction.id) := by
    have hlive := hfound'.live_perm_of_unique (hentries ▸ h.unique)
    rwa [hid, hothers] at hlive
  refine ⟨⟨?_, ?_, hentries ▸ h.unique, ?_⟩, hfound', hperm, hothers⟩
  · intro ptr' hptr'
    rw [hheap] at hptr'
    have hnone : w.heap.entry ptr' = none := h.fresh ptr' hptr'
    by_cases hsame : ptr' = ptr
    · rw [hsame, hfound.heap] at hnone
      cases hnone
    · exact (hother ptr' hsame).trans hnone
  · intro entry hentry
    rw [hentries] at hentry
    obtain ⟨a, ha, hkey⟩ := h.keyed entry hentry
    by_cases hsame : entry.2 = ptr
    · refine ⟨f auction, hsame ▸ hself, ?_⟩
      rw [hsame, hfound.heap] at ha
      obtain rfl := Option.some.inj ha
      rw [hid, hkey]
    · exact ⟨a, (hother _ hsame).trans ha, hkey⟩
  · intro a ha
    rw [hids]
    rcases List.mem_cons.mp (hperm.mem_iff.mp ha) with rfl | ha
    · rw [hid]
      exact h.taken auction ((hfound.live_perm h).mem_iff.mpr (by simp))
    · exact h.taken a ((hfound.live_perm h).mem_iff.mpr (List.mem_cons_of_mem _ ha))

theorem id_ne_of_mem_others (h : w.Sound) {id : UInt32} {a : AuctionEntry}
    (ha : a ∈ w.others id) : a.id ≠ id := by
  obtain ⟨entry, hentry, hheap⟩ := List.mem_filterMap.mp ha
  obtain ⟨hentry, hkey⟩ := List.mem_filter.mp hentry
  obtain ⟨a', ha', hid⟩ := h.keyed entry hentry
  obtain rfl := Option.some.inj (hheap.symm.trans ha')
  rintro rfl
  simp [hid] at hkey

theorem close (h : w.Sound) (hfound : Found w i house ptr auction)
    (hheap : w'.heap = w.heap.delete ptr)
    (hhouses : w'.houses = w.houses.set i (house.removeAuction w.heap auction))
    (hids : w'.auctionsIds = w.auctionsIds.filter (· ≠ auction.id)) :
    w'.Sound ∧ w'.live = w.others auction.id := by
  have hentries : w'.entries = w.entries.filter (·.1 ≠ auction.id.toNat) := by
    unfold entries at *
    rw [hhouses]
    exact hfound.entries_erase h
  have hother : ∀ ptr', ptr' ≠ ptr → w'.heap.entry ptr' = w.heap.entry ptr' := by
    intro ptr' hne
    rw [hheap]
    exact Function.update_of_ne hne _ _
  have hlive : w'.live = w.others auction.id := by
    unfold live
    rw [hentries]
    exact hfound.others_congr h hother
  refine ⟨⟨?_, ?_, ?_, ?_⟩, hlive⟩
  · intro ptr' hptr'
    by_cases hsame : ptr' = ptr
    · rw [hsame, hheap]
      exact Function.update_self ..
    · refine (hother ptr' hsame).trans (h.fresh ptr' ?_)
      rw [hheap] at hptr'
      exact hptr'
  · intro entry hentry
    rw [hentries] at hentry
    obtain ⟨hentry, hkey⟩ := List.mem_filter.mp hentry
    rw [hother _ (hfound.ptr_ne h hentry (by simpa using hkey))]
    exact h.keyed entry hentry
  · rw [hentries]
    exact h.unique.sublist (List.filter_sublist.map _)
  · intro a ha
    rw [hlive] at ha
    rw [hids]
    refine List.mem_filter.mpr ⟨?_, by simpa using h.id_ne_of_mem_others ha⟩
    exact h.taken a ((hfound.live_perm h).mem_iff.mpr (List.mem_cons_of_mem _ ha))

theorem add (h : w.Sound) (hhouse : w.houses[i]? = some house)
    (hfree : auction.id ∉ w.auctionsIds)
    (hheap : w'.heap = (w.heap.allocate auction).2)
    (hhouses : w'.houses = w.houses.set i (house.addAuction w.heap.next auction))
    (hids : w'.auctionsIds = auction.id :: w.auctionsIds) :
    w'.Sound ∧ w'.live.Perm (auction :: w.live) := by
  have hother : ∀ ptr', ptr' ≠ w.heap.next → w'.heap.entry ptr' = w.heap.entry ptr' := by
    intro ptr' hne
    rw [hheap]
    exact Function.update_of_ne hne _ _
  have hself : w'.heap.entry w.heap.next = some auction := by
    rw [hheap]
    exact Function.update_self ..
  have hnew : ∀ entry ∈ w.entries, entry.1 ≠ auction.id.toNat := by
    intro entry hentry hkey
    obtain ⟨a, ha, hid⟩ := h.keyed entry hentry
    have hmem : a ∈ w.live := List.mem_filterMap.mpr ⟨entry, hentry, ha⟩
    have hsame : a.id = auction.id := UInt32.toNat_inj.mp (hid.trans hkey)
    exact hfree (hsame ▸ h.taken a hmem)
  have hplace : ∀ entry ∈ w.entries, entry.2 ≠ w.heap.next := by
    intro entry hentry hsame
    obtain ⟨a, ha, -⟩ := h.keyed entry hentry
    rw [hsame, h.fresh _ (Nat.le_refl _)] at ha
    cases ha
  have hentries : w'.entries.Perm ((auction.id.toNat, w.heap.next) :: w.entries) := by
    obtain ⟨before, after, hall, hset⟩ :=
      flatMap_set hhouse (fun house => house.auctionsMap.entries)
    have hadded : (house.addAuction w.heap.next auction).auctionsMap.entries.Perm
        ((auction.id.toNat, w.heap.next) :: house.auctionsMap.entries) :=
      Lib.OrderedMap.assignEntries_perm _
        (fun entry hentry => hnew entry (mem_entries_of_house hhouse hentry))
    unfold entries
    rw [hhouses, hset, hall]
    refine ((hadded.append_left before).append_right after).trans ?_
    rw [List.append_assoc, List.append_assoc]
    exact List.perm_middle
  have hlive : w'.live.Perm (auction :: w.live) := by
    have hmap := hentries.filterMap fun entry => w'.heap.entry entry.2
    simp only [List.filterMap_cons, hself] at hmap
    refine hmap.trans (List.Perm.of_eq (congrArg _ (List.filterMap_congr ?_)))
    intro entry hentry
    exact hother _ (hplace entry hentry)
  refine ⟨⟨?_, ?_, ?_, ?_⟩, hlive⟩
  · intro ptr' hptr'
    rw [hheap] at hptr'
    have hlt : w.heap.next < ptr' := hptr'
    rw [hother ptr' (Nat.ne_of_gt hlt)]
    exact h.fresh ptr' (Nat.le_of_lt hlt)
  · intro entry hentry
    rcases List.mem_cons.mp (hentries.mem_iff.mp hentry) with rfl | hentry
    · exact ⟨auction, hself, rfl⟩
    · rw [hother _ (hplace entry hentry)]
      exact h.keyed entry hentry
  · refine (hentries.map (·.1)).nodup_iff.mpr (List.nodup_cons.mpr ⟨?_, h.unique⟩)
    intro hmem
    obtain ⟨entry, hentry, hkey⟩ := List.mem_map.mp hmem
    exact hnew entry hentry hkey
  · intro a ha
    rw [hids]
    rcases List.mem_cons.mp (hlive.mem_iff.mp ha) with rfl | ha
    · exact List.mem_cons_self
    · exact List.mem_cons_of_mem _ (h.taken a ha)

end Sound

end World

end TortoiseWow.Auction
