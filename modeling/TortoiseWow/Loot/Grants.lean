import TortoiseWow.Loot.Loot

/-!
Grants of a loot against its flags. What one grant uses up is an item for one player, or the
entry of one player for an item that is free for all; `possible` counts what is not used up
yet. Steps only move forward (`Evolves`), and a run in which every grant goes to a player who
has an entry, for an item not looted, grants nothing twice.
-/

namespace TortoiseWow.Looting

/-- The items for one player that can still be granted. -/
def LootItem.sharedLeft (item : LootItem) : Bool :=
  !item.freeforall && !item.isLooted && (item.conditionId = 0 || item.isCounted)

def LootItem.questLeft (item : LootItem) : Bool :=
  !item.freeforall && !item.isLooted && item.isBlocked

def entriesLeft (map : QuestItemMap) (p : Nat → Bool) : Nat :=
  (map.entries.map fun entry => entry.2.countP fun q => p q.index && !q.isLooted).sum

namespace Loot

def ffa (loot : Loot) : Slot → Bool
  | .item i => loot.items[i]?.any (·.freeforall)
  | .questItem i => loot.questItems[i]?.any (·.freeforall)

def questBlocked (loot : Loot) (i : Nat) : Bool := loot.questItems[i]?.any (·.isBlocked)

def conditional (loot : Loot) (i : Nat) : Bool :=
  loot.items[i]?.any fun item => item.conditionId ≠ 0 && !item.freeforall

def possible (loot : Loot) : Nat :=
  loot.items.countP LootItem.sharedLeft + loot.questItems.countP LootItem.questLeft +
    entriesLeft loot.playerFFAItems (fun _ => true) +
    entriesLeft loot.playerQuestItems fun i => loot.ffa (.questItem i)

/-- What a player was given an entry for when the loot was filled, and the ordinary items. -/
def entitles (loot : Loot) (player : UInt32) : Slot → Bool
  | .item i =>
      if loot.ffa (.item i) then (entryOf loot.playerFFAItems player i).isSome
      else if loot.conditional i then (entryOf loot.playerConditionalItems player i).isSome
      else true
  | .questItem i => (entryOf loot.playerQuestItems player i).isSome

def grantsFor (loot : Loot) (player : UInt32) (slot : Slot) : Nat :=
  if loot.ffa slot then loot.grants.count ⟨player, slot⟩ else loot.grants.countP (·.slot = slot)

def looted (loot : Loot) (player : UInt32) : Slot → Bool
  | .item i =>
      if loot.ffa (.item i) then (entryOf loot.playerFFAItems player i).any (·.isLooted)
      else loot.items[i]?.any (·.isLooted)
  | .questItem i =>
      if loot.ffa (.questItem i) then (entryOf loot.playerQuestItems player i).any (·.isLooted)
      else loot.questItems[i]?.any (·.isLooted)

section Entries

variable {map : QuestItemMap} {player other : UInt32} {i j : Nat} {p : Nat → Bool}
  {ql : List QuestItem} {q : QuestItem}

def EntriesFit (map : QuestItemMap) (p : Nat → Bool) : Prop :=
  ∀ player ql, map.find? player = some ql →
    (ql.map (·.index)).Nodup ∧ ∀ q ∈ ql, p q.index = true

theorem EntriesFit.imp {p' : Nat → Bool} (h : EntriesFit map p)
    (hp : ∀ i, p i = true → p' i = true) :
    EntriesFit map p' := by
  intro player ql hql
  obtain ⟨hnodup, hall⟩ := h player ql hql
  exact ⟨hnodup, fun q hq => hp _ (hall q hq)⟩

theorem EntriesFit.assign (h : EntriesFit map p) (hnodup : (ql.map (·.index)).Nodup)
    (hall : ∀ q ∈ ql, p q.index = true) : EntriesFit (map.assign player ql) p := by
  intro other found hfound
  by_cases hsame : other = player
  · subst hsame
    rw [Lib.OrderedMap.find?_assign_self] at hfound
    cases hfound
    exact ⟨hnodup, hall⟩
  · rw [Lib.OrderedMap.find?_assign_of_ne map hsame] at hfound
    exact h other found hfound

def markItem (i : Nat) (q : QuestItem) : QuestItem :=
  if q.index = i then { q with isLooted := true } else q

@[simp] theorem markItem_index (i : Nat) (q : QuestItem) : (markItem i q).index = q.index := by
  unfold markItem
  split <;> rfl

theorem markEntry_of_some (h : map.find? player = some ql) (i : Nat) :
    markEntry map player i = map.assign player (ql.map (markItem i)) := by
  simp only [markEntry, h]
  rfl

theorem markEntry_of_none (h : map.find? player = none) (i : Nat) :
    markEntry map player i = map := by
  simp only [markEntry, h]

theorem EntriesFit.marked (h : EntriesFit map p) (player : UInt32) (i : Nat) :
    EntriesFit (markEntry map player i) p := by
  cases hfind : map.find? player with
  | none => exact (markEntry_of_none hfind i).symm ▸ h
  | some ql =>
      obtain ⟨hnodup, hall⟩ := h player ql hfind
      rw [markEntry_of_some hfind]
      refine h.assign ?_ ?_
      · rw [List.map_map]
        exact (List.map_congr_left fun q _ => markItem_index i q) ▸ hnodup
      · intro q hq
        obtain ⟨old, hold, rfl⟩ := List.mem_map.mp hq
        rw [markItem_index]
        exact hall old hold

theorem entryOf_eq_some (h : entryOf map player i = some q) :
    ∃ ql, map.find? player = some ql ∧ q ∈ ql ∧ q.index = i ∧ ql.find? (·.index = i) = some q := by
  obtain ⟨ql, hql, hq⟩ := Option.bind_eq_some_iff.mp h
  exact ⟨ql, hql, List.mem_of_find?_eq_some hq, by simpa using List.find?_some hq, hq⟩

theorem entryOf_of_mem (h : EntriesFit map p) (hql : map.find? player = some ql) (hq : q ∈ ql) :
    entryOf map player q.index = some q := by
  simp only [entryOf, hql, Option.bind_some]
  cases hfind : ql.find? fun other => decide (other.index = q.index) with
  | none => exact absurd (decide_eq_true rfl) (List.find?_eq_none.mp hfind q hq)
  | some found =>
      have hindex : found.index = q.index := by simpa using List.find?_some hfind
      rw [List.inj_on_of_nodup_map (h player ql hql).1 (List.mem_of_find?_eq_some hfind) hq hindex]

theorem entryOf_assign_self : entryOf (map.assign player ql) player i = ql.find? (·.index = i) := by
  rw [entryOf, Lib.OrderedMap.find?_assign_self]
  rfl

theorem entryOf_assign_of_ne (h : other ≠ player) :
    entryOf (map.assign player ql) other i = entryOf map other i := by
  rw [entryOf, Lib.OrderedMap.find?_assign_of_ne map h]
  rfl

theorem find?_markItem (ql : List QuestItem) (i j : Nat) :
    (ql.map (markItem i)).find? (·.index = j) = (ql.find? (·.index = j)).map (markItem i) := by
  rw [List.find?_map]
  simp only [Function.comp_def, markItem_index]

theorem entryOf_markEntry_self :
    entryOf (markEntry map player i) player j = (entryOf map player j).map (markItem i) := by
  cases hfind : map.find? player with
  | none => simp [markEntry_of_none hfind, entryOf, hfind]
  | some ql =>
      rw [markEntry_of_some hfind, entryOf_assign_self, find?_markItem]
      simp only [entryOf, hfind, Option.bind_some]

theorem entryOf_markEntry_of_ne (h : other ≠ player) :
    entryOf (markEntry map player i) other j = entryOf map other j := by
  cases hfind : map.find? player with
  | none => rw [markEntry_of_none hfind]
  | some ql => rw [markEntry_of_some hfind, entryOf_assign_of_ne h]

def EntriesKept (map map' : QuestItemMap) : Prop :=
  ∀ player i q, entryOf map player i = some q →
    ∃ q', entryOf map' player i = some q' ∧ (q.isLooted = true → q'.isLooted = true)

theorem EntriesKept.refl (map : QuestItemMap) : EntriesKept map map :=
  fun _ _ q hq => ⟨q, hq, id⟩

theorem entriesKept_assign (h : map.find? player = none) (ql : List QuestItem) :
    EntriesKept map (map.assign player ql) := by
  intro other i q hq
  have hne : other ≠ player := by
    rintro rfl
    simp [entryOf, h] at hq
  exact ⟨q, (entryOf_assign_of_ne hne).trans hq, id⟩

theorem entriesKept_markEntry (map : QuestItemMap) (player : UInt32) (i : Nat) :
    EntriesKept map (markEntry map player i) := by
  intro other j q hq
  by_cases hsame : other = player
  · subst hsame
    refine ⟨markItem i q, by rw [entryOf_markEntry_self, hq]; rfl, fun hlooted => ?_⟩
    unfold markItem
    split
    · rfl
    · exact hlooted
  · exact ⟨q, (entryOf_markEntry_of_ne hsame).trans hq, id⟩

theorem EntriesKept.isSome {map' : QuestItemMap} (h : EntriesKept map map')
    (hsome : (entryOf map player i).isSome = true) : (entryOf map' player i).isSome = true := by
  obtain ⟨q, hq⟩ := Option.isSome_iff_exists.mp hsome
  obtain ⟨q', hq', -⟩ := h player i q hq
  exact Option.isSome_iff_exists.mpr ⟨q', hq'⟩

theorem EntriesKept.any {map' : QuestItemMap} (h : EntriesKept map map')
    (hany : (entryOf map player i).any (·.isLooted) = true) :
    (entryOf map' player i).any (·.isLooted) = true := by
  obtain ⟨q, hq, hlooted⟩ := (Option.any_eq_true _ _).mp hany
  obtain ⟨q', hq', hkept⟩ := h player i q hq
  exact (Option.any_eq_true _ _).mpr ⟨q', hq', hkept hlooted⟩

theorem entriesLeft_assign (map : QuestItemMap) (player : UInt32) (ql : List QuestItem)
    (p : Nat → Bool) :
    entriesLeft (map.assign player ql) p =
      ql.countP (fun q => p q.index && !q.isLooted) + entriesLeft (map.erase player) p := by
  have hperm := (map.perm_assign player ql).map
    fun entry => entry.2.countP fun q => p q.index && !q.isLooted
  rw [entriesLeft, hperm.sum_eq, List.map_cons, List.sum_cons, entriesLeft]

theorem entriesLeft_new (h : map.find? player = none) (ql : List QuestItem) (p : Nat → Bool) :
    entriesLeft (map.assign player ql) p =
      entriesLeft map p + ql.countP (fun q => p q.index && !q.isLooted) := by
  rw [entriesLeft_assign, entriesLeft, Lib.OrderedMap.erase_of_none h, Nat.add_comm, entriesLeft]

theorem entriesLeft_of_some (h : map.find? player = some ql) (p : Nat → Bool) :
    entriesLeft map p =
      ql.countP (fun q => p q.index && !q.isLooted) + entriesLeft (map.erase player) p := by
  have hperm := (Lib.OrderedMap.perm_erase (Lib.OrderedMap.find?_eq_some h)).map
    fun entry => entry.2.countP fun q => p q.index && !q.isLooted
  rw [entriesLeft, hperm.sum_eq, List.map_cons, List.sum_cons, entriesLeft]

theorem countP_markItem (hnodup : (ql.map (·.index)).Nodup) (hq : q ∈ ql)
    (hlooted : q.isLooted = false) (p : Nat → Bool) :
    (ql.map (markItem q.index)).countP (fun q => p q.index && !q.isLooted) +
        (if p q.index then 1 else 0) =
      ql.countP fun q => p q.index && !q.isLooted := by
  induction ql with
  | nil => exact absurd hq List.not_mem_nil
  | cons first rest ih =>
      rw [List.map_cons, List.nodup_cons] at hnodup
      rw [List.map_cons, List.countP_cons, List.countP_cons]
      rcases List.mem_cons.mp hq with rfl | hrest
      · have hsame : rest.map (markItem q.index) = rest := by
          refine (List.map_congr_left fun other hother => ?_).trans (List.map_id _)
          refine if_neg fun heq => hnodup.1 ?_
          exact List.mem_map.mpr ⟨other, hother, heq⟩
        rw [hsame]
        simp [markItem, hlooted]
      · have hne : first.index ≠ q.index := by
          intro heq
          exact hnodup.1 (List.mem_map.mpr ⟨q, hrest, heq.symm⟩)
        have hfirst : markItem q.index first = first := if_neg hne
        rw [hfirst, ← ih hnodup.2 hrest]
        omega

theorem entriesLeft_markEntry (h : EntriesFit map p) (hq : entryOf map player i = some q)
    (hlooted : q.isLooted = false) (p' : Nat → Bool) :
    entriesLeft (markEntry map player i) p' + (if p' i then 1 else 0) = entriesLeft map p' := by
  obtain ⟨ql, hql, hmem, rfl, -⟩ := entryOf_eq_some hq
  rw [markEntry_of_some hql, entriesLeft_assign, entriesLeft_of_some hql,
    ← countP_markItem (h player ql hql).1 hmem hlooted p']
  omega

end Entries

section Evolution

structure Later (item item' : LootItem) : Prop where
  freeforall : item'.freeforall = item.freeforall
  conditionId : item'.conditionId = item.conditionId
  looted : item.isLooted = true → item'.isLooted = true
  counted : item.isCounted = true → item'.isCounted = true

theorem Later.refl (item : LootItem) : Later item item := ⟨rfl, rfl, id, id⟩

def ItemsLater (items items' : List LootItem) : Prop := List.Forall₂ Later items items'

variable {items items' items'' : List LootItem} {i : Nat} {item : LootItem}

theorem ItemsLater.refl (items : List LootItem) : ItemsLater items items :=
  List.forall₂_same.mpr fun item _ => Later.refl item

theorem itemsLater_modify {f : LootItem → LootItem} (hf : ∀ item, Later item (f item))
    (items : List LootItem) (i : Nat) : ItemsLater items (items.modify i f) := by
  induction items generalizing i with
  | nil =>
      rw [List.modify_nil]
      exact ItemsLater.refl []
  | cons first rest ih =>
      cases i with
      | zero => exact List.Forall₂.cons (hf first) (ItemsLater.refl rest)
      | succ i => exact List.Forall₂.cons (Later.refl first) (ih i)

theorem itemsLater_map {f : LootItem → LootItem} (hf : ∀ item, Later item (f item))
    (items : List LootItem) : ItemsLater items (items.map f) :=
  List.forall₂_map_right_iff.mpr (List.forall₂_same.mpr fun item _ => hf item)

theorem ItemsLater.get (h : ItemsLater items items') (i : Nat) :
    (items[i]? = none ∧ items'[i]? = none) ∨
      ∃ item item', items[i]? = some item ∧ items'[i]? = some item' ∧ Later item item' := by
  induction h generalizing i with
  | nil => exact Or.inl ⟨rfl, rfl⟩
  | cons hfirst _ ih =>
      cases i with
      | zero => exact Or.inr ⟨_, _, rfl, rfl, hfirst⟩
      | succ i => exact ih i

/-- What a loot keeps as it is filled and granted. -/
structure Evolves (loot loot' : Loot) : Prop where
  items : ItemsLater loot.items loot'.items
  questItems : ItemsLater loot.questItems loot'.questItems
  blocked : ∀ i, loot.questBlocked i = true → loot'.questBlocked i = true
  ffaEntries : EntriesKept loot.playerFFAItems loot'.playerFFAItems
  questEntries : EntriesKept loot.playerQuestItems loot'.playerQuestItems
  condEntries : EntriesKept loot.playerConditionalItems loot'.playerConditionalItems

variable {loot loot' loot'' : Loot}

theorem Evolves.ofItems (hitems : ItemsLater loot.items items') (rolls : List Nat)
    (unlootedCount : UInt8) (grants : List Grant) :
    Evolves loot { loot with items := items', rolls, unlootedCount, grants } :=
  ⟨hitems, .refl _, fun _ h => h, .refl _, .refl _, .refl _⟩

theorem ItemsLater.any {p : LootItem → Bool} (h : ItemsLater items items')
    (hp : ∀ item item', Later item item' → p item = true → p item' = true)
    (hany : items[i]?.any p = true) : items'[i]?.any p = true := by
  obtain ⟨item, hitem, htrue⟩ := (Option.any_eq_true _ _).mp hany
  rcases h.get i with ⟨hnone, -⟩ | ⟨old, new, hold, hnew, hlater⟩
  · rw [hnone] at hitem
    cases hitem
  · rw [hold] at hitem
    cases hitem
    exact (Option.any_eq_true _ _).mpr ⟨new, hnew, hp _ _ hlater htrue⟩

theorem ItemsLater.any_eq {p : LootItem → Bool} (h : ItemsLater items items')
    (hp : ∀ item item', Later item item' → p item' = p item) (i : Nat) :
    items'[i]?.any p = items[i]?.any p := by
  rcases h.get i with ⟨hnone, hnone'⟩ | ⟨old, new, hold, hnew, hlater⟩
  · rw [hnone, hnone']
  · rw [hold, hnew]
    exact hp _ _ hlater

theorem Evolves.ffa (h : Evolves loot loot') (slot : Slot) : loot'.ffa slot = loot.ffa slot := by
  cases slot with
  | item i => exact h.items.any_eq (fun _ _ hlater => hlater.freeforall) i
  | questItem i => exact h.questItems.any_eq (fun _ _ hlater => hlater.freeforall) i

theorem Evolves.conditional (h : Evolves loot loot') (i : Nat) :
    loot'.conditional i = loot.conditional i :=
  h.items.any_eq (fun item item' hlater => by
    simp only [hlater.conditionId, hlater.freeforall]) i

theorem Evolves.looted (h : Evolves loot loot') {player : UInt32} {slot : Slot}
    (hlooted : loot.looted player slot = true) : loot'.looted player slot = true := by
  cases slot with
  | item i =>
      simp only [Loot.looted, h.ffa] at hlooted ⊢
      by_cases hffa : loot.ffa (.item i) = true
      · rw [if_pos hffa] at hlooted ⊢
        exact h.ffaEntries.any hlooted
      · rw [if_neg hffa] at hlooted ⊢
        exact h.items.any (fun _ _ hlater => hlater.looted) hlooted
  | questItem i =>
      simp only [Loot.looted, h.ffa] at hlooted ⊢
      by_cases hffa : loot.ffa (.questItem i) = true
      · rw [if_pos hffa] at hlooted ⊢
        exact h.questEntries.any hlooted
      · rw [if_neg hffa] at hlooted ⊢
        exact h.questItems.any (fun _ _ hlater => hlater.looted) hlooted

theorem Evolves.entitles (h : Evolves loot loot') {player : UInt32} {slot : Slot}
    (hentitles : loot.entitles player slot = true) : loot'.entitles player slot = true := by
  cases slot with
  | item i =>
      simp only [Loot.entitles, h.ffa, h.conditional] at hentitles ⊢
      by_cases hffa : loot.ffa (.item i) = true
      · rw [if_pos hffa] at hentitles ⊢
        exact h.ffaEntries.isSome hentitles
      · rw [if_neg hffa] at hentitles ⊢
        by_cases hcond : loot.conditional i = true
        · rw [if_pos hcond] at hentitles ⊢
          exact h.condEntries.isSome hentitles
        · rw [if_neg hcond]
  | questItem i => exact h.questEntries.isSome hentitles

end Evolution

section Soundness

variable {loot loot' : Loot} {player : UInt32} {slot : Slot} {n m : Nat}

structure Fits (loot : Loot) : Prop where
  ffa : EntriesFit loot.playerFFAItems fun i => loot.ffa (.item i)
  quest : EntriesFit loot.playerQuestItems fun i => loot.questBlocked i
  cond : EntriesFit loot.playerConditionalItems fun i => loot.items[i]?.any (·.isCounted)
  rolls : ∀ slot ∈ loot.rolls, loot.ffa (.item slot) = false

/-- Nothing was granted that was not used up by the grant. `n` grants are counted already for
entries that are not stored yet. -/
structure Sound (loot : Loot) (n : Nat) : Prop where
  fits : Fits loot
  once : ∀ player slot, loot.grantsFor player slot ≤ (loot.looted player slot).toNat
  entitled : ∀ grant ∈ loot.grants, loot.entitles grant.player grant.slot = true
  counts : loot.unlootedCount = UInt8.ofNat (loot.possible + n)

theorem toNat_mono {a b : Bool} (h : a = true → b = true) : a.toNat ≤ b.toNat := by
  cases a with
  | false => exact Nat.zero_le _
  | true => exact (h rfl).symm ▸ Nat.le_refl _

theorem Evolves.grantsFor (h : Evolves loot loot') (hgrants : loot'.grants = loot.grants)
    (player : UInt32) (slot : Slot) : loot'.grantsFor player slot = loot.grantsFor player slot := by
  simp only [Loot.grantsFor, h.ffa, hgrants]

theorem Sound.evolve (h : Sound loot n) (he : Evolves loot loot') (hfits : Fits loot')
    (hgrants : loot'.grants = loot.grants)
    (hcounts : loot'.unlootedCount = UInt8.ofNat (loot'.possible + m)) : Sound loot' m where
  fits := hfits
  once := by
    intro player slot
    rw [he.grantsFor hgrants]
    exact (h.once player slot).trans (toNat_mono he.looted)
  entitled := by
    intro grant hgrant
    rw [hgrants] at hgrant
    exact he.entitles (h.entitled grant hgrant)
  counts := hcounts

theorem looted_congr (hffa : loot.ffa slot = false) (player other : UInt32) :
    loot.looted player slot = loot.looted other slot := by
  cases slot with
  | item i => simp [Loot.looted, hffa]
  | questItem i => simp [Loot.looted, hffa]

theorem Sound.grant (h : Sound loot n) (he : Evolves loot loot') (hfits : Fits loot')
    (hgrants : loot'.grants = loot.grants ++ [⟨player, slot⟩])
    (hopen : loot.looted player slot = false) (hclosed : loot'.looted player slot = true)
    (hentitles : loot.entitles player slot = true)
    (hcounts : loot'.unlootedCount = UInt8.ofNat (loot'.possible + m)) : Sound loot' m where
  fits := hfits
  once := by
    intro other slot'
    have hold := h.once other slot'
    have hmono : (loot.looted other slot').toNat ≤ (loot'.looted other slot').toNat :=
      toNat_mono he.looted
    cases hffa : loot.ffa slot' with
    | true =>
        have hffa' := (he.ffa slot').trans hffa
        simp only [Loot.grantsFor, hffa, hffa', hgrants, if_true, List.count_append,
          List.count_singleton] at hold ⊢
        by_cases hsame : (⟨player, slot⟩ : Grant) = ⟨other, slot'⟩
        · cases hsame
          rw [hopen] at hold
          rw [hclosed, if_pos (beq_self_eq_true _)]
          simpa using hold
        · rw [if_neg (by simpa using hsame)]
          exact hold.trans hmono
    | false =>
        have hffa' := (he.ffa slot').trans hffa
        simp only [Loot.grantsFor, hffa, hffa', hgrants, Bool.false_eq_true, if_false,
          List.countP_append, List.countP_singleton, decide_eq_true_eq] at hold ⊢
        by_cases hsame : slot = slot'
        · cases hsame
          rw [looted_congr hffa other player, hopen] at hold
          rw [looted_congr hffa' other player, hclosed, if_pos rfl]
          simpa using hold
        · rw [if_neg hsame]
          exact hold.trans hmono
  entitled := by
    intro grant hgrant
    rw [hgrants] at hgrant
    rcases List.mem_append.mp hgrant with hgrant | hgrant
    · exact he.entitles (h.entitled grant hgrant)
    · rw [List.mem_singleton.mp hgrant]
      exact he.entitles hentitles
  counts := hcounts

theorem countP_modify {items : List LootItem} {i : Nat} {item : LootItem}
    (h : items[i]? = some item) (f : LootItem → LootItem) (p : LootItem → Bool) :
    (items.modify i f).countP p + (p item).toNat = items.countP p + (p (f item)).toNat := by
  induction items generalizing i with
  | nil => cases h
  | cons first rest ih =>
      cases i with
      | zero =>
          cases h
          rw [List.modify_zero_cons, List.countP_cons, List.countP_cons]
          cases p item <;> cases p (f item) <;> simp
      | succ i =>
          have hrest := ih (i := i) h
          rw [List.modify_succ_cons, List.countP_cons, List.countP_cons]
          omega

def possibleRest (loot : Loot) : Nat :=
  loot.questItems.countP LootItem.questLeft + entriesLeft loot.playerFFAItems (fun _ => true) +
    entriesLeft loot.playerQuestItems fun i => loot.ffa (.questItem i)

theorem possible_eq (loot : Loot) :
    loot.possible = loot.items.countP LootItem.sharedLeft + loot.possibleRest := by
  simp only [possible, possibleRest]
  omega

theorem Evolves.fits (h : Evolves loot loot') (hfits : Fits loot)
    (hffa : loot'.playerFFAItems = loot.playerFFAItems)
    (hquest : loot'.playerQuestItems = loot.playerQuestItems)
    (hcond : loot'.playerConditionalItems = loot.playerConditionalItems)
    (hrolls : ∀ slot ∈ loot'.rolls, loot.ffa (.item slot) = false) : Fits loot' where
  ffa := hffa ▸ hfits.ffa.imp fun _ hi => (h.ffa _).trans hi
  quest := hquest ▸ hfits.quest.imp h.blocked
  cond := hcond ▸ hfits.cond.imp fun _ hi => h.items.any (fun _ _ hlater => hlater.counted) hi
  rolls := fun slot hslot => (h.ffa _).trans (hrolls slot hslot)

/-- A step on the items that leaves the number of those that can be granted. -/
theorem Sound.ofItems (h : Sound loot n) {items' : List LootItem}
    (hitems : ItemsLater loot.items items')
    (hleft : items'.countP LootItem.sharedLeft = loot.items.countP LootItem.sharedLeft)
    {rolls : List Nat} (hrolls : ∀ slot ∈ rolls, loot.ffa (.item slot) = false) :
    Sound { loot with items := items', rolls } n := by
  have he : Evolves loot { loot with items := items', rolls } := .ofItems hitems rolls _ _
  refine h.evolve he (he.fits h.fits rfl rfl rfl hrolls) rfl ?_
  have hpossible : possible { loot with items := items', rolls } = loot.possible := by
    simp only [possible_eq, hleft]
    rfl
  rw [hpossible]
  exact h.counts

end Soundness

section Filling

variable {loot : Loot} {looter : Looter} {ql : List QuestItem} {n i : Nat} {item : LootItem}

theorem fillFFALoot_sound (h : Sound loot n) (hnew : loot.playerFFAItems.find? looter.guid = none) :
    Sound (loot.fillFFALoot looter) n := by
  simp only [fillFFALoot]
  split
  · exact h
  · split
    · exact h
    · set indices := (List.range loot.items.length).filter fun i => loot.items[i]?.any fun item =>
        item.isLooted = false ∧ item.freeforall ∧ item.allowedForPlayer looter
      set ql := indices.map (QuestItem.mk · false)
      have he : Evolves loot { loot with
          unlootedCount := loot.unlootedCount + UInt8.ofNat ql.length
          playerFFAItems := loot.playerFFAItems.assign looter.guid ql } :=
        ⟨.refl _, .refl _, fun _ h => h, entriesKept_assign hnew ql, .refl _, .refl _⟩
      have hindices : ql.map (·.index) = indices := by
        rw [List.map_map]
        exact List.map_id _
      have hffa : ∀ q ∈ ql, loot.ffa (.item q.index) = true := by
        intro q hq
        obtain ⟨i, hi, rfl⟩ := List.mem_map.mp hq
        obtain ⟨item, hitem, hall⟩ := (Option.any_eq_true _ _).mp (List.mem_filter.mp hi).2
        exact (Option.any_eq_true _ _).mpr ⟨item, hitem, (of_decide_eq_true hall).2.1⟩
      refine h.evolve he ⟨?_, h.fits.quest, h.fits.cond, h.fits.rolls⟩ rfl ?_
      · refine h.fits.ffa.assign ?_ hffa
        rw [hindices]
        exact List.nodup_range.filter _
      · have hopen : (ql.countP fun q => true && !q.isLooted) = ql.length := by
          rw [List.countP_eq_length]
          intro q hq
          obtain ⟨i, -, rfl⟩ := List.mem_map.mp hq
          rfl
        have hleft := entriesLeft_new hnew ql fun _ => true
        rw [hopen] at hleft
        have hpossible : possible { loot with
            unlootedCount := loot.unlootedCount + UInt8.ofNat ql.length
            playerFFAItems := loot.playerFFAItems.assign looter.guid ql } =
            loot.possible + ql.length := by
          simp only [possible, hleft, ffa]
          omega
        rw [hpossible, Nat.add_right_comm, UInt8.ofNat_add, ← h.counts]

structure QuestFilling (loot : Loot) (ql : List QuestItem) (rest : List Nat) : Prop where
  sound : Sound loot (ql.countP fun q => loot.ffa (.questItem q.index))
  nodup : (ql.map (·.index) ++ rest).Nodup
  fresh : ∀ q ∈ ql, q.isLooted = false
  blocked : ∀ q ∈ ql, loot.questBlocked q.index = true

def blockQuestItem (loot : Loot) (i : Nat) (item : LootItem) : Loot :=
  { loot with
    unlootedCount := if item.freeforall ∨ item.isBlocked = false then loot.unlootedCount + 1
      else loot.unlootedCount
    questItems := loot.questItems.modify i fun item => { item with isBlocked := true } }

theorem blockQuestItem_evolves (loot : Loot) (i : Nat) (item : LootItem) :
    Evolves loot (loot.blockQuestItem i item) := by
  have hlater : ∀ item : LootItem, Later item { item with isBlocked := true } :=
    fun _ => ⟨rfl, rfl, id, id⟩
  refine ⟨.refl _, itemsLater_modify hlater _ _, ?_, .refl _, .refl _, .refl _⟩
  intro j hj
  obtain ⟨found, hfound, hblocked⟩ := (Option.any_eq_true _ _).mp hj
  simp only [questBlocked, blockQuestItem, List.getElem?_modify, hfound]
  by_cases hsame : i = j
  · simp [hsame]
  · simpa [hsame] using hblocked

theorem possible_blockQuestItem (hitem : loot.questItems[i]? = some item)
    (hlooted : item.isLooted = false) :
    (loot.blockQuestItem i item).possible =
      loot.possible + (!item.freeforall && !item.isBlocked).toNat := by
  have hffa : ∀ j, (loot.blockQuestItem i item).ffa (.questItem j) = loot.ffa (.questItem j) :=
    fun j => (blockQuestItem_evolves loot i item).ffa _
  have hcount := countP_modify hitem (fun item => { item with isBlocked := true })
    LootItem.questLeft
  have hleft : LootItem.questLeft { item with isBlocked := true } = !item.freeforall := by
    simp [LootItem.questLeft, hlooted]
  have hwas : LootItem.questLeft item = (!item.freeforall && item.isBlocked) := by
    simp [LootItem.questLeft, hlooted]
  rw [hleft, hwas] at hcount
  have hsplit : (!item.freeforall).toNat =
      (!item.freeforall && item.isBlocked).toNat + (!item.freeforall && !item.isBlocked).toNat := by
    cases item.freeforall <;> cases item.isBlocked <;> rfl
  simp only [possible, hffa]
  simp only [blockQuestItem]
  omega

theorem QuestFilling.push {rest : List Nat} (h : QuestFilling loot ql (i :: rest))
    (hitem : loot.questItems[i]? = some item) (hlooted : item.isLooted = false) :
    QuestFilling (loot.blockQuestItem i item) (ql ++ [⟨i, false⟩]) rest := by
  have he := blockQuestItem_evolves loot i item
  have hself : loot.ffa (.questItem i) = item.freeforall := by simp [ffa, hitem]
  refine ⟨?_, ?_, ?_, ?_⟩
  · refine h.sound.evolve he (he.fits h.sound.fits rfl rfl rfl h.sound.fits.rolls) rfl ?_
    rw [possible_blockQuestItem hitem hlooted]
    simp only [he.ffa, List.countP_append, List.countP_singleton, hself]
    simp only [blockQuestItem]
    cases hfree : item.freeforall with
    | true =>
        rw [if_pos (Or.inl rfl), h.sound.counts, ← UInt8.ofNat_one, ← UInt8.ofNat_add]
        rfl
    | false =>
        cases hblocked : item.isBlocked with
        | true =>
            rw [if_neg (by simp), h.sound.counts]
            rfl
        | false =>
            rw [if_pos (Or.inr rfl), h.sound.counts, ← UInt8.ofNat_one, ← UInt8.ofNat_add]
            congr 1
            simp only [Bool.not_false, Bool.and_self, Bool.toNat_true, Bool.false_eq_true,
              if_false]
            omega
  · rw [List.map_append, List.append_assoc]
    exact h.nodup
  · intro q hq
    rcases List.mem_append.mp hq with hq | hq
    · exact h.fresh q hq
    · rw [List.mem_singleton.mp hq]
  · intro q hq
    rcases List.mem_append.mp hq with hq | hq
    · exact he.blocked _ (h.blocked q hq)
    · rw [List.mem_singleton.mp hq]
      simp [questBlocked, blockQuestItem, hitem]

theorem QuestFilling.skip {rest : List Nat} (h : QuestFilling loot ql (i :: rest)) :
    QuestFilling loot ql rest :=
  ⟨h.sound, h.nodup.sublist ((List.sublist_cons_self i rest).append_left _), h.fresh, h.blocked⟩

theorem fillQuestFrom_filling (looter : Looter) {rest : List Nat} (h : QuestFilling loot ql rest) :
    (∃ left, QuestFilling (fillQuestFrom looter rest loot ql).1
      (fillQuestFrom looter rest loot ql).2 left) ∧
      (fillQuestFrom looter rest loot ql).1.playerQuestItems = loot.playerQuestItems := by
  induction rest generalizing loot ql with
  | nil => exact ⟨⟨[], h⟩, rfl⟩
  | cons i rest ih =>
      simp only [fillQuestFrom]
      split
      · exact ih h.skip
      · rename_i item hitem
        split
        · rename_i hallowed
          have hpush := h.push hitem hallowed.1
          split
          · exact ⟨⟨rest, hpush⟩, rfl⟩
          · exact ih hpush
        · exact ih h.skip

theorem fillQuestLoot_sound (h : Sound loot 0)
    (hnew : loot.playerQuestItems.find? looter.guid = none) :
    Sound (loot.fillQuestLoot looter) 0 := by
  have hstart : QuestFilling loot [] (List.range loot.questItems.length) :=
    ⟨h, List.nodup_range, fun _ hq => absurd hq List.not_mem_nil,
      fun _ hq => absurd hq List.not_mem_nil⟩
  obtain ⟨⟨left, hfilled⟩, hsame⟩ := fillQuestFrom_filling looter hstart
  simp only [fillQuestLoot]
  split
  · exact h
  · split
    · exact h
    · set filled := fillQuestFrom looter (List.range loot.questItems.length) loot []
      split
      · rename_i hnone
        have hsound := hfilled.sound
        rw [hnone] at hsound
        exact hsound
      · rw [← hsame] at hnew
        have he : Evolves filled.1 { filled.1 with
            playerQuestItems := filled.1.playerQuestItems.assign looter.guid filled.2 } :=
          ⟨.refl _, .refl _, fun _ h => h, .refl _, entriesKept_assign hnew filled.2, .refl _⟩
        have hfits := hfilled.sound.fits
        refine hfilled.sound.evolve he ⟨hfits.ffa, ?_, hfits.cond, hfits.rolls⟩ rfl ?_
        · exact hfits.quest.assign (hfilled.nodup.sublist (List.sublist_append_left _ _))
            hfilled.blocked
        · have hopen : (filled.2.countP fun q =>
              filled.1.ffa (.questItem q.index) && !q.isLooted) =
              filled.2.countP fun q => filled.1.ffa (.questItem q.index) := by
            refine List.countP_congr fun q hq => ?_
            simp [hfilled.fresh q hq]
          have hleft := entriesLeft_new hnew filled.2 fun i => filled.1.ffa (.questItem i)
          rw [hopen] at hleft
          have hpossible : possible { filled.1 with
              playerQuestItems := filled.1.playerQuestItems.assign looter.guid filled.2 } =
              filled.1.possible + filled.2.countP fun q => filled.1.ffa (.questItem q.index) := by
            simp only [possible, he.ffa, hleft]
            omega
          rw [hpossible]
          exact hfilled.sound.counts

structure CondFilling (loot : Loot) (ql : List QuestItem) (rest : List Nat) : Prop where
  sound : Sound loot 0
  nodup : (ql.map (·.index) ++ rest).Nodup
  counted : ∀ q ∈ ql, loot.items[q.index]?.any (·.isCounted) = true

def countItem (loot : Loot) (i : Nat) (item : LootItem) : Loot :=
  { loot with
    unlootedCount := if item.isCounted = false then loot.unlootedCount + 1 else loot.unlootedCount
    items := loot.items.modify i fun item => { item with isCounted := true } }

theorem countItem_evolves (loot : Loot) (i : Nat) (item : LootItem) :
    Evolves loot (loot.countItem i item) := by
  have hlater : ∀ item : LootItem, Later item { item with isCounted := true } :=
    fun _ => ⟨rfl, rfl, id, fun _ => rfl⟩
  exact .ofItems (itemsLater_modify hlater _ _) _ _ _

theorem CondFilling.push {rest : List Nat} (h : CondFilling loot ql (i :: rest))
    (hitem : loot.items[i]? = some item) (hlooted : item.isLooted = false)
    (hffa : item.freeforall = false) (hcond : item.conditionId ≠ 0) :
    CondFilling (loot.countItem i item) (ql ++ [⟨i, false⟩]) rest := by
  have he := countItem_evolves loot i item
  refine ⟨?_, ?_, ?_⟩
  · refine h.sound.evolve he (he.fits h.sound.fits rfl rfl rfl h.sound.fits.rolls) rfl ?_
    have hcount := countP_modify hitem (fun item => { item with isCounted := true })
      LootItem.sharedLeft
    have hleft : LootItem.sharedLeft { item with isCounted := true } = true := by
      simp [LootItem.sharedLeft, hlooted, hffa]
    have hwas : LootItem.sharedLeft item = item.isCounted := by
      simp [LootItem.sharedLeft, hlooted, hffa, hcond]
    rw [hleft, hwas, Bool.toNat_true] at hcount
    have hrest : (loot.countItem i item).possibleRest = loot.possibleRest := rfl
    have hcounts := h.sound.counts
    rw [possible_eq] at hcounts
    rw [possible_eq, hrest]
    simp only [countItem]
    cases hcounted : item.isCounted with
    | true =>
        rw [hcounted, Bool.toNat_true] at hcount
        rw [if_neg (by simp), hcounts, Nat.add_right_cancel hcount]
    | false =>
        rw [hcounted, Bool.toNat_false, Nat.add_zero] at hcount
        rw [if_pos rfl, hcounts, hcount, ← UInt8.ofNat_one, ← UInt8.ofNat_add]
        congr 1
        omega
  · rw [List.map_append, List.append_assoc]
    exact h.nodup
  · intro q hq
    rcases List.mem_append.mp hq with hq | hq
    · exact he.items.any (fun _ _ hlater => hlater.counted) (h.counted q hq)
    · rw [List.mem_singleton.mp hq]
      simp [countItem, hitem]

theorem fillConditionalFrom_filling (looter : Looter) {rest : List Nat}
    (h : CondFilling loot ql rest) :
    CondFilling (fillConditionalFrom looter rest loot ql).1
        (fillConditionalFrom looter rest loot ql).2 [] ∧
      (fillConditionalFrom looter rest loot ql).1.playerConditionalItems =
        loot.playerConditionalItems := by
  induction rest generalizing loot ql with
  | nil => exact ⟨h, rfl⟩
  | cons i rest ih =>
      have hskip : CondFilling loot ql rest :=
        ⟨h.sound, h.nodup.sublist ((List.sublist_cons_self i rest).append_left _), h.counted⟩
      simp only [fillConditionalFrom]
      split
      · exact ih hskip
      · rename_i item hitem
        split
        · rename_i hallowed
          exact ih (h.push hitem hallowed.1 hallowed.2.1 hallowed.2.2.1)
        · exact ih hskip

theorem fillConditionalLoot_sound (h : Sound loot 0)
    (hnew : loot.playerConditionalItems.find? looter.guid = none) :
    Sound (loot.fillNonQuestNonFFAConditionalLoot looter) 0 := by
  have hstart : CondFilling loot [] (List.range loot.items.length) :=
    ⟨h, List.nodup_range, fun _ hq => absurd hq List.not_mem_nil⟩
  obtain ⟨hfilled, hsame⟩ := fillConditionalFrom_filling looter hstart
  simp only [fillNonQuestNonFFAConditionalLoot]
  split
  · exact h
  · set filled := fillConditionalFrom looter (List.range loot.items.length) loot []
    split
    · exact hfilled.sound
    · rw [← hsame] at hnew
      have he : Evolves filled.1 { filled.1 with
          playerConditionalItems :=
            filled.1.playerConditionalItems.assign looter.guid filled.2 } :=
        ⟨.refl _, .refl _, fun _ h => h, .refl _, .refl _, entriesKept_assign hnew filled.2⟩
      have hfits := hfilled.sound.fits
      refine hfilled.sound.evolve he ⟨hfits.ffa, hfits.quest, ?_, hfits.rolls⟩ rfl
        hfilled.sound.counts
      exact hfits.cond.assign (hfilled.nodup.sublist (List.sublist_append_left _ _))
        hfilled.counted

theorem fillNotNormalLootFor_sound (h : Sound loot 0) (looter : Looter) :
    Sound (loot.fillNotNormalLootFor looter) 0 := by
  unfold fillNotNormalLootFor
  extract_lets allowed quest ffa
  have hallowed : Sound allowed 0 :=
    h.evolve ⟨.refl _, .refl _, fun _ h => h, .refl _, .refl _, .refl _⟩
      ⟨h.fits.ffa, h.fits.quest, h.fits.cond, h.fits.rolls⟩ rfl h.counts
  have hquest : Sound quest 0 := by
    simp only [quest]
    split
    · rename_i hnew
      exact fillQuestLoot_sound hallowed hnew
    · exact hallowed
  have hffa : Sound ffa 0 := by
    simp only [ffa]
    split
    · rename_i hnew
      exact fillFFALoot_sound hquest hnew
    · exact hquest
  split
  · rename_i hnew
    exact fillConditionalLoot_sound hffa hnew
  · exact hffa

structure Rolled (loot : Loot) : Prop where
  questEmpty : loot.playerQuestItems = .empty
  ffaEmpty : loot.playerFFAItems = .empty
  condEmpty : loot.playerConditionalItems = .empty
  rolls : loot.rolls = []
  grants : loot.grants = []
  blocked : ∀ item ∈ loot.questItems, item.isBlocked = false
  counts : loot.unlootedCount = UInt8.ofNat (loot.items.countP LootItem.sharedLeft)

theorem Rolled.addItem (h : Rolled loot) (li : LootStoreItem) : Rolled (loot.addItem li) := by
  simp only [Loot.addItem]
  split
  · split
    · refine { h with blocked := ?_ }
      intro item hitem
      rcases List.mem_append.mp hitem with hitem | hitem
      · exact h.blocked item hitem
      · rw [List.mem_singleton.mp hitem]
        rfl
    · exact h
  · split
    · refine { h with counts := ?_ }
      have hleft : LootItem.sharedLeft (LootItem.ofStore li) =
          decide (li.conditionId = 0 ∧ li.partyLoot = false) := by
        cases hloot : li.partyLoot <;> simp [LootItem.sharedLeft, LootItem.ofStore, hloot]
      rw [List.countP_append, List.countP_singleton, hleft, h.counts]
      by_cases hordinary : li.conditionId = 0 ∧ li.partyLoot = false
      · rw [if_pos hordinary, if_pos (decide_eq_true hordinary), ← UInt8.ofNat_one,
          ← UInt8.ofNat_add]
      · rw [if_neg hordinary, if_neg (by simpa using hordinary)]
        rfl
    · exact h

theorem processed_rolled (rolled : List LootStoreItem) : Rolled (processed rolled) := by
  have hstart : Rolled {} := ⟨rfl, rfl, rfl, rfl, rfl, fun _ h => absurd h List.not_mem_nil, rfl⟩
  exact @Lib.run_always _ _ Loot.addItem _ (fun _ li h => h.addItem li) _ hstart rolled

theorem entriesFit_empty (p : Nat → Bool) : EntriesFit .empty p := nofun

theorem Rolled.sound (h : Rolled loot) : Sound loot 0 where
  fits :=
    { ffa := h.ffaEmpty ▸ entriesFit_empty _
      quest := h.questEmpty ▸ entriesFit_empty _
      cond := h.condEmpty ▸ entriesFit_empty _
      rolls := fun _ hslot => absurd (h.rolls ▸ hslot) List.not_mem_nil }
  once := by
    intro player slot
    simp only [Loot.grantsFor, h.grants, List.count_nil, List.countP_nil, ite_self]
    exact Nat.zero_le _
  entitled := fun _ hgrant => absurd (h.grants ▸ hgrant) List.not_mem_nil
  counts := by
    have hquest : loot.questItems.countP LootItem.questLeft = 0 := by
      refine List.countP_eq_zero.mpr fun item hitem => ?_
      simp [LootItem.questLeft, h.blocked item hitem]
    have hrest : loot.possibleRest = 0 := by
      simp only [possibleRest, hquest, h.ffaEmpty, h.questEmpty]
      rfl
    rw [possible_eq, hrest, h.counts, Nat.add_zero]

theorem markUnderthreshold_sound (h : Sound loot n) (isUnder : UInt32 → Bool) :
    Sound (loot.markUnderthreshold isUnder) n := by
  have hlater : ∀ item : LootItem, Later item
      { item with isUnderthreshold := item.isUnderthreshold || isUnder item.itemid } :=
    fun _ => ⟨rfl, rfl, id, id⟩
  refine h.ofItems (itemsLater_map hlater loot.items) ?_ h.fits.rolls
  rw [List.countP_map]
  rfl

theorem fillLoot_sound (rolled : List LootStoreItem) (looters : List Looter)
    (isUnder : UInt32 → Bool) : Sound (fillLoot rolled looters isUnder) 0 := by
  have hfilled := @Lib.run_always _ _ fillNotNormalLootFor (fun loot => Sound loot 0)
    (fun _ looter h => fillNotNormalLootFor_sound h looter) _
    (processed_rolled rolled).sound looters
  exact markUnderthreshold_sound hfilled isUnder

end Filling

section Granting

variable {loot : Loot} {player : UInt32} {lootSlot i : Nat} {item : LootItem} {found : Found}
  {f : LootItem → LootItem}

inductive InSlot (loot : Loot) (lootSlot : Nat) (player : UInt32) : Found → LootItem → Prop where
  | quest {item : LootItem} {ql : List QuestItem} {q : QuestItem} (questSlot : Nat)
      (stored : loot.playerQuestItems.find? player = some ql) (mem : q ∈ ql)
      (get : loot.questItems[q.index]? = some item) (unlooted : item.isLooted = false)
      (left : q.isLooted = false) : InSlot loot lootSlot player (.quest questSlot q.index) item
  | ffa {item : LootItem} {q : QuestItem} (get : loot.items[lootSlot]? = some item)
      (free : item.freeforall = true) (entry : entryOf loot.playerFFAItems player lootSlot = some q)
      (left : q.isLooted = false) : InSlot loot lootSlot player .ffa item
  | conditional {item : LootItem} {q : QuestItem} (get : loot.items[lootSlot]? = some item)
      (single : item.freeforall = false) (unlooted : item.isLooted = false)
      (cond : item.conditionId ≠ 0)
      (entry : entryOf loot.playerConditionalItems player lootSlot = some q) :
      InSlot loot lootSlot player .conditional item
  | shared {item : LootItem} (get : loot.items[lootSlot]? = some item)
      (unlooted : item.isLooted = false)
      (free : item.freeforall = true → entryOf loot.playerFFAItems player lootSlot = none) :
      InSlot loot lootSlot player .shared item

theorem lootItemInSlot_some (h : loot.lootItemInSlot lootSlot player = some (found, item)) :
    InSlot loot lootSlot player found item := by
  simp only [lootItemInSlot] at h
  split at h
  · split at h
    · cases h
    · rename_i qitem hqitem
      obtain ⟨ql, hql, hget⟩ := Option.bind_eq_some_iff.mp hqitem
      split at h
      · cases h
      · rename_i item hitem
        split at h
        · cases h
        · rename_i hlooted
          cases h
          have hopen := not_or.mp hlooted
          exact .quest _ hql (List.mem_of_getElem? hget) hitem (Bool.eq_false_iff.mpr hopen.1)
            (Bool.eq_false_iff.mpr hopen.2)
  · rename_i item hitem
    split at h
    · rename_i hfree
      split at h
      · rename_i ffaitem hffaitem
        split at h
        · cases h
        · rename_i hlooted
          cases h
          exact .ffa hitem hfree hffaitem (Bool.eq_false_iff.mpr hlooted)
      · rename_i hnone
        split at h
        · cases h
        · rename_i hlooted
          cases h
          exact .shared hitem (Bool.eq_false_iff.mpr hlooted) fun _ => hnone
    · rename_i hfree
      have hsingle := Bool.eq_false_iff.mpr hfree
      split at h
      · cases h
      · rename_i hlooted
        have hunlooted := Bool.eq_false_iff.mpr hlooted
        split at h
        · cases h
          exact .shared hitem hunlooted fun hfree' => absurd hfree' hfree
        · rename_i hcond
          split at h
          · rename_i conditem hconditem
            split at h
            · cases h
            · cases h
              exact .conditional hitem hsingle hunlooted hcond hconditem
          · cases h
            exact .shared hitem hunlooted fun hfree' => absurd hfree' hfree

theorem ofNat_succ_sub_one (n : Nat) : UInt8.ofNat (n + 1) - 1 = UInt8.ofNat n := by
  rw [UInt8.ofNat_add]
  exact UInt8.add_sub_cancel _ _

theorem sharedLeft_of_entitled (h : Fits loot) (hitem : loot.items[i]? = some item)
    (hsingle : item.freeforall = false) (hunlooted : item.isLooted = false)
    (hentitles : loot.entitles player (.item i) = true) : item.sharedLeft = true := by
  have hffa : loot.ffa (.item i) = false := by simp [ffa, hitem, hsingle]
  simp only [LootItem.sharedLeft, hsingle, hunlooted, Bool.not_false, Bool.true_and,
    Bool.or_eq_true, decide_eq_true_eq]
  by_cases hcond : item.conditionId = 0
  · exact Or.inl hcond
  · have hconditional : loot.conditional i = true := by
      simp [conditional, hitem, hcond, hsingle]
    simp only [entitles, hffa, hconditional, Bool.false_eq_true, if_false, if_true] at hentitles
    obtain ⟨q, hq⟩ := Option.isSome_iff_exists.mp hentitles
    obtain ⟨ql, hql, hmem, rfl, -⟩ := entryOf_eq_some hq
    have hcounted : loot.items[q.index]?.any (·.isCounted) = true := (h.cond player ql hql).2 q hmem
    rw [hitem] at hcounted
    exact Or.inr hcounted

theorem Sound.give (h : Sound loot 0) (hitem : loot.items[i]? = some item)
    (hsingle : item.freeforall = false) (hunlooted : item.isLooted = false)
    (hentitles : loot.entitles player (.item i) = true) (hf : ∀ item, Later item (f item))
    (hlooted : ∀ item, (f item).isLooted = true) (stores : Bool) :
    Sound { loot with
      items := loot.items.modify i f
      unlootedCount := loot.unlootedCount - 1
      grants := if stores then loot.grants ++ [⟨player, .item i⟩] else loot.grants } 0 := by
  set loot' : Loot := { loot with
      items := loot.items.modify i f
      unlootedCount := loot.unlootedCount - 1
      grants := if stores then loot.grants ++ [⟨player, .item i⟩] else loot.grants }
  have he : Evolves loot loot' := .ofItems (itemsLater_modify hf _ _) _ _ _
  have hfits : Fits loot' := he.fits h.fits rfl rfl rfl h.fits.rolls
  have hcounts : loot'.unlootedCount = UInt8.ofNat (loot'.possible + 0) := by
    have hcount := countP_modify hitem f LootItem.sharedLeft
    have hused : (f item).sharedLeft = false := by simp [LootItem.sharedLeft, hlooted]
    rw [sharedLeft_of_entitled h.fits hitem hsingle hunlooted hentitles, hused, Bool.toNat_true,
      Bool.toNat_false] at hcount
    have hitems : loot'.items = loot.items.modify i f := rfl
    have hrest : loot'.possibleRest = loot.possibleRest := rfl
    have hpossible : loot.possible = loot'.possible + 1 := by
      rw [possible_eq, possible_eq, hitems, hrest]
      omega
    have hbefore := h.counts
    rw [Nat.add_zero, hpossible] at hbefore
    rw [Nat.add_zero, ← ofNat_succ_sub_one, ← hbefore]
  have hffa : loot.ffa (.item i) = false := by simp [ffa, hitem, hsingle]
  cases stores with
  | false => exact h.evolve he hfits rfl hcounts
  | true =>
      refine h.grant he hfits rfl ?_ ?_ hentitles hcounts
      · simp [looted, hffa, hitem, hunlooted]
      · have hlooted' : loot'.items[i]?.any (·.isLooted) = true := by
          simp [loot', hitem, hlooted]
        simp only [looted, (he.ffa _).trans hffa, hlooted', Bool.false_eq_true, if_false]

theorem Sound.grantFFA (h : Sound loot 0) {q : QuestItem} (hitem : loot.items[i]? = some item)
    (hfree : item.freeforall = true) (hq : entryOf loot.playerFFAItems player i = some q)
    (hleft : q.isLooted = false) :
    Sound { loot with
      playerFFAItems := markEntry loot.playerFFAItems player i
      unlootedCount := loot.unlootedCount - 1
      grants := loot.grants ++ [⟨player, .item i⟩] } 0 := by
  set loot' : Loot := { loot with
      playerFFAItems := markEntry loot.playerFFAItems player i
      unlootedCount := loot.unlootedCount - 1
      grants := loot.grants ++ [⟨player, .item i⟩] }
  have he : Evolves loot loot' :=
    ⟨.refl _, .refl _, fun _ h => h, entriesKept_markEntry _ _ _, .refl _, .refl _⟩
  have hffa : loot.ffa (.item i) = true := by simp [ffa, hitem, hfree]
  have hfits : Fits loot' := ⟨h.fits.ffa.marked player i, h.fits.quest, h.fits.cond, h.fits.rolls⟩
  obtain ⟨-, -, -, hindex, -⟩ := entryOf_eq_some hq
  refine h.grant he hfits rfl ?_ ?_ ?_ ?_
  · simp [looted, hffa, hq, hleft]
  · have hmarked : entryOf loot'.playerFFAItems player i = some (markItem i q) := by
      simp only [loot', entryOf_markEntry_self, hq, Option.map_some]
    have hlooted : (markItem i q).isLooted = true := by
      rw [markItem, if_pos hindex]
    simp only [looted, (he.ffa _).trans hffa, if_true, hmarked, Option.any_some, hlooted]
  · simp [entitles, hffa, hq]
  · have hcount := entriesLeft_markEntry h.fits.ffa hq hleft fun _ => true
    rw [if_pos rfl] at hcount
    have hpossible : loot.possible = loot'.possible + 1 := by
      simp only [possible, he.ffa, ← hcount]
      simp only [loot']
      omega
    have hbefore := h.counts
    rw [Nat.add_zero, hpossible] at hbefore
    rw [Nat.add_zero, ← ofNat_succ_sub_one, ← hbefore]

theorem Sound.grantQuest (h : Sound loot 0) {q : QuestItem} {ql : List QuestItem}
    (hql : loot.playerQuestItems.find? player = some ql) (hmem : q ∈ ql)
    (hitem : loot.questItems[q.index]? = some item) (hunlooted : item.isLooted = false)
    (hleft : q.isLooted = false) :
    Sound { loot with
      playerQuestItems := markEntry loot.playerQuestItems player q.index
      questItems := if item.freeforall then loot.questItems else setLooted loot.questItems q.index
      unlootedCount := loot.unlootedCount - 1
      grants := loot.grants ++ [⟨player, .questItem q.index⟩] } 0 := by
  set loot' : Loot := { loot with
      playerQuestItems := markEntry loot.playerQuestItems player q.index
      questItems := if item.freeforall then loot.questItems else setLooted loot.questItems q.index
      unlootedCount := loot.unlootedCount - 1
      grants := loot.grants ++ [⟨player, .questItem q.index⟩] }
  have hq := entryOf_of_mem h.fits.quest hql hmem
  have hlater : ∀ item : LootItem, Later item { item with isLooted := true } :=
    fun _ => ⟨rfl, rfl, fun _ => rfl, id⟩
  have hblocked : ∀ j, loot.questBlocked j = true → loot'.questBlocked j = true := by
    intro j hj
    obtain ⟨old, hold, hwas⟩ := (Option.any_eq_true _ _).mp hj
    simp only [questBlocked, loot']
    split
    · simp [hold, hwas]
    · simp only [setLooted, List.getElem?_modify, hold]
      by_cases hsame : q.index = j <;> simp [hsame, hwas]
  have hitems : ItemsLater loot.questItems loot'.questItems := by
    simp only [loot']
    split
    · exact .refl _
    · exact itemsLater_modify hlater _ _
  have he : Evolves loot loot' :=
    ⟨.refl _, hitems, hblocked, .refl _, entriesKept_markEntry _ _ _, .refl _⟩
  have hffa : loot.ffa (.questItem q.index) = item.freeforall := by simp [ffa, hitem]
  have hfits : Fits loot' :=
    ⟨h.fits.ffa, (h.fits.quest.imp hblocked).marked player q.index, h.fits.cond, h.fits.rolls⟩
  have hcount := entriesLeft_markEntry h.fits.quest hq hleft fun j => loot.ffa (.questItem j)
  rw [hffa] at hcount
  have hpossible : loot.possible = loot'.possible + 1 := by
    simp only [possible, he.ffa, ← hcount]
    simp only [loot']
    cases hfree : item.freeforall with
    | true =>
        rw [if_pos rfl, if_pos rfl]
        omega
    | false =>
        have hwas : item.questLeft = true := by
          have hblocked' : loot.questItems[q.index]?.any (·.isBlocked) = true :=
            (h.fits.quest player ql hql).2 q hmem
          rw [hitem] at hblocked'
          have hblocked'' : item.isBlocked = true := hblocked'
          simp [LootItem.questLeft, hfree, hunlooted, hblocked'']
        have hused : LootItem.questLeft { item with isLooted := true } = false := by
          simp [LootItem.questLeft]
        have hitems' := countP_modify hitem (fun item => { item with isLooted := true })
          LootItem.questLeft
        rw [hwas, hused, Bool.toNat_true, Bool.toNat_false] at hitems'
        rw [if_neg Bool.false_ne_true, if_neg Bool.false_ne_true, setLooted]
        omega
  refine h.grant he hfits rfl ?_ ?_ ?_ ?_
  · simp only [looted, hffa, hq, hitem, Option.any_some, hleft, hunlooted, ite_self]
  · simp only [looted, he.ffa, hffa]
    cases hfree : item.freeforall with
    | true =>
        have hlooted : (markItem q.index q).isLooted = true := by
          rw [markItem, if_pos rfl]
        simp only [loot', if_true, entryOf_markEntry_self, hq, Option.map_some, Option.any_some,
          hlooted]
    | false =>
        have hlooted : (setLooted loot.questItems q.index)[q.index]?.any (·.isLooted) = true := by
          simp [setLooted, hitem]
        simp only [loot', hfree, Bool.false_eq_true, if_false, hlooted]
  · simp only [entitles, hq, Option.isSome_some]
  · have hbefore := h.counts
    rw [Nat.add_zero, hpossible] at hbefore
    rw [Nat.add_zero, ← ofNat_succ_sub_one, ← hbefore]

theorem evolves_markConditional (loot : Loot) (player : UInt32) (i : Nat) :
    Evolves loot { loot with
      playerConditionalItems := markEntry loot.playerConditionalItems player i } :=
  ⟨.refl _, .refl _, fun _ h => h, .refl _, .refl _, entriesKept_markEntry _ _ _⟩

theorem Sound.markConditional (h : Sound loot 0) (player : UInt32) (i : Nat) :
    Sound { loot with
      playerConditionalItems := markEntry loot.playerConditionalItems player i } 0 :=
  h.evolve (evolves_markConditional loot player i)
    ⟨h.fits.ffa, h.fits.quest, h.fits.cond.marked player i, h.fits.rolls⟩ rfl h.counts

end Granting

section Steps

variable {loot : Loot}

/-- Every grant goes to a player who is entitled to the item, and for an item not looted yet;
what a roll decides and what the master looter gives is an item for one player. -/
def Covered (loot : Loot) : LootEvent → Prop
  | .autostore player lootSlot isMasterLooted canStore stores =>
      ∀ item ∈ loot.items[lootSlot.toNat]?, item.isLooted = false →
        item.allowedForPlayer player = true → item.isBlocked = false →
        (isMasterLooted = true → item.isUnderthreshold = true) → canStore = true →
        stores = true → item.count ≠ 0 → loot.entitles player.guid (.item lootSlot.toNat) = true
  | .countTheRoll slot (.won winner true _) =>
      ∀ item ∈ loot.items[slot]?, slot ∈ loot.rolls →
        item.isLooted = false ∧ loot.entitles winner (.item slot) = true
  | .masterGive slotid target true _ =>
      ∀ item ∈ loot.items[slotid.toNat]?, target ∈ loot.allowedLooters →
        item.freeforall = false ∧ item.isLooted = false ∧
          loot.entitles target (.item slotid.toNat) = true
  | _ => True

theorem autostore_sound (h : Sound loot 0) (player : Looter) (lootSlot : UInt8)
    (isMasterLooted canStore stores : Bool)
    (hcovered : Covered loot (.autostore player lootSlot isMasterLooted canStore stores)) :
    Sound (loot.autostore player lootSlot isMasterLooted canStore stores) 0 := by
  have hlater : ∀ item : LootItem, Later item { item with isLooted := true } :=
    fun _ => ⟨rfl, rfl, fun _ => rfl, id⟩
  simp only [autostore]
  split
  · exact h
  · rename_i found item hfound
    split
    · exact h
    · rename_i hallowed
      split
      · exact h
      · rename_i hblocked
        split
        · exact h
        · rename_i hmaster
          split
          · exact h
          · rename_i hcan
            split
            · exact h
            · rename_i hstores
              have hgone := not_or.mp hstores
              cases lootItemInSlot_some hfound with
              | quest questSlot stored mem get unlooted left =>
                  exact h.grantQuest stored mem get unlooted left
              | ffa get free entry left => exact h.grantFFA get free entry left
              | conditional get single unlooted cond entry =>
                  have hmarked := h.markConditional player.guid lootSlot.toNat
                  have hentitles : loot.entitles player.guid (.item lootSlot.toNat) = true := by
                    have hcond : loot.conditional lootSlot.toNat = true := by
                      simp [Loot.conditional, get, cond, single]
                    have hffa : loot.ffa (.item lootSlot.toNat) = false := by
                      simp [ffa, get, single]
                    simp only [entitles, hffa, hcond, entry, Bool.false_eq_true, if_false, if_true,
                      Option.isSome_some]
                  exact hmarked.give get single unlooted
                    ((evolves_markConditional loot _ _).entitles hentitles) hlater
                      (fun _ => rfl) true
              | shared get unlooted free =>
                  have hentitles := hcovered item get unlooted (by simpa using hallowed)
                    (by simpa [Found.isQuest] using hblocked)
                    (by simpa [Found.isQuest] using hmaster) (by simpa using hcan)
                    (by simpa using hgone.1) hgone.2
                  have hsingle : item.freeforall = false := by
                    refine Bool.eq_false_iff.mpr fun hfree => ?_
                    have hffa : loot.ffa (.item lootSlot.toNat) = true := by simp [ffa, get, hfree]
                    simp only [entitles, hffa, if_true, free hfree] at hentitles
                    exact Bool.false_ne_true hentitles
                  have hgive := h.give get hsingle unlooted hentitles hlater (fun _ => rfl) true
                  simp only [mark, hsingle, Bool.false_eq_true, if_false]
                  exact hgive

theorem groupLoot_sound (h : Sound loot 0) (hasRollers : Nat → Bool) :
    Sound (loot.groupLoot hasRollers) 0 := by
  have hlater : ∀ item : LootItem, Later item { item with isBlocked := true } :=
    fun _ => ⟨rfl, rfl, id, id⟩
  have hfold : ∀ slots : List Nat, ∀ loot, Sound loot 0 →
      (∀ slot ∈ slots, loot.ffa (.item slot) = false) →
        Sound (slots.foldl startLootRoll loot) 0 := by
    intro slots
    induction slots with
    | nil => exact fun _ h _ => h
    | cons first rest ih =>
        intro loot h hffa
        have hitems := itemsLater_modify hlater loot.items first
        have he : Evolves loot (loot.startLootRoll first) := .ofItems hitems _ _ _
        have hleft : (loot.items.modify first fun item => { item with isBlocked := true }).countP
            LootItem.sharedLeft = loot.items.countP LootItem.sharedLeft := by
          cases hitem : loot.items[first]? with
          | none => rw [List.modify_eq_self (List.getElem?_eq_none_iff.mp hitem)]
          | some item => exact Nat.add_right_cancel (countP_modify hitem _ _)
        have hrolls : ∀ slot ∈ loot.rolls ++ [first], loot.ffa (.item slot) = false := by
          intro slot hslot
          rcases List.mem_append.mp hslot with hslot | hslot
          · exact h.fits.rolls slot hslot
          · exact List.mem_singleton.mp hslot ▸ hffa first List.mem_cons_self
        refine ih _ (h.ofItems hitems hleft hrolls) fun slot hslot => ?_
        exact (he.ffa _).trans (hffa slot (List.mem_cons_of_mem _ hslot))
  refine hfold _ loot h fun slot hslot => ?_
  have hkeep := (List.mem_filter.mp hslot).2
  cases hitem : loot.items[slot]? with
  | none => simp [ffa, hitem]
  | some item =>
      simp only [hitem, Option.any_some, Bool.and_eq_true, decide_eq_true_eq] at hkeep
      simp [ffa, hitem, hkeep.1]

/-- A roll that ends without a winner to give the item to. -/
theorem updateItem_sound (h : Sound loot 0) (slot : Nat) {f : LootItem → LootItem}
    (hf : ∀ item, Later item (f item)) (hleft : ∀ item, (f item).sharedLeft = item.sharedLeft) :
    Sound (loot.updateItem slot f) 0 := by
  refine h.ofItems (itemsLater_modify hf loot.items slot) ?_ h.fits.rolls
  cases hitem : loot.items[slot]? with
  | none => rw [List.modify_eq_self (List.getElem?_eq_none_iff.mp hitem)]
  | some item =>
      have hcount := countP_modify hitem f LootItem.sharedLeft
      rw [hleft] at hcount
      exact Nat.add_right_cancel hcount

theorem countTheRoll_sound (h : Sound loot 0) (slot : Nat) (outcome : RollOutcome)
    (hcovered : Covered loot (.countTheRoll slot outcome)) :
    Sound (loot.countTheRoll slot outcome) 0 := by
  simp only [countTheRoll]
  split
  · exact h
  · rename_i hroll
    have hmem := not_not.mp hroll
    have hdone : Sound { loot with rolls := loot.rolls.erase slot } 0 :=
      h.ofItems (.refl _) rfl fun other hother => h.fits.rolls other (List.mem_of_mem_erase hother)
    split
    · exact hdone
    · rename_i item hitem
      have hsingle : item.freeforall = false := by
        have hffa := h.fits.rolls slot hmem
        simpa [ffa, hitem] using hffa
      cases outcome with
      | won winner canStore stores =>
          cases canStore with
          | true =>
              obtain ⟨hunlooted, hentitles⟩ := hcovered item hitem hmem
              have hlater : ∀ item : LootItem, Later item { id item with isLooted := true } :=
                fun _ => ⟨rfl, rfl, fun _ => rfl, id⟩
              exact hdone.give hitem hsingle hunlooted hentitles hlater (fun _ => rfl)
                (stores && item.count ≠ 0)
          | false =>
              exact updateItem_sound hdone slot (fun _ => ⟨rfl, rfl, id, id⟩) fun _ => rfl
      | gone winner isNeed =>
          cases isNeed with
          | true => exact updateItem_sound hdone slot (fun _ => ⟨rfl, rfl, id, id⟩) fun _ => rfl
          | false => exact hdone
      | allPassed => exact updateItem_sound hdone slot (fun _ => ⟨rfl, rfl, id, id⟩) fun _ => rfl

theorem masterGive_sound (h : Sound loot 0) (slotid : UInt8) (target : UInt32)
    (canStore stores : Bool) (hcovered : Covered loot (.masterGive slotid target canStore stores)) :
    Sound (loot.masterGive slotid target canStore stores) 0 := by
  simp only [masterGive]
  split
  · exact h
  · rename_i item hitem
    split
    · exact h
    · rename_i htarget
      cases canStore with
      | false => exact h
      | true =>
          obtain ⟨hsingle, hunlooted, hentitles⟩ := hcovered item hitem (not_not.mp htarget)
          have hlater : ∀ item : LootItem,
              Later item { { item with count := 0 } with isLooted := true } :=
            fun _ => ⟨rfl, rfl, fun _ => rfl, id⟩
          exact h.give hitem hsingle hunlooted hentitles hlater (fun _ => rfl)
            (stores && item.count ≠ 0)

theorem Sound.step (h : Sound loot 0) (event : LootEvent) (hcovered : Covered loot event) :
    Sound (loot.step event) 0 := by
  cases event with
  | fillNotNormalLootFor player => exact fillNotNormalLootFor_sound h player
  | markUnderthreshold isUnder => exact markUnderthreshold_sound h isUnder
  | groupLoot hasRollers => exact groupLoot_sound h hasRollers
  | autostore player lootSlot isMasterLooted canStore stores =>
      exact autostore_sound h player lootSlot isMasterLooted canStore stores hcovered
  | countTheRoll slot outcome => exact countTheRoll_sound h slot outcome hcovered
  | masterGive slotid target canStore stores =>
      exact masterGive_sound h slotid target canStore stores hcovered

end Steps

section Runs

/-- An item for one player is granted once, an item that is free for all once to each player,
and only to players who are entitled to it. -/
theorem looted_once (rolled : List LootStoreItem) (looters : List Looter)
    (isUnder : UInt32 → Bool) (events : List LootEvent)
    (h : Lib.Along Loot.step Covered (fillLoot rolled looters isUnder) events) :
    let loot := Lib.run Loot.step (fillLoot rolled looters isUnder) events
    (∀ slot, loot.ffa slot = false → loot.grants.countP (·.slot = slot) ≤ 1) ∧
      (∀ player slot, loot.grants.count ⟨player, slot⟩ ≤ 1) ∧
      (∀ grant ∈ loot.grants, loot.entitles grant.player grant.slot = true) ∧
      (loot.unlootedCount.toNat = loot.possible ↔ loot.possible < 256) := by
  intro loot
  have hsound : Sound loot 0 :=
    Lib.run_invariant (I := fun loot => Sound loot 0) (fun _ event hs hc => hs.step event hc)
      (fillLoot_sound rolled looters isUnder) h
  have honce : ∀ player slot, loot.grantsFor player slot ≤ 1 := fun player slot =>
    (hsound.once player slot).trans (Bool.toNat_le _)
  refine ⟨?_, ?_, hsound.entitled, ?_⟩
  · intro slot hffa
    have hfor := honce 0 slot
    simpa only [Loot.grantsFor, hffa, Bool.false_eq_true, if_false] using hfor
  · intro player slot
    have hfor := honce player slot
    simp only [Loot.grantsFor] at hfor
    split at hfor
    · exact hfor
    · refine le_trans ?_ hfor
      refine List.countP_mono_left fun grant _ hgrant => ?_
      rw [eq_of_beq hgrant]
      exact decide_eq_true rfl
  · rw [hsound.counts, Nat.add_zero, UInt8.toNat_ofNat']
    exact ⟨fun heq => heq ▸ Nat.mod_lt _ (by decide), Nat.mod_eq_of_lt⟩

def leader : Looter := { guid := 1 }

def member : Looter := { guid := 2 }

def threeItems : List LootStoreItem :=
  [⟨100, 0, false, false, 1⟩, ⟨200, 0, false, true, 1⟩, ⟨300, 0, true, false, 1⟩]

def grantedEvents : List LootEvent :=
  [.groupLoot fun slot => slot = 0, .countTheRoll 0 (.won 2 true true),
    .autostore member 1 false true true, .autostore leader 1 false true true,
    .autostore leader 1 false true true, .autostore member 2 false true true,
    .autostore leader 2 false true true]

theorem looted_once_in_group :
    let loot :=
      Lib.run Loot.step (fillLoot threeItems [leader, member] fun _ => false) grantedEvents
    loot.grants = [⟨2, .item 0⟩, ⟨2, .item 1⟩, ⟨1, .item 1⟩, ⟨2, .questItem 0⟩] ∧
      ∀ player slot, loot.grants.count ⟨player, slot⟩ ≤ 1 := by
  have hcovered : Lib.Along Loot.step Covered
      (fillLoot threeItems [leader, member] fun _ => false) grantedEvents := by
    refine ⟨trivial, ?_, ?_, ?_, ?_, ?_, ?_, trivial⟩ <;>
      · simp only [Covered]
        decide +kernel
  exact ⟨by decide +kernel,
    (looted_once threeItems [leader, member] (fun _ => false) grantedEvents hcovered).2.1⟩

/-- A member of the group who was too far away when the creature died opens the corpse later:
he has no entry for the item that is free for all, and loots it as often as he asks. -/
theorem looted_without_entry :
    let loot := Lib.run Loot.step
      (fillLoot [⟨200, 0, false, true, 1⟩] [leader] fun _ => false)
      [.autostore member 0 false true true, .autostore member 0 false true true]
    loot.grants.count ⟨2, .item 0⟩ = 2 ∧ loot.entitles 2 (.item 0) = false ∧
      loot.possible = 1 ∧ loot.unlootedCount = 255 := by
  decide +kernel

end Runs

end Loot

end TortoiseWow.Looting
