import TortoiseWow.Loot.EntryLists
import TortoiseWow.Loot.LootView

/-!
Whether the loot window shows as allowed what the handler of autostore requests grants. Both
ask slot by slot, so the agreement is one condition for each kind of slot. What a slot shows
and what it grants is said first, for a loot whose lists are as they are filled.
-/

namespace TortoiseWow.Looting

open Loot (EntriesFit entryOf Found entryOf_eq_some entryOf_of_mem fillLoot leader member)

namespace LootPacket

variable {α : Type}

theorem writeEach_records (record : α → Option SlotRecord) (elements : List α)
    (packet : LootPacket) : (packet.writeEach record elements).records =
      packet.records ++ elements.filterMap record := by
  induction elements generalizing packet with
  | nil => simp [writeEach]
  | cons element elements ih =>
      rw [writeEach, List.foldl_cons]
      cases h : record element with
      | none => rw [List.filterMap_cons_none h]; exact ih packet
      | some value =>
          rw [List.filterMap_cons_some h]
          exact (ih (packet.write value)).trans (by simp [write])

def Counted (packet : LootPacket) : Prop :=
  packet.itemsShown = UInt8.ofNat packet.records.length

theorem Counted.writeEach {packet : LootPacket} (h : packet.Counted)
    (record : α → Option SlotRecord) (elements : List α) :
    (packet.writeEach record elements).Counted := by
  induction elements generalizing packet with
  | nil => exact h
  | cons element elements ih =>
      rw [LootPacket.writeEach, List.foldl_cons]
      cases record element with
      | none => exact ih h
      | some value =>
          refine ih ?_
          simp only [Counted, write, List.length_append, List.length_singleton]
          rw [h, UInt8.ofNat_add]
          rfl

end LootPacket

namespace LootView

variable {view : LootView}

def sharedRecords (view : LootView) : List SlotRecord :=
  (List.range view.loot.items.length).filterMap view.sharedRecord

def questRecords (view : LootView) : List SlotRecord :=
  (view.entries view.loot.playerQuestItems).zipIdx.filterMap view.questRecord

def ffaRecords (view : LootView) : List SlotRecord :=
  (view.entries view.loot.playerFFAItems).filterMap view.ffaRecord

def conditionalRecords (view : LootView) : List SlotRecord :=
  (view.entries view.loot.playerConditionalItems).filterMap view.conditionalRecord

theorem packet_records (h : view.permission ≠ .none) : view.packet.records =
    view.sharedRecords ++ view.questRecords ++ view.ffaRecords ++ view.conditionalRecords := by
  simp only [packet, if_neg h, LootPacket.writeEach_records]
  rfl

theorem packet_counted : view.packet.Counted := by
  unfold packet
  split
  · rfl
  · have hempty : LootPacket.Counted { gold := view.gold } := rfl
    exact (((hempty.writeEach _ _).writeEach _ _).writeEach _ _).writeEach _ _

def Has (records : List SlotRecord) (slot : UInt8) (slotType : LootSlotType) : Prop :=
  ∃ record ∈ records, record.slot = slot ∧ record.slotType = slotType

theorem mem_entries (map : QuestItemMap) (entry : QuestItem) :
    entry ∈ view.entries map ↔ ∃ ql, map.find? view.viewer.guid = some ql ∧ entry ∈ ql := by
  unfold entries
  cases map.find? view.viewer.guid <;> simp

theorem mem_entries_iff {map : QuestItemMap} {p : Nat → Bool} (h : EntriesFit map p)
    (entry : QuestItem) : entry ∈ view.entries map ↔
      entryOf map view.viewer.guid entry.index = some entry := by
  rw [mem_entries]
  constructor
  · rintro ⟨ql, hql, hentry⟩
    exact entryOf_of_mem h hql hentry
  · intro hentry
    obtain ⟨ql, hql, hmem, -⟩ := entryOf_eq_some hentry
    exact ⟨ql, hql, hmem⟩

/-- The item can be taken by the viewer as far as its state and its conditions go. -/
def Open (view : LootView) (item : LootItem) : Prop :=
  item.isLooted = false ∧ item.freeforall = false ∧ item.allowedForPlayer view.viewer = true

def OpenEntry (view : LootView) (i : Nat) : Prop :=
  ∃ entry, entryOf view.loot.playerConditionalItems view.viewer.guid i = some entry ∧
    entry.isLooted = false ∧ view.isTurnFor view.loot.playerConditionalItems = true

/-- The type that the loop over the conditional list gives to an open item. -/
def entrySlotType (view : LootView) (item : LootItem) : Option LootSlotType :=
  match view.permission with
  | .group => some (if item.isBlocked ∨ item.isUnderthreshold then .allowLoot else .rollOngoing)
  | .all | .owner => some .allowLoot
  | .master => some (if item.isUnderthreshold = false then .master else .allowLoot)
  | .roundRobin | .none => none

theorem getSlotTypeForSharedLoot_iff {item : LootItem} (hcond : item.conditionId ≠ 0)
    (isLooted : Bool) (slotType : LootSlotType) :
    item.getSlotTypeForSharedLoot view.permission view.viewer (!isLooted) = some slotType ↔
      view.Open item ∧ isLooted = false ∧ view.entrySlotType item = some slotType := by
  unfold LootItem.getSlotTypeForSharedLoot
  split
  · next hclosed =>
      refine ⟨nofun, ?_⟩
      rintro ⟨⟨hlooted, hfree, hallowed⟩, hentry, -⟩
      simp [hlooted, hfree, hallowed, hentry] at hclosed
  · next hopen =>
      simp only [not_or, not_and, Bool.not_eq_true, Bool.not_eq_false'] at hopen
      have hparts : view.Open item ∧ isLooted = false :=
        ⟨⟨hopen.1, hopen.2.1, by simpa using hopen.2.2.2⟩, by simpa using hopen.2.2.1 hcond⟩
      rw [← and_assoc, and_iff_right hparts]
      rfl

section Slots

variable (h : Listed view.loot)
include h

theorem index_lt {i : Nat} {item : LootItem} (hitem : view.loot.items[i]? = some item) :
    i < 256 := by
  have hlt := (List.getElem?_eq_some_iff.mp hitem).1
  have hmax := h.items
  unfold maxNrLootItems at hmax
  omega

theorem quest_slot_lt {pos : Nat} {entry : QuestItem}
    (hentry : (view.entries view.loot.playerQuestItems)[pos]? = some entry) :
    view.loot.items.length + pos < 256 := by
  have hlt := (List.getElem?_eq_some_iff.mp hentry).1
  obtain ⟨ql, hql, -⟩ := (mem_entries _ entry).mp (List.mem_of_getElem? hentry)
  have hmax := (h.quest _ ql hql).1
  simp only [entries, hql, Option.getD_some] at hlt
  unfold maxNrLootItems at hmax
  omega

theorem has_sharedRecords (slot : UInt8) (slotType : LootSlotType) :
    Has view.sharedRecords slot slotType ↔ ∃ item, view.loot.items[slot.toNat]? = some item ∧
      view.Open item ∧ view.sharedSlotType item = some slotType := by
  simp only [Has, sharedRecords, List.mem_filterMap, sharedRecord, Option.bind_eq_some_iff]
  constructor
  · rintro ⟨record, ⟨i, -, item, hitem, hrecord⟩, rfl, rfl⟩
    split at hrecord
    · next hopen =>
        obtain ⟨slotType, htype, rfl⟩ := Option.map_eq_some_iff.mp hrecord
        rw [UInt8.toNat_ofNat_of_lt' (index_lt h hitem)]
        exact ⟨item, hitem, hopen, htype⟩
    · cases hrecord
  · rintro ⟨item, hitem, hopen, htype⟩
    refine ⟨⟨slot, item, slotType⟩, ⟨slot.toNat, ?_, item, hitem, ?_⟩, rfl, rfl⟩
    · exact List.mem_range.mpr (List.getElem?_eq_some_iff.mp hitem).1
    · unfold Open at hopen
      rw [if_pos hopen, htype, UInt8.ofNat_toNat]
      rfl

theorem has_ffaRecords (slot : UInt8) (slotType : LootSlotType) :
    Has view.ffaRecords slot slotType ↔ slotType = .allowLoot ∧ ∃ entry item,
      entryOf view.loot.playerFFAItems view.viewer.guid slot.toNat = some entry ∧
        view.loot.items[slot.toNat]? = some item ∧ entry.isLooted = false ∧
          item.isLooted = false := by
  simp only [Has, ffaRecords, List.mem_filterMap, ffaRecord, Option.bind_eq_some_iff]
  constructor
  · rintro ⟨record, ⟨entry, hentry, item, hitem, hrecord⟩, rfl, rfl⟩
    split at hrecord
    · next hopen =>
        cases hrecord
        rw [UInt8.toNat_ofNat_of_lt' (index_lt h hitem)]
        exact ⟨rfl, entry, item, (mem_entries_iff h.ffa entry).mp hentry, hitem, hopen⟩
    · cases hrecord
  · rintro ⟨rfl, entry, item, hentry, hitem, hopen⟩
    have hindex : entry.index = slot.toNat := (entryOf_eq_some hentry).choose_spec.2.2.1
    rw [← hindex] at hentry hitem
    refine ⟨⟨slot, item, .allowLoot⟩, ⟨entry, (mem_entries_iff h.ffa entry).mpr hentry, item, hitem,
      ?_⟩, rfl, rfl⟩
    rw [if_pos hopen, hindex, UInt8.ofNat_toNat]

theorem conditional_item {entry : QuestItem} {i : Nat}
    (hentry : entryOf view.loot.playerConditionalItems view.viewer.guid i = some entry)
    {item : LootItem} (hitem : view.loot.items[i]? = some item) :
    item.freeforall = false ∧ item.conditionId ≠ 0 := by
  obtain ⟨ql, hql, hmem, hindex, -⟩ := entryOf_eq_some hentry
  have hkind := (h.conditional _ ql hql).2 entry hmem
  simpa [hindex, hitem] using hkind

theorem has_conditionalRecords (slot : UInt8) (slotType : LootSlotType) :
    Has view.conditionalRecords slot slotType ↔ ∃ item,
      view.loot.items[slot.toNat]? = some item ∧ view.Open item ∧ view.OpenEntry slot.toNat ∧
        view.entrySlotType item = some slotType := by
  simp only [Has, conditionalRecords, List.mem_filterMap, conditionalRecord,
    Option.bind_eq_some_iff]
  constructor
  · rintro ⟨record, ⟨entry, hentry, item, hitem, type, htype, hrecord⟩, rfl, rfl⟩
    rw [mem_entries_iff h.conditional] at hentry
    have hitemKind := conditional_item h hentry hitem
    obtain ⟨hopen, hlooted, hslotType⟩ := (getSlotTypeForSharedLoot_iff hitemKind.2 _ _).mp htype
    split at hrecord
    · cases hrecord
    · next hturn =>
        cases hrecord
        rw [UInt8.toNat_ofNat_of_lt' (index_lt h hitem)]
        refine ⟨item, hitem, hopen, ⟨entry, hentry, hlooted, ?_⟩, hslotType⟩
        simpa [hitemKind.1] using hturn
  · rintro ⟨item, hitem, hopen, ⟨entry, hentry, hlooted, hturn⟩, htype⟩
    have hindex : entry.index = slot.toNat := (entryOf_eq_some hentry).choose_spec.2.2.1
    have hitemKind := conditional_item h hentry hitem
    rw [← hindex] at hentry hitem
    refine ⟨⟨slot, item, slotType⟩, ⟨entry, (mem_entries_iff h.conditional entry).mpr hentry, item,
      hitem, slotType, (getSlotTypeForSharedLoot_iff hitemKind.2 _ _).mpr
        ⟨hopen, hlooted, htype⟩, ?_⟩, rfl, rfl⟩
    rw [if_neg (by simp [hturn]), hindex, UInt8.ofNat_toNat]

theorem has_questRecords (slot : UInt8) (slotType : LootSlotType) :
    Has view.questRecords slot slotType ↔ slotType = .allowLoot ∧ ∃ pos entry item,
      slot.toNat = view.loot.items.length + pos ∧
        (view.entries view.loot.playerQuestItems)[pos]? = some entry ∧
          view.loot.questItems[entry.index]? = some item ∧ entry.isLooted = false ∧
            item.isLooted = false ∧
              (item.freeforall = true ∨ view.isTurnFor view.loot.playerQuestItems = true) := by
  simp only [Has, questRecords, List.mem_filterMap, questRecord, Option.bind_eq_some_iff]
  constructor
  · rintro ⟨record, ⟨⟨entry, pos⟩, hentry, item, hitem, hrecord⟩, rfl, rfl⟩
    rw [List.mk_mem_zipIdx_iff_getElem?] at hentry
    split at hrecord
    · cases hrecord
    · next hunlooted =>
        split at hrecord
        · cases hrecord
        · next hturn =>
            cases hrecord
            rw [UInt8.toNat_ofNat_of_lt' (quest_slot_lt h hentry)]
            simp only [not_or, Bool.not_eq_true] at hunlooted
            refine ⟨rfl, pos, entry, item, rfl, hentry, hitem, hunlooted.1, hunlooted.2, ?_⟩
            by_contra hhidden
            simp only [not_or, Bool.not_eq_true] at hhidden
            exact hturn hhidden
  · rintro ⟨rfl, pos, entry, item, hslot, hentry, hitem, hlooted, hitemLooted, hturn⟩
    refine ⟨⟨slot, item, .allowLoot⟩, ⟨⟨entry, pos⟩, ?_, item, hitem, ?_⟩, rfl, rfl⟩
    · exact List.mk_mem_zipIdx_iff_getElem?.mpr hentry
    · rw [if_neg (by simp [hlooted, hitemLooted]), if_neg, ← hslot, UInt8.ofNat_toNat]
      rintro ⟨hfree, hnot⟩
      rcases hturn with hturn | hturn
      · exact nomatch hfree.symm.trans hturn
      · exact nomatch hnot.symm.trans hturn

end Slots

/-- The handler grants the slot to the viewer when his bags take the item. -/
def Grants (view : LootView) (isMasterLooted : Bool) (slot : UInt8) : Prop :=
  (view.loot.autostore view.viewer slot isMasterLooted true true).grants ≠ view.loot.grants

/-- What the handler asks of an item that is not of the quest list. -/
def Takeable (isMasterLooted : Bool) (item : LootItem) : Prop :=
  item.isBlocked = false ∧ (isMasterLooted = true → item.isUnderthreshold = true) ∧ item.count ≠ 0

theorem mark_grants (loot : Loot) (player : UInt32) (lootSlot : Nat) (found : Found)
    (item : LootItem) : (loot.mark player lootSlot found item).grants = loot.grants := by
  cases found <;> rfl

theorem grants_iff (isMasterLooted : Bool) (slot : UInt8) :
    view.Grants isMasterLooted slot ↔ ∃ found item,
      view.loot.lootItemInSlot slot.toNat view.viewer.guid = some (found, item) ∧
        item.allowedForPlayer view.viewer = true ∧
          (found.isQuest = false → item.isBlocked = false) ∧
            (isMasterLooted = true → found.isQuest = false → found ≠ .ffa →
              item.isUnderthreshold = true) ∧ item.count ≠ 0 := by
  unfold Grants Loot.autostore
  cases view.loot.lootItemInSlot slot.toNat view.viewer.guid with
  | none => simp
  | some pair =>
      obtain ⟨found, item⟩ := pair
      simp only [Option.some.injEq, Prod.mk.injEq, Bool.true_eq_false, if_false, false_or]
      constructor
      · intro hgrant
        refine ⟨found, item, ⟨rfl, rfl⟩, ?_⟩
        split_ifs at hgrant with hallowed hblocked hmaster hcount
        · exact absurd rfl hgrant
        · exact absurd rfl hgrant
        · exact absurd rfl hgrant
        · exact absurd rfl hgrant
        · refine ⟨by simpa using hallowed, ?_, ?_, hcount⟩
          · exact fun hquest => by simpa [hquest] using hblocked
          · exact fun hlooted hquest hffa => by simpa [hlooted, hquest, hffa] using hmaster
      · rintro ⟨found', item', ⟨rfl, rfl⟩, hallowed, hblocked, hmaster, hcount⟩
        rw [if_neg (by simp [hallowed]), if_neg, if_neg, if_neg hcount]
        · simp [mark_grants]
        · rintro ⟨hlooted, hover, hquest, hffa⟩
          exact nomatch hover.symm.trans (hmaster hlooted hquest hffa)
        · rintro ⟨hquest, hblock⟩
          exact nomatch (hblocked hquest).symm.trans hblock

section Cases

variable {isMasterLooted : Bool} {slot : UInt8} {item : LootItem}

theorem grants_shared (h : Listed view.loot) (hitem : view.loot.items[slot.toNat]? = some item)
    (hfree : item.freeforall = false) : view.Grants isMasterLooted slot ↔
      view.Open item ∧ Takeable isMasterLooted item ∧ ∀ entry,
        entryOf view.loot.playerConditionalItems view.viewer.guid slot.toNat = some entry →
          entry.isLooted = false := by
  rw [grants_iff]
  simp only [Loot.lootItemInSlot, hitem, hfree, Bool.false_eq_true, if_false]
  by_cases hlooted : item.isLooted = true
  · simp [hlooted, Open]
  · cases hentry : entryOf view.loot.playerConditionalItems view.viewer.guid slot.toNat with
    | none => simp [hlooted, hfree, Found.isQuest, Open, Takeable]
    | some entry =>
        have hcond := (conditional_item h hentry hitem).2
        by_cases hentryLooted : entry.isLooted = true
        · simp [hlooted, hcond, hentryLooted]
        · simp [hlooted, hfree, hcond, hentryLooted, Found.isQuest, Open, Takeable]

theorem grants_ffa_listed {entry : QuestItem}
    (hitem : view.loot.items[slot.toNat]? = some item) (hfree : item.freeforall = true)
    (hentry : entryOf view.loot.playerFFAItems view.viewer.guid slot.toNat = some entry) :
    view.Grants isMasterLooted slot ↔ entry.isLooted = false ∧
      item.allowedForPlayer view.viewer = true ∧ item.isBlocked = false ∧ item.count ≠ 0 := by
  rw [grants_iff]
  simp only [Loot.lootItemInSlot, hitem, hfree, if_true, hentry]
  by_cases hlooted : entry.isLooted = true
  · simp [hlooted]
  · simp [hlooted, Found.isQuest]

theorem grants_ffa_unlisted (hitem : view.loot.items[slot.toNat]? = some item)
    (hfree : item.freeforall = true)
    (hentry : entryOf view.loot.playerFFAItems view.viewer.guid slot.toNat = none) :
    view.Grants isMasterLooted slot ↔ item.isLooted = false ∧
      item.allowedForPlayer view.viewer = true ∧ Takeable isMasterLooted item := by
  rw [grants_iff]
  simp only [Loot.lootItemInSlot, hitem, hfree, if_true, hentry]
  by_cases hlooted : item.isLooted = true
  · simp [hlooted]
  · simp [hlooted, Found.isQuest, Takeable]

theorem grants_quest (hitem : view.loot.items[slot.toNat]? = none) :
    view.Grants isMasterLooted slot ↔ ∃ pos entry item,
      slot.toNat = view.loot.items.length + pos ∧
        (view.entries view.loot.playerQuestItems)[pos]? = some entry ∧
          view.loot.questItems[entry.index]? = some item ∧ entry.isLooted = false ∧
            item.isLooted = false ∧ item.allowedForPlayer view.viewer = true ∧
              item.count ≠ 0 := by
  have hle := List.getElem?_eq_none_iff.mp hitem
  have hentries : ∀ pos : Nat, (view.loot.playerQuestItems.find? view.viewer.guid).bind (·[pos]?) =
      (view.entries view.loot.playerQuestItems)[pos]? := by
    intro pos
    unfold entries
    cases view.loot.playerQuestItems.find? view.viewer.guid <;> simp
  rw [grants_iff]
  simp only [Loot.lootItemInSlot, hitem, hentries]
  constructor
  · rintro ⟨found, other, hfound, hallowed, -, -, hcount⟩
    cases hentry : (view.entries view.loot.playerQuestItems)[
        slot.toNat - view.loot.items.length]? with
    | none => simp [hentry] at hfound
    | some entry =>
        cases hquest : view.loot.questItems[entry.index]? with
        | none => simp [hentry, hquest] at hfound
        | some item =>
            simp only [hentry, hquest] at hfound
            split at hfound
            · cases hfound
            · next hunlooted =>
                cases hfound
                simp only [not_or, Bool.not_eq_true] at hunlooted
                exact ⟨_, entry, other, (Nat.add_sub_of_le hle).symm, hentry, hquest, hunlooted.2,
                  hunlooted.1, hallowed, hcount⟩
  · rintro ⟨pos, entry, item, hslot, hentry, hquest, hlooted, hitemLooted, hallowed, hcount⟩
    have hpos : slot.toNat - view.loot.items.length = pos := by omega
    refine ⟨.quest pos entry.index, item, ?_, hallowed, ?_, ?_, hcount⟩
    · simp [hpos, hentry, hquest, hlooted, hitemLooted]
    · intro hshared
      cases hshared
    · intro _ hshared
      cases hshared

def SharedWrites (view : LootView) (item : LootItem) : Prop :=
  match view.permission with
  | .group => item.isBlocked = true ∨ item.isUnderthreshold = false ∨ view.isTurn = true
  | .roundRobin => view.isTurn = true
  | .all | .owner | .master => True
  | .none => False

def SharedAllows (view : LootView) (item : LootItem) : Prop :=
  match view.permission with
  | .group => item.isBlocked = false ∧ (item.isUnderthreshold = false ∨ view.isTurn = true)
  | .roundRobin => view.isTurn = true
  | .all | .owner => True
  | .master | .none => False

/-- The loop over the conditional list writes items at all. -/
def EntryWrites (view : LootView) : Prop :=
  match view.permission with
  | .group | .all | .owner | .master => True
  | .roundRobin | .none => False

def EntryAllows (view : LootView) (item : LootItem) : Prop :=
  match view.permission with
  | .group => item.isBlocked = true ∨ item.isUnderthreshold = true
  | .all | .owner => True
  | .master => item.isUnderthreshold = true
  | .roundRobin | .none => False

theorem sharedSlotType_isSome : (view.sharedSlotType item).isSome ↔ view.SharedWrites item := by
  unfold sharedSlotType SharedWrites
  cases view.permission <;>
    cases item.isBlocked <;> cases item.isUnderthreshold <;> cases view.isTurn <;> simp

theorem sharedSlotType_allow :
    view.sharedSlotType item = some .allowLoot ↔ view.SharedAllows item := by
  unfold sharedSlotType SharedAllows
  cases view.permission <;>
    cases item.isBlocked <;> cases item.isUnderthreshold <;> cases view.isTurn <;> simp

theorem entrySlotType_isSome : (view.entrySlotType item).isSome ↔ view.EntryWrites := by
  unfold entrySlotType EntryWrites
  cases view.permission <;> simp

theorem entrySlotType_allow :
    view.entrySlotType item = some .allowLoot ↔ view.EntryAllows item := by
  unfold entrySlotType EntryAllows
  cases view.permission <;> cases item.isBlocked <;> cases item.isUnderthreshold <;> simp

theorem has_append {records records' : List SlotRecord} {slotType : LootSlotType} :
    Has (records ++ records') slot slotType ↔ Has records slot slotType ∨
      Has records' slot slotType := by
  simp only [Has, List.mem_append, or_and_right, exists_or]

theorem has_packet (slotType : LootSlotType) : Has view.packet.records slot slotType ↔
    view.permission ≠ .none ∧ (((Has view.sharedRecords slot slotType ∨
      Has view.questRecords slot slotType) ∨ Has view.ffaRecords slot slotType) ∨
        Has view.conditionalRecords slot slotType) := by
  by_cases hnone : view.permission = .none
  · simp [packet, hnone, Has]
  · simp only [packet_records hnone, has_append, ne_eq, hnone, not_false_iff, true_and]

theorem not_has_quest (h : Listed view.loot) (hitem : view.loot.items[slot.toNat]? = some item)
    (slotType : LootSlotType) : ¬ Has view.questRecords slot slotType := by
  rw [has_questRecords h]
  rintro ⟨-, pos, -, -, hslot, -⟩
  have hlt := (List.getElem?_eq_some_iff.mp hitem).1
  omega

theorem ffa_item (h : Listed view.loot) {entry : QuestItem} {i : Nat}
    (hitem : view.loot.items[i]? = some item)
    (hentry : entryOf view.loot.playerFFAItems view.viewer.guid i = some entry) :
    item.freeforall = true := by
  obtain ⟨ql, hql, hmem, hindex, -⟩ := entryOf_eq_some hentry
  have hkind := (h.ffa _ ql hql).2 entry hmem
  simpa [hindex, hitem] using hkind

theorem not_has_ffa (h : Listed view.loot) (hitem : view.loot.items[slot.toNat]? = some item)
    (hfree : item.freeforall = false) (slotType : LootSlotType) :
    ¬ Has view.ffaRecords slot slotType := by
  rw [has_ffaRecords h]
  rintro ⟨-, entry, other, hentry, hother, -⟩
  exact nomatch (ffa_item h hitem hentry).symm.trans hfree

theorem not_has_shared (h : Listed view.loot) (hitem : view.loot.items[slot.toNat]? = some item)
    (hfree : item.freeforall = true) (slotType : LootSlotType) :
    ¬ Has view.sharedRecords slot slotType ∧ ¬ Has view.conditionalRecords slot slotType := by
  have hclosed : ∀ other, view.loot.items[slot.toNat]? = some other → ¬ view.Open other := by
    intro other hother hopen
    rw [hitem] at hother
    cases hother
    exact nomatch hopen.2.1.symm.trans hfree
  rw [has_sharedRecords h, has_conditionalRecords h]
  constructor
  · rintro ⟨other, hother, hopen, -⟩
    exact hclosed other hother hopen
  · rintro ⟨other, hother, hopen, -⟩
    exact hclosed other hother hopen

theorem SharedAllows.permission (h : view.SharedAllows item) : view.permission ≠ .none := by
  intro hnone
  simp [SharedAllows, hnone] at h

theorem EntryAllows.permission (h : view.EntryAllows item) : view.permission ≠ .none := by
  intro hnone
  simp [EntryAllows, hnone] at h

theorem shown_shared (h : Listed view.loot) (hitem : view.loot.items[slot.toNat]? = some item)
    (hfree : item.freeforall = false) : Has view.packet.records slot .allowLoot ↔
      view.Open item ∧ (view.SharedAllows item ∨
        view.OpenEntry slot.toNat ∧ view.EntryAllows item) := by
  simp only [has_packet, not_has_quest h hitem, not_has_ffa h hitem hfree, or_false]
  rw [has_sharedRecords h, has_conditionalRecords h]
  simp only [hitem, Option.some.injEq, ↓existsAndEq, true_and, sharedSlotType_allow,
    entrySlotType_allow, ← and_or_left]
  refine and_iff_right_of_imp ?_
  rintro ⟨-, hallows | ⟨-, hallows⟩⟩
  · exact hallows.permission
  · exact hallows.permission

theorem shown_ffa (h : Listed view.loot) (hitem : view.loot.items[slot.toNat]? = some item)
    (hfree : item.freeforall = true) : Has view.packet.records slot .allowLoot ↔
      view.permission ≠ .none ∧ ∃ entry,
        entryOf view.loot.playerFFAItems view.viewer.guid slot.toNat = some entry ∧
          entry.isLooted = false ∧ item.isLooted = false := by
  have hshared := not_has_shared h hitem hfree .allowLoot
  simp only [has_packet, not_has_quest h hitem, hshared.1, hshared.2, or_false, false_or]
  rw [has_ffaRecords h]
  simp [hitem]

theorem shown_quest (h : Listed view.loot) (hitem : view.loot.items[slot.toNat]? = none) :
    Has view.packet.records slot .allowLoot ↔ view.permission ≠ .none ∧ ∃ pos entry item,
      slot.toNat = view.loot.items.length + pos ∧
        (view.entries view.loot.playerQuestItems)[pos]? = some entry ∧
          view.loot.questItems[entry.index]? = some item ∧ entry.isLooted = false ∧
            item.isLooted = false ∧
              (item.freeforall = true ∨ view.isTurnFor view.loot.playerQuestItems = true) := by
  rw [has_packet, has_sharedRecords h, has_questRecords h, has_ffaRecords h,
    has_conditionalRecords h]
  simp [hitem]

theorem quest_slot (h : Listed view.loot) {pos : Nat} {entry : QuestItem}
    (hentry : (view.entries view.loot.playerQuestItems)[pos]? = some entry) :
    ∃ slot : UInt8, slot.toNat = view.loot.items.length + pos ∧
      view.loot.items[slot.toNat]? = none := by
  refine ⟨UInt8.ofNat (view.loot.items.length + pos), ?_⟩
  have hslot := UInt8.toNat_ofNat_of_lt' (quest_slot_lt h hentry)
  rw [hslot]
  exact ⟨rfl, List.getElem?_eq_none (Nat.le_add_right _ _)⟩

theorem shown_quest_at (h : Listed view.loot) {pos : Nat} {entry : QuestItem}
    (hslot : slot.toNat = view.loot.items.length + pos)
    (hentry : (view.entries view.loot.playerQuestItems)[pos]? = some entry)
    (hquest : view.loot.questItems[entry.index]? = some item) :
    Has view.packet.records slot .allowLoot ↔ view.permission ≠ .none ∧
      entry.isLooted = false ∧ item.isLooted = false ∧
        (item.freeforall = true ∨ view.isTurnFor view.loot.playerQuestItems = true) := by
  rw [shown_quest h (by rw [hslot]; exact List.getElem?_eq_none (Nat.le_add_right _ _)), hslot]
  simp [hentry, hquest]

theorem grants_quest_at {pos : Nat} {entry : QuestItem}
    (hslot : slot.toNat = view.loot.items.length + pos)
    (hentry : (view.entries view.loot.playerQuestItems)[pos]? = some entry)
    (hquest : view.loot.questItems[entry.index]? = some item) :
    view.Grants isMasterLooted slot ↔ entry.isLooted = false ∧ item.isLooted = false ∧
      item.allowedForPlayer view.viewer = true ∧ item.count ≠ 0 := by
  rw [grants_quest (by rw [hslot]; exact List.getElem?_eq_none (Nat.le_add_right _ _)), hslot]
  simp [hentry, hquest]

end Cases

/-- The packet counts its records, writes no slot twice, and shows as allowed exactly the slots
that the handler grants to the viewer. -/
structure Agrees (view : LootView) (isMasterLooted : Bool) : Prop where
  count : view.packet.itemsShown.toNat = view.packet.records.length
  once : (view.packet.records.map (·.slot)).Nodup
  granted : ∀ record ∈ view.packet.records, record.slotType = .allowLoot →
    view.Grants isMasterLooted record.slot
  shown : ∀ slot, view.Grants isMasterLooted slot →
    ∃ record ∈ view.packet.records, record.slot = slot ∧ record.slotType = .allowLoot

/-- When the window and the handler agree. The loop over the shared items writes no item that
the conditional list writes too (`once`), and for each kind of item that nobody has taken yet
the permission shows what the handler grants. -/
structure Matches (view : LootView) (isMasterLooted : Bool) : Prop where
  once : ∀ i item, view.loot.items[i]? = some item → view.Open item → view.OpenEntry i →
    view.EntryWrites → ¬ view.SharedWrites item
  shared : ∀ i item, view.loot.items[i]? = some item → view.Open item →
    ((view.SharedAllows item ∨ view.OpenEntry i ∧ view.EntryAllows item) ↔
      Takeable isMasterLooted item ∧ ∀ entry,
        entryOf view.loot.playerConditionalItems view.viewer.guid i = some entry →
          entry.isLooted = false)
  ffaListed : ∀ i item entry, view.loot.items[i]? = some item →
    entryOf view.loot.playerFFAItems view.viewer.guid i = some entry → entry.isLooted = false →
      (view.permission ≠ .none ∧ item.isLooted = false ↔
        item.allowedForPlayer view.viewer = true ∧ item.isBlocked = false ∧ item.count ≠ 0)
  ffaUnlisted : ∀ i item, view.loot.items[i]? = some item → item.freeforall = true →
    entryOf view.loot.playerFFAItems view.viewer.guid i = none → item.isLooted = false →
      item.allowedForPlayer view.viewer = true → ¬ Takeable isMasterLooted item
  quest : ∀ entry ∈ view.entries view.loot.playerQuestItems, ∀ item,
    view.loot.questItems[entry.index]? = some item → entry.isLooted = false →
      item.isLooted = false →
        (view.permission ≠ .none ∧
            (item.freeforall = true ∨ view.isTurnFor view.loot.playerQuestItems = true) ↔
          item.allowedForPlayer view.viewer = true ∧ item.count ≠ 0)

section Agreement

variable {isMasterLooted : Bool} (h : Listed view.loot)
include h

theorem exists_slot {i : Nat} {item : LootItem} (hitem : view.loot.items[i]? = some item) :
    ∃ slot : UInt8, slot.toNat = i :=
  ⟨UInt8.ofNat i, UInt8.toNat_ofNat_of_lt' (index_lt h hitem)⟩

theorem shown_iff_grants (hmatches : view.Matches isMasterLooted) (slot : UInt8) :
    Has view.packet.records slot .allowLoot ↔ view.Grants isMasterLooted slot := by
  cases hitem : view.loot.items[slot.toNat]? with
  | some item =>
      cases hfree : item.freeforall with
      | false =>
          rw [shown_shared h hitem hfree, grants_shared h hitem hfree]
          exact and_congr_right (hmatches.shared slot.toNat item hitem)
      | true =>
          rw [shown_ffa h hitem hfree]
          cases hentry : entryOf view.loot.playerFFAItems view.viewer.guid slot.toNat with
          | none =>
              rw [grants_ffa_unlisted hitem hfree hentry]
              refine ⟨fun hshown => by simp at hshown, fun hgrants => ?_⟩
              exact absurd hgrants.2.2
                (hmatches.ffaUnlisted _ item hitem hfree hentry hgrants.1 hgrants.2.1)
          | some entry =>
              rw [grants_ffa_listed hitem hfree hentry]
              simp only [Option.some.injEq, ↓existsAndEq, true_and]
              rw [and_left_comm]
              exact and_congr_right fun hlooted =>
                hmatches.ffaListed slot.toNat item entry hitem hentry hlooted
  | none =>
      rw [shown_quest h hitem, grants_quest hitem]
      constructor
      · rintro ⟨hpermission, pos, entry, item, hslot, hentry, hquest, hlooted, hitemLooted, hturn⟩
        exact ⟨pos, entry, item, hslot, hentry, hquest, hlooted, hitemLooted,
          (hmatches.quest entry (List.mem_of_getElem? hentry) item hquest hlooted hitemLooted).mp
            ⟨hpermission, hturn⟩⟩
      · rintro ⟨pos, entry, item, hslot, hentry, hquest, hlooted, hitemLooted, hgranted⟩
        obtain ⟨hpermission, hturn⟩ :=
          (hmatches.quest entry (List.mem_of_getElem? hentry) item hquest hlooted hitemLooted).mpr
            hgranted
        exact ⟨hpermission, pos, entry, item, hslot, hentry, hquest, hlooted, hitemLooted, hturn⟩

theorem matches_of_slots
    (hslots : ∀ slot, Has view.packet.records slot .allowLoot ↔ view.Grants isMasterLooted slot)
    (honce : ∀ i item, view.loot.items[i]? = some item → view.Open item → view.OpenEntry i →
      view.EntryWrites → ¬ view.SharedWrites item) : view.Matches isMasterLooted := by
  refine ⟨honce, ?_, ?_, ?_, ?_⟩
  · intro i item hitem hopen
    obtain ⟨slot, rfl⟩ := exists_slot h hitem
    have hslot := hslots slot
    rw [shown_shared h hitem hopen.2.1, grants_shared h hitem hopen.2.1] at hslot
    simpa only [hopen, true_and] using hslot
  · intro i item entry hitem hentry hlooted
    obtain ⟨slot, rfl⟩ := exists_slot h hitem
    have hfree := ffa_item h hitem hentry
    have hslot := hslots slot
    rw [shown_ffa h hitem hfree, grants_ffa_listed hitem hfree hentry] at hslot
    simpa only [hentry, Option.some.injEq, ↓existsAndEq, hlooted, true_and] using hslot
  · intro i item hitem hfree hentry hlooted hallowed htakeable
    obtain ⟨slot, rfl⟩ := exists_slot h hitem
    have hslot := hslots slot
    rw [shown_ffa h hitem hfree, grants_ffa_unlisted hitem hfree hentry] at hslot
    obtain ⟨-, entry, hsome, -⟩ := hslot.mpr ⟨hlooted, hallowed, htakeable⟩
    exact nomatch hentry.symm.trans hsome
  · intro entry hmem item hquest hlooted hitemLooted
    obtain ⟨pos, hentry⟩ := List.mem_iff_getElem?.mp hmem
    obtain ⟨slot, hat, hnone⟩ := quest_slot h hentry
    have hslot := hslots slot
    rw [shown_quest_at h hat hentry hquest, grants_quest_at hat hentry hquest] at hslot
    simpa only [hlooted, hitemLooted, true_and] using hslot

omit h in
theorem mem_slots {records : List SlotRecord} {slot : UInt8} :
    slot ∈ records.map (·.slot) ↔ ∃ slotType, Has records slot slotType := by
  simp only [List.mem_map, Has]
  constructor
  · rintro ⟨record, hrecord, rfl⟩
    exact ⟨record.slotType, record, hrecord, rfl, rfl⟩
  · rintro ⟨slotType, record, hrecord, rfl, -⟩
    exact ⟨record, hrecord, rfl⟩

omit h in
theorem nodup_slots {α : Type} {record : α → Option SlotRecord} (number : α → Nat)
    (elements : List α) (hnodup : (elements.map number).Nodup)
    (hslot : ∀ element ∈ elements, ∀ value, record element = some value →
      value.slot.toNat = number element) : ((elements.filterMap record).map (·.slot)).Nodup := by
  induction elements with
  | nil => simp
  | cons element elements ih =>
      rw [List.map_cons, List.nodup_cons] at hnodup
      have hrest := ih hnodup.2 fun other hother => hslot other (List.mem_cons_of_mem _ hother)
      cases hrecord : record element with
      | none => rwa [List.filterMap_cons_none hrecord]
      | some value =>
          rw [List.filterMap_cons_some hrecord, List.map_cons, List.nodup_cons]
          refine ⟨?_, hrest⟩
          intro hmem
          obtain ⟨other, hother, hsame⟩ := List.mem_map.mp hmem
          obtain ⟨source, hsource, hother⟩ := List.mem_filterMap.mp hother
          have hnumber : number source = number element := by
            rw [← hslot source (List.mem_cons_of_mem _ hsource) other hother, hsame,
              hslot element List.mem_cons_self value hrecord]
          exact hnodup.1 (hnumber ▸ List.mem_map_of_mem hsource)

theorem nodup_shared : (view.sharedRecords.map (·.slot)).Nodup := by
  refine nodup_slots id _ (by simpa using List.nodup_range) ?_
  intro i _ record hrecord
  obtain ⟨item, hitem, hrecord⟩ := Option.bind_eq_some_iff.mp hrecord
  split at hrecord
  · obtain ⟨slotType, -, rfl⟩ := Option.map_eq_some_iff.mp hrecord
    exact UInt8.toNat_ofNat_of_lt' (index_lt h hitem)
  · cases hrecord

theorem nodup_quest : (view.questRecords.map (·.slot)).Nodup := by
  refine nodup_slots (fun entry => view.loot.items.length + entry.2) _ ?_ ?_
  · rw [← Function.comp_def (view.loot.items.length + ·) Prod.snd, ← List.map_map,
      List.zipIdx_map_snd]
    exact List.Nodup.map (fun _ _ heq => Nat.add_left_cancel heq) List.nodup_range'
  · intro entry hentry record hrecord
    obtain ⟨item, -, hrecord⟩ := Option.bind_eq_some_iff.mp hrecord
    split at hrecord
    · cases hrecord
    · split at hrecord
      · cases hrecord
      · cases hrecord
        exact UInt8.toNat_ofNat_of_lt'
          (quest_slot_lt h (List.mk_mem_zipIdx_iff_getElem?.mp hentry))

omit h in
theorem nodup_entries {map : QuestItemMap} {p : Nat → Bool} (hfit : EntriesFit map p) :
    ((view.entries map).map (·.index)).Nodup := by
  unfold entries
  cases hql : map.find? view.viewer.guid with
  | none => simp
  | some ql => exact (hfit _ ql hql).1

theorem nodup_ffa : (view.ffaRecords.map (·.slot)).Nodup := by
  refine nodup_slots (·.index) _ (nodup_entries h.ffa) ?_
  intro entry _ record hrecord
  obtain ⟨item, hitem, hrecord⟩ := Option.bind_eq_some_iff.mp hrecord
  split at hrecord
  · cases hrecord
    exact UInt8.toNat_ofNat_of_lt' (index_lt h hitem)
  · cases hrecord

theorem nodup_conditional : (view.conditionalRecords.map (·.slot)).Nodup := by
  refine nodup_slots (·.index) _ (nodup_entries h.conditional) ?_
  intro entry _ record hrecord
  obtain ⟨item, hitem, hrecord⟩ := Option.bind_eq_some_iff.mp hrecord
  obtain ⟨slotType, -, hrecord⟩ := Option.bind_eq_some_iff.mp hrecord
  split at hrecord
  · cases hrecord
  · cases hrecord
    exact UInt8.toNat_ofNat_of_lt' (index_lt h hitem)

theorem nodup_packet_iff : (view.packet.records.map (·.slot)).Nodup ↔
    ∀ i item, view.loot.items[i]? = some item → view.Open item → view.OpenEntry i →
      view.EntryWrites → ¬ view.SharedWrites item := by
  by_cases hnone : view.permission = .none
  · simp [packet, hnone, EntryWrites]
  have hlists : ((view.sharedRecords ++ view.questRecords ++ view.ffaRecords).map
      (·.slot)).Nodup := by
    rw [List.map_append, List.map_append, List.nodup_append', List.nodup_append']
    refine ⟨⟨nodup_shared h, nodup_quest h, ?_⟩, nodup_ffa h, ?_⟩
    · intro slot hshared hquest
      obtain ⟨slotType, hshared⟩ := mem_slots.mp hshared
      obtain ⟨questType, hquest⟩ := mem_slots.mp hquest
      obtain ⟨item, hitem, -⟩ := (has_sharedRecords h slot slotType).mp hshared
      exact not_has_quest h hitem questType hquest
    · intro slot hslot hffa
      obtain ⟨ffaType, hffa⟩ := mem_slots.mp hffa
      obtain ⟨-, entry, item, hentry, hitem, -⟩ := (has_ffaRecords h slot ffaType).mp hffa
      have hfree := ffa_item h hitem hentry
      rcases List.mem_append.mp hslot with hslot | hslot
      · obtain ⟨slotType, hshared⟩ := mem_slots.mp hslot
        exact (not_has_shared h hitem hfree slotType).1 hshared
      · obtain ⟨slotType, hquest⟩ := mem_slots.mp hslot
        exact not_has_quest h hitem slotType hquest
  rw [packet_records hnone, List.map_append, List.nodup_append']
  rw [and_iff_right hlists, and_iff_right (nodup_conditional h)]
  constructor
  · intro hdisjoint i item hitem hopen hentry hwrites hshared
    obtain ⟨slot, rfl⟩ := exists_slot h hitem
    obtain ⟨slotType, htype⟩ := Option.isSome_iff_exists.mp (sharedSlotType_isSome.mpr hshared)
    obtain ⟨entryType, hentryType⟩ :=
      Option.isSome_iff_exists.mp ((@entrySlotType_isSome view item).mpr hwrites)
    refine hdisjoint (a := slot) ?_ (mem_slots.mpr ⟨entryType, ?_⟩)
    · rw [List.map_append, List.map_append, List.mem_append, List.mem_append]
      exact Or.inl (Or.inl (mem_slots.mpr ⟨slotType,
        (has_sharedRecords h slot slotType).mpr ⟨item, hitem, hopen, htype⟩⟩))
    · exact (has_conditionalRecords h slot entryType).mpr ⟨item, hitem, hopen, hentry, hentryType⟩
  · intro honce slot hslot hconditional
    obtain ⟨entryType, hconditional⟩ := mem_slots.mp hconditional
    obtain ⟨item, hitem, hopen, hentry, hentryType⟩ :=
      (has_conditionalRecords h slot entryType).mp hconditional
    rw [List.map_append, List.map_append, List.mem_append, List.mem_append] at hslot
    rcases hslot with (hslot | hslot) | hslot
    · obtain ⟨slotType, hshared⟩ := mem_slots.mp hslot
      obtain ⟨other, hother, -, htype⟩ := (has_sharedRecords h slot slotType).mp hshared
      rw [hitem] at hother
      cases hother
      exact honce slot.toNat item hitem hopen hentry
        (entrySlotType_isSome.mp (Option.isSome_of_eq_some hentryType))
        (sharedSlotType_isSome.mp (Option.isSome_of_eq_some htype))
    · obtain ⟨slotType, hquest⟩ := mem_slots.mp hslot
      exact not_has_quest h hitem slotType hquest
    · obtain ⟨slotType, hffa⟩ := mem_slots.mp hslot
      exact not_has_ffa h hitem hopen.2.1 slotType hffa

omit h in
theorem entries_length_le {map : QuestItemMap} {p : Nat → Bool} (hfit : EntriesFit map p)
    {n : Nat} (hp : ∀ i, p i = true → i < n) : (view.entries map).length ≤ n := by
  have hsub : (view.entries map).map (·.index) ⊆ List.range n := by
    intro i hi
    obtain ⟨entry, hentry, rfl⟩ := List.mem_map.mp hi
    obtain ⟨ql, hql, hmem⟩ := (mem_entries map entry).mp hentry
    exact List.mem_range.mpr (hp _ ((hfit _ ql hql).2 entry hmem))
  simpa using (List.subperm_of_subset (nodup_entries hfit) hsub).length_le

theorem packet_count : view.packet.itemsShown.toNat = view.packet.records.length := by
  have hlength : view.packet.records.length < 256 := by
    by_cases hnone : view.permission = .none
    · simp [packet, hnone]
    have hany : ∀ {p : LootItem → Bool} i, view.loot.items[i]?.any p = true →
        i < view.loot.items.length := by
      intro p i hi
      obtain ⟨item, hitem, -⟩ := (Option.any_eq_true _ _).mp hi
      exact (List.getElem?_eq_some_iff.mp hitem).1
    have hitems := h.items
    have hshared : view.sharedRecords.length ≤ view.loot.items.length :=
      (List.length_filterMap_le _ _).trans (by simp)
    have hffa : view.ffaRecords.length ≤ view.loot.items.length :=
      (List.length_filterMap_le _ _).trans (entries_length_le h.ffa hany)
    have hconditional : view.conditionalRecords.length ≤ view.loot.items.length :=
      (List.length_filterMap_le _ _).trans (entries_length_le h.conditional hany)
    have hquest : view.questRecords.length ≤ maxNrLootItems := by
      refine (List.length_filterMap_le _ _).trans ?_
      rw [List.length_zipIdx]
      unfold entries
      cases hql : view.loot.playerQuestItems.find? view.viewer.guid with
      | none => simp
      | some ql => exact (Nat.le_add_left _ _).trans (h.quest _ ql hql).1
    rw [packet_records hnone]
    simp only [List.length_append]
    unfold maxNrLootItems at hitems hquest
    omega
  rw [packet_counted, UInt8.toNat_ofNat_of_lt' hlength]

/-- The window and the handler agree exactly where the rules of the one and of the other come to
the same for each item. -/
theorem agrees_iff : view.Agrees isMasterLooted ↔ view.Matches isMasterLooted := by
  constructor
  · intro hagrees
    refine matches_of_slots h (fun slot => ⟨?_, hagrees.shown slot⟩)
      ((nodup_packet_iff h).mp hagrees.once)
    rintro ⟨record, hrecord, rfl, htype⟩
    exact hagrees.granted record hrecord htype
  · intro hmatches
    have hslots := shown_iff_grants h hmatches
    refine ⟨packet_count h, (nodup_packet_iff h).mpr hmatches.once, ?_, fun slot =>
      (hslots slot).mpr⟩
    intro record hrecord htype
    exact (hslots record.slot).mp ⟨record, hrecord, rfl, htype⟩

end Agreement

/-- An item over the threshold, one for everybody, one with a condition and under the threshold,
one that is rolled for, and a quest item, seen by a member whose turn it is not. The leader, whose
turn it is, meets no condition and has no quest. -/
def ordinary : LootView where
  loot := (fillLoot [⟨100, 0, false, false, 1⟩, ⟨101, 0, false, true, 1⟩, ⟨102, 5, false, false, 1⟩,
    ⟨103, 0, false, false, 1⟩, ⟨104, 0, true, false, 1⟩]
      [{ leader with isConditionSatisfied := fun _ => false, hasQuestForItem := fun _ => false },
        member] (· = 102)).groupLoot (· = 3)
  gold := 0
  roundRobinPlayer := 1
  viewer := member
  permission := .group

theorem ordinary_agrees : ordinary.Agrees false := by
  have hlisted : Listed ordinary.loot := (groupLoot_listed (fillLoot_listed _ _ _) _).listed
  have hlength : ordinary.loot.items.length = 4 := by decide +kernel
  have hcond : ∀ i, entryOf ordinary.loot.playerConditionalItems ordinary.viewer.guid i =
      if 2 = i then some ⟨2, false⟩ else none := by
    have hql : ordinary.loot.playerConditionalItems.find? ordinary.viewer.guid =
        some [⟨2, false⟩] := by decide +kernel
    intro i
    rw [entryOf, hql]
    by_cases h : 2 = i <;> simp [h]
  have hffa : ∀ i, entryOf ordinary.loot.playerFFAItems ordinary.viewer.guid i =
      if 1 = i then some ⟨1, false⟩ else none := by
    have hql : ordinary.loot.playerFFAItems.find? ordinary.viewer.guid =
        some [⟨1, false⟩] := by decide +kernel
    intro i
    rw [entryOf, hql]
    by_cases h : 1 = i <;> simp [h]
  have hquest : ordinary.entries ordinary.loot.playerQuestItems = [⟨0, false⟩] := by
    decide +kernel
  have hturn : ordinary.isTurnFor ordinary.loot.playerConditionalItems = true := by
    decide +kernel
  have hopen : ∀ i, ordinary.OpenEntry i ↔ i = 2 := by
    intro i
    unfold OpenEntry
    rw [hcond, hturn]
    by_cases h : i = 2
    · simp [h]
    · simp [h, Ne.symm h]
  have hitems : ∀ i < 4, ∀ item ∈ ordinary.loot.items[i]?,
      (item.isUnderthreshold = true ↔ i = 2) ∧ (item.isBlocked = true ↔ i = 3) ∧
        (item.freeforall = true ↔ i = 1) ∧ item.count ≠ 0 ∧ item.isLooted = false ∧
          item.allowedForPlayer ordinary.viewer = true := by decide +kernel
  have hslot : ∀ {i item}, ordinary.loot.items[i]? = some item →
      i < 4 ∧ (item.isUnderthreshold = true ↔ i = 2) ∧ (item.isBlocked = true ↔ i = 3) ∧
        (item.freeforall = true ↔ i = 1) ∧ item.count ≠ 0 ∧ item.isLooted = false ∧
          item.allowedForPlayer ordinary.viewer = true := by
    intro i item hitem
    have hlt := (List.getElem?_eq_some_iff.mp hitem).1
    rw [hlength] at hlt
    exact ⟨hlt, hitems i hlt item hitem⟩
  refine (agrees_iff hlisted).mpr ⟨?_, ?_, ?_, ?_, ?_⟩
  · rintro i item hitem - hentry - (hblocked | hover | hmine)
    · have hthird := (hslot hitem).2.2.1.mp hblocked
      exact absurd ((hopen i).mp hentry) (by omega)
    · rw [((hslot hitem).2.1.mpr ((hopen i).mp hentry))] at hover
      cases hover
    · exact absurd hmine (by decide)
  · intro i item hitem _
    obtain ⟨-, hunder, hblocked, -, hcount, -, -⟩ := hslot hitem
    have hunlooted : ∀ entry, entryOf ordinary.loot.playerConditionalItems ordinary.viewer.guid i =
        some entry → entry.isLooted = false := by
      intro entry hentry
      rw [hcond] at hentry
      split at hentry <;> cases hentry
      rfl
    constructor
    · rintro (⟨hfree, -⟩ | ⟨hentry, -⟩)
      · exact ⟨⟨hfree, nofun, hcount⟩, hunlooted⟩
      · have hfree : item.isBlocked = false := by
          rw [Bool.eq_false_iff, Ne, hblocked, (hopen i).mp hentry]
          decide
        exact ⟨⟨hfree, nofun, hcount⟩, hunlooted⟩
    · rintro ⟨⟨hfree, -, -⟩, -⟩
      cases hthreshold : item.isUnderthreshold with
      | false => exact Or.inl ⟨hfree, Or.inl hthreshold⟩
      | true => exact Or.inr ⟨(hopen i).mpr (hunder.mp hthreshold), Or.inr hthreshold⟩
  · intro i item entry hitem hentry _
    obtain ⟨-, -, hblocked, -, hcount, hlooted, hallowed⟩ := hslot hitem
    have hfirst : 1 = i := by
      rw [hffa] at hentry
      by_contra hother
      rw [if_neg hother] at hentry
      cases hentry
    have hfree : item.isBlocked = false := by
      rw [Bool.eq_false_iff, Ne, hblocked]
      omega
    exact ⟨fun _ => ⟨hallowed, hfree, hcount⟩, fun _ => ⟨nofun, hlooted⟩⟩
  · intro i item hitem hfree hentry
    rw [hffa, if_pos ((hslot hitem).2.2.2.1.mp hfree).symm] at hentry
    cases hentry
  · intro entry hentry item hitem _ _
    rw [hquest, List.mem_singleton] at hentry
    subst hentry
    have hallowed : ∀ item ∈ ordinary.loot.questItems[0]?,
        item.allowedForPlayer ordinary.viewer = true ∧ item.count ≠ 0 := by decide +kernel
    have hmine : ordinary.isTurnFor ordinary.loot.playerQuestItems = true := by decide +kernel
    exact ⟨fun _ => hallowed item hitem, fun _ => ⟨nofun, Or.inr hmine⟩⟩

/-- An item under the threshold, seen by the member of the group whose turn it is not. -/
def turnOfAnother : LootView where
  loot := fillLoot [⟨100, 0, false, false, 1⟩] [leader, member] fun _ => true
  gold := 0
  roundRobinPlayer := 1
  viewer := member
  permission := .group

def conditionMet : LootView where
  loot := fillLoot [⟨100, 5, false, false, 1⟩] [leader] fun _ => false
  gold := 0
  roundRobinPlayer := 0
  viewer := leader
  permission := .owner

/-- An item that is rolled for, seen after the group has made its loot free for all. -/
def rolledFor : LootView where
  loot := (fillLoot [⟨100, 0, false, false, 1⟩] [leader, member] fun _ => false).groupLoot
    fun _ => true
  gold := 0
  roundRobinPlayer := 0
  viewer := leader
  permission := .all

/-- An item is granted that is not shown, another is written twice, and a third is shown as
allowed and not granted. -/
theorem window_disagrees :
    (turnOfAnother.Grants false 0 ∧ turnOfAnother.packet.records = []) ∧
      (conditionMet.packet.records.map (·.slot) = [0, 0]) ∧
      (rolledFor.packet.records.map (·.slotType) = [.allowLoot] ∧ ¬ rolledFor.Grants false 0) ∧
      ¬ turnOfAnother.Agrees false ∧ ¬ conditionMet.Agrees false ∧ ¬ rolledFor.Agrees false := by
  have hgranted : turnOfAnother.Grants false 0 := by
    unfold Grants
    decide +kernel
  have hhidden : turnOfAnother.packet.records = [] := by decide +kernel
  have htwice : conditionMet.packet.records.map (·.slot) = [0, 0] := by decide +kernel
  have hshown : rolledFor.packet.records.map (fun record => (record.slot, record.slotType)) =
      [(0, .allowLoot)] := by decide +kernel
  have hrefused : ¬ rolledFor.Grants false 0 := by
    unfold Grants
    decide +kernel
  refine ⟨⟨hgranted, hhidden⟩, htwice, ⟨by decide +kernel, hrefused⟩, ?_, ?_, ?_⟩
  · intro hagrees
    obtain ⟨record, hrecord, -⟩ := hagrees.shown 0 hgranted
    rw [hhidden] at hrecord
    cases hrecord
  · intro hagrees
    have hnodup := hagrees.once
    rw [htwice] at hnodup
    exact absurd hnodup (by decide)
  · intro hagrees
    have hmem : ((0 : UInt8), LootSlotType.allowLoot) ∈
        rolledFor.packet.records.map (fun record => (record.slot, record.slotType)) := by
      rw [hshown]
      exact List.mem_singleton_self _
    obtain ⟨record, hrecord, heq⟩ := List.mem_map.mp hmem
    have hgrants := hagrees.granted record hrecord (congrArg Prod.snd heq)
    rw [show record.slot = 0 from congrArg Prod.fst heq] at hgrants
    exact hrefused hgrants

end LootView

end TortoiseWow.Looting
