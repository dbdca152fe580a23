import TortoiseWow.Loot.Grants

/-!
The lists of a loot in every run, whoever is granted what: each list is for items of its kind,
once each, and the window has a slot for every entry. The kind of an item never changes, and
no entry is added to a list after it is filled, so only the filling has to be looked at.
-/

namespace TortoiseWow.Looting

open Loot

structure Listed (loot : Loot) : Prop where
  items : loot.items.length ≤ maxNrLootItems
  quest : ∀ player ql, loot.playerQuestItems.find? player = some ql →
    loot.items.length + ql.length ≤ maxNrLootItems ∧
      ∀ entry ∈ ql, entry.index < loot.questItems.length
  ffa : EntriesFit loot.playerFFAItems fun i => loot.items[i]?.any (·.freeforall)
  conditional : EntriesFit loot.playerConditionalItems fun i =>
    loot.items[i]?.any fun item => !item.freeforall && item.conditionId ≠ 0

structure ListedOnce (loot : Loot) : Prop where
  items : loot.items.length ≤ maxNrLootItems
  room : ∀ player ql, loot.playerQuestItems.find? player = some ql →
    loot.items.length + ql.length ≤ maxNrLootItems
  quest : EntriesFit loot.playerQuestItems fun i => i < loot.questItems.length
  ffa : EntriesFit loot.playerFFAItems fun i => loot.items[i]?.any (·.freeforall)
  conditional : EntriesFit loot.playerConditionalItems fun i =>
    loot.items[i]?.any fun item => !item.freeforall && item.conditionId ≠ 0

theorem ListedOnce.listed {loot : Loot} (h : ListedOnce loot) : Listed loot := by
  refine ⟨h.items, fun player ql hql => ⟨h.room player ql hql, ?_⟩, h.ffa, h.conditional⟩
  exact fun entry hentry => of_decide_eq_true ((h.quest player ql hql).2 entry hentry)

def LootItem.kind (item : LootItem) : Bool × UInt16 := (item.freeforall, item.conditionId)

structure SameKinds (before after : Loot) : Prop where
  items : after.items.map (·.kind) = before.items.map (·.kind)
  questItems : after.questItems.length = before.questItems.length

/-- The players have the lists that they had, up to the marks of what is looted. -/
def SameLists (before after : QuestItemMap) : Prop :=
  ∀ player ql, after.find? player = some ql →
    ∃ old, before.find? player = some old ∧ ql.map (·.index) = old.map (·.index)

theorem SameLists.refl (map : QuestItemMap) : SameLists map map :=
  fun _ ql hql => ⟨ql, hql, rfl⟩

theorem sameLists_markEntry (map : QuestItemMap) (player : UInt32) (i : Nat) :
    SameLists map (markEntry map player i) := by
  intro other ql hql
  cases hfind : map.find? player with
  | none =>
      rw [markEntry_of_none hfind] at hql
      exact ⟨ql, hql, rfl⟩
  | some old =>
      rw [markEntry_of_some hfind] at hql
      by_cases hsame : other = player
      · subst hsame
        rw [Lib.OrderedMap.find?_assign_self] at hql
        cases hql
        refine ⟨old, hfind, ?_⟩
        rw [List.map_map]
        exact List.map_congr_left fun q _ => markItem_index i q
      · rw [Lib.OrderedMap.find?_assign_of_ne map hsame] at hql
        exact ⟨ql, hql, rfl⟩

section Same

variable {loot loot' : Loot}

theorem SameKinds.length (h : SameKinds loot loot') : loot'.items.length = loot.items.length := by
  have hlength := congrArg List.length h.items
  simpa using hlength

theorem SameKinds.any (h : SameKinds loot loot') {p : LootItem → Bool} {k : Bool × UInt16 → Bool}
    (hp : ∀ item, p item = k item.kind) (i : Nat) :
    loot'.items[i]?.any p = loot.items[i]?.any p := by
  have hkind : ∀ items : List LootItem,
      items[i]?.any p = (items.map (·.kind))[i]?.any k := by
    intro items
    rw [List.getElem?_map, Option.any_map]
    exact congrArg (Option.any · items[i]?) (funext hp)
  rw [hkind, hkind, h.items]

theorem SameKinds.conditional (h : SameKinds loot loot') (i : Nat) :
    (loot'.items[i]?.any fun item => !item.freeforall && item.conditionId ≠ 0) =
      loot.items[i]?.any fun item => !item.freeforall && item.conditionId ≠ 0 :=
  h.any (k := fun kind => !kind.1 && kind.2 ≠ 0) (fun _ => rfl) i

theorem Loot.EntriesFit.same {before after : QuestItemMap} {p p' : Nat → Bool}
    (h : EntriesFit before p) (hsame : SameLists before after) (hp : p' = p) :
    EntriesFit after p' := by
  intro player ql hql
  obtain ⟨old, hold, hindices⟩ := hsame player ql hql
  obtain ⟨hnodup, hall⟩ := h player old hold
  refine ⟨hindices ▸ hnodup, ?_⟩
  intro entry hentry
  have hmem : entry.index ∈ old.map (·.index) := hindices ▸ List.mem_map_of_mem hentry
  obtain ⟨oldEntry, holdEntry, heq⟩ := List.mem_map.mp hmem
  rw [hp, ← heq]
  exact hall oldEntry holdEntry

theorem ListedOnce.same (h : ListedOnce loot) (hkinds : SameKinds loot loot')
    (hquest : SameLists loot.playerQuestItems loot'.playerQuestItems)
    (hffa : SameLists loot.playerFFAItems loot'.playerFFAItems)
    (hcond : SameLists loot.playerConditionalItems loot'.playerConditionalItems) :
    ListedOnce loot' := by
  refine ⟨hkinds.length.trans_le h.items, ?_, ?_, ?_, ?_⟩
  · intro player ql hql
    obtain ⟨old, hold, hindices⟩ := hquest player ql hql
    have hsameLength : ql.length = old.length := by simpa using congrArg List.length hindices
    rw [hkinds.length, hsameLength]
    exact h.room player old hold
  · exact h.quest.same hquest (by rw [hkinds.questItems])
  · exact h.ffa.same hffa (funext (hkinds.any (k := Prod.fst) fun _ => rfl))
  · exact h.conditional.same hcond (funext hkinds.conditional)

theorem kinds_modify {f : LootItem → LootItem} (hf : ∀ item, (f item).kind = item.kind)
    (items : List LootItem) (i : Nat) :
    (items.modify i f).map (·.kind) = items.map (·.kind) := by
  apply List.ext_getElem?
  intro j
  rw [List.getElem?_map, List.getElem?_map, List.getElem?_modify]
  cases items[j]? with
  | none => rfl
  | some item =>
      rw [Option.map_eq_map, Option.map_some, Option.map_some, Option.map_some]
      split
      · exact congrArg some (hf item)
      · rfl

theorem listed_updateItem (h : ListedOnce loot) (slot : Nat) {f : LootItem → LootItem}
    (hf : ∀ item, (f item).kind = item.kind) : ListedOnce (loot.updateItem slot f) :=
  h.same ⟨kinds_modify hf loot.items slot, rfl⟩ (.refl _) (.refl _) (.refl _)

end Same

section Filling

variable {loot : Loot} {ql : List QuestItem}

theorem fillFFALoot_listed (h : ListedOnce loot) (player : Looter) :
    ListedOnce (loot.fillFFALoot player) := by
  unfold fillFFALoot
  split
  · exact h
  · dsimp only
    split
    · exact h
    · refine ⟨h.items, h.room, h.quest, h.ffa.assign ?_ ?_, h.conditional⟩
      · rw [List.map_map]
        exact List.Nodup.map (fun _ _ heq => heq) (List.nodup_range.filter _)
      · intro entry hentry
        obtain ⟨i, hi, rfl⟩ := List.mem_map.mp hentry
        have hopen := (List.mem_filter.mp hi).2
        obtain ⟨item, hitem, hall⟩ := (Option.any_eq_true _ _).mp hopen
        rw [Option.any_eq_true]
        exact ⟨item, hitem, by simpa using (of_decide_eq_true hall).2.1⟩

theorem fillQuestFrom_listed (player : Looter) (rest : List Nat) (h : ListedOnce loot)
    (hroom : loot.items.length + ql.length < maxNrLootItems)
    (hnodup : (ql.map (·.index) ++ rest).Nodup)
    (hql : ∀ entry ∈ ql, entry.index < loot.questItems.length) :
    ListedOnce (fillQuestFrom player rest loot ql).1 ∧
      (fillQuestFrom player rest loot ql).1.items.length +
          (fillQuestFrom player rest loot ql).2.length ≤ maxNrLootItems ∧
        ((fillQuestFrom player rest loot ql).2.map (·.index)).Nodup ∧
          ∀ entry ∈ (fillQuestFrom player rest loot ql).2,
            entry.index < (fillQuestFrom player rest loot ql).1.questItems.length := by
  induction rest generalizing loot ql with
  | nil => exact ⟨h, hroom.le, (List.nodup_append.mp hnodup).1, hql⟩
  | cons i rest ih =>
      have hskip : (ql.map (·.index) ++ rest).Nodup :=
        hnodup.sublist ((List.sublist_cons_self i rest).append_left _)
      simp only [fillQuestFrom]
      split
      · exact ih h hroom hskip hql
      · next item hitem =>
          split
          · have hlt := (List.getElem?_eq_some_iff.mp hitem).1
            have hpushed : ∀ entry ∈ ql ++ [QuestItem.mk i false],
                entry.index < (loot.questItems.modify i
                  fun item => { item with isBlocked := true }).length := by
              intro entry hentry
              rw [List.length_modify]
              rcases List.mem_append.mp hentry with hentry | hentry
              · exact hql entry hentry
              · rw [List.mem_singleton.mp hentry]
                exact hlt
            have hpushedNodup : ((ql ++ [QuestItem.mk i false]).map (·.index) ++ rest).Nodup := by
              rw [List.map_append, List.append_assoc]
              exact hnodup
            have hblocked : ∀ count, ListedOnce { loot with
                unlootedCount := count
                questItems := loot.questItems.modify i
                  fun item => { item with isBlocked := true } } := fun count =>
              h.same ⟨rfl, List.length_modify _ _ _⟩ (.refl _) (.refl _) (.refl _)
            split
            · next hfull =>
                exact ⟨hblocked _, hfull.le, (List.nodup_append.mp hpushedNodup).1, hpushed⟩
            · next hroom' =>
                refine ih (hblocked _) (lt_of_le_of_ne ?_ hroom') hpushedNodup hpushed
                rw [List.length_append, List.length_singleton]
                exact hroom
          · exact ih h hroom hskip hql

theorem fillQuestLoot_listed (h : ListedOnce loot) (player : Looter) :
    ListedOnce (loot.fillQuestLoot player) := by
  unfold fillQuestLoot
  split
  · exact h
  · split
    · exact h
    · next hfull =>
        obtain ⟨hlisted, hroom, hnodup, hall⟩ :=
          @fillQuestFrom_listed loot [] player (List.range loot.questItems.length) h
            (lt_of_le_of_ne h.items hfull) (by simpa using List.nodup_range) (by simp)
        dsimp only
        split
        · exact hlisted
        · refine ⟨hlisted.items, ?_,
            hlisted.quest.assign hnodup fun entry hentry => decide_eq_true (hall entry hentry),
            hlisted.ffa, hlisted.conditional⟩
          intro other ql hql
          by_cases hsame : other = player.guid
          · subst hsame
            rw [Lib.OrderedMap.find?_assign_self] at hql
            cases hql
            exact hroom
          · rw [Lib.OrderedMap.find?_assign_of_ne _ hsame] at hql
            exact hlisted.room other ql hql

theorem fillConditionalFrom_listed (player : Looter) (rest : List Nat) (h : ListedOnce loot)
    (hnodup : (ql.map (·.index) ++ rest).Nodup)
    (hql : ∀ entry ∈ ql, (loot.items[entry.index]?.any
      fun item => !item.freeforall && item.conditionId ≠ 0) = true) :
    ListedOnce (fillConditionalFrom player rest loot ql).1 ∧
      ((fillConditionalFrom player rest loot ql).2.map (·.index)).Nodup ∧
        ∀ entry ∈ (fillConditionalFrom player rest loot ql).2,
          ((fillConditionalFrom player rest loot ql).1.items[entry.index]?.any
            fun item => !item.freeforall && item.conditionId ≠ 0) = true := by
  induction rest generalizing loot ql with
  | nil => exact ⟨h, (List.nodup_append.mp hnodup).1, hql⟩
  | cons i rest ih =>
      have hskip : (ql.map (·.index) ++ rest).Nodup :=
        hnodup.sublist ((List.sublist_cons_self i rest).append_left _)
      simp only [fillConditionalFrom]
      split
      · exact ih h hskip hql
      · next item hitem =>
          split
          · next hopen =>
              have hkinds : ∀ count, SameKinds loot { loot with
                  unlootedCount := count
                  items := loot.items.modify i fun item => { item with isCounted := true } } :=
                fun count => ⟨kinds_modify (f := fun item => { item with isCounted := true })
                  (fun _ => rfl) _ _, rfl⟩
              refine ih (h.same (hkinds _) (.refl _) (.refl _) (.refl _)) ?_ ?_
              · rw [List.map_append, List.append_assoc]
                exact hnodup
              · intro entry hentry
                refine ((hkinds _).conditional _).trans ?_
                rcases List.mem_append.mp hentry with hentry | hentry
                · exact hql entry hentry
                · rw [List.mem_singleton.mp hentry]
                  simp [hitem, hopen.2.1, hopen.2.2.1]
          · exact ih h hskip hql

theorem fillConditionalLoot_listed (h : ListedOnce loot) (player : Looter) :
    ListedOnce (loot.fillNonQuestNonFFAConditionalLoot player) := by
  unfold fillNonQuestNonFFAConditionalLoot
  split
  · exact h
  · obtain ⟨hlisted, hnodup, hall⟩ :=
      @fillConditionalFrom_listed loot [] player (List.range loot.items.length) h
        (by simpa using List.nodup_range) (by simp)
    dsimp only
    split
    · exact hlisted
    · exact ⟨hlisted.items, hlisted.room, hlisted.quest, hlisted.ffa,
        hlisted.conditional.assign hnodup hall⟩

theorem fillNotNormalLootFor_listed (h : ListedOnce loot) (player : Looter) :
    ListedOnce (loot.fillNotNormalLootFor player) := by
  unfold fillNotNormalLootFor
  extract_lets allowed quest ffa
  have hallowed : ListedOnce allowed := ⟨h.items, h.room, h.quest, h.ffa, h.conditional⟩
  have hquest : ListedOnce quest := by
    simp only [quest]
    split
    · exact fillQuestLoot_listed hallowed player
    · exact hallowed
  have hffa : ListedOnce ffa := by
    simp only [ffa]
    split
    · exact fillFFALoot_listed hquest player
    · exact hquest
  split
  · exact fillConditionalLoot_listed hffa player
  · exact hffa

theorem addItem_items (loot : Loot) (li : LootStoreItem)
    (h : loot.items.length ≤ maxNrLootItems) :
    (loot.addItem li).items.length ≤ maxNrLootItems := by
  unfold addItem
  split
  · split <;> exact h
  · split
    · next hlt => simpa using hlt
    · exact h

theorem processed_listed (rolled : List LootStoreItem) : ListedOnce (processed rolled) := by
  have hrolled := processed_rolled rolled
  have hitems : ∀ (rolled : List LootStoreItem) (loot : Loot),
      loot.items.length ≤ maxNrLootItems →
        (rolled.foldl addItem loot).items.length ≤ maxNrLootItems := by
    intro rolled
    induction rolled with
    | nil => exact fun _ h => h
    | cons li rolled ih => exact fun loot h => ih _ (addItem_items loot li h)
  refine ⟨hitems rolled {} (Nat.zero_le _), ?_, ?_, ?_, ?_⟩
  · rw [hrolled.questEmpty]
    nofun
  · rw [hrolled.questEmpty]
    exact entriesFit_empty _
  · rw [hrolled.ffaEmpty]
    exact entriesFit_empty _
  · rw [hrolled.condEmpty]
    exact entriesFit_empty _

theorem markUnderthreshold_listed (h : ListedOnce loot) (isUnder : UInt32 → Bool) :
    ListedOnce (loot.markUnderthreshold isUnder) := by
  refine h.same ⟨?_, rfl⟩ (.refl _) (.refl _) (.refl _)
  exact (List.map_map).trans (List.map_congr_left fun _ _ => rfl)

theorem fillLoot_listed (rolled : List LootStoreItem) (looters : List Looter)
    (isUnder : UInt32 → Bool) : ListedOnce (fillLoot rolled looters isUnder) :=
  markUnderthreshold_listed (@Lib.run_always _ _ fillNotNormalLootFor ListedOnce
    (fun _ looter h => fillNotNormalLootFor_listed h looter) _ (processed_listed rolled) looters)
    isUnder

end Filling

section Steps

variable {loot : Loot}

theorem mark_listed (h : ListedOnce loot) (player : UInt32) (lootSlot : Nat) (found : Found)
    (item : LootItem) : ListedOnce (loot.mark player lootSlot found item) := by
  have hkinds : ∀ i, (setLooted loot.items i).map (·.kind) = loot.items.map (·.kind) :=
    fun i => kinds_modify (f := fun item => { item with isLooted := true }) (fun _ => rfl) _ i
  cases found with
  | quest questSlot index =>
      refine h.same ⟨rfl, ?_⟩ (sameLists_markEntry _ _ _) (.refl _) (.refl _)
      simp only [Loot.mark]
      split
      · rfl
      · exact List.length_modify _ _ _
  | ffa => exact h.same ⟨rfl, rfl⟩ (.refl _) (sameLists_markEntry _ _ _) (.refl _)
  | conditional => exact h.same ⟨hkinds _, rfl⟩ (.refl _) (.refl _) (sameLists_markEntry _ _ _)
  | shared =>
      refine h.same ⟨?_, rfl⟩ (.refl _) (.refl _) (.refl _)
      simp only [Loot.mark]
      split
      · rfl
      · exact hkinds _

theorem autostore_listed (h : ListedOnce loot) (player : Looter) (lootSlot : UInt8)
    (isMasterLooted canStore stores : Bool) :
    ListedOnce (loot.autostore player lootSlot isMasterLooted canStore stores) := by
  unfold autostore
  split
  · exact h
  · next found item _ =>
      have hmark := mark_listed h player.guid lootSlot.toNat found item
      split_ifs
      · exact h
      · exact h
      · exact h
      · exact h
      · exact h
      · exact ⟨hmark.items, hmark.room, hmark.quest, hmark.ffa, hmark.conditional⟩

theorem groupLoot_listed (h : ListedOnce loot) (hasRollers : Nat → Bool) :
    ListedOnce (loot.groupLoot hasRollers) := by
  refine @Lib.run_always _ _ startLootRoll ListedOnce (fun loot slot h => ?_) _ h _
  exact h.same ⟨kinds_modify (f := fun item => { item with isBlocked := true }) (fun _ => rfl) _ _,
    rfl⟩ (.refl _) (.refl _) (.refl _)

theorem giveTo_listed (h : ListedOnce loot) (player : UInt32) (slot : Nat) (stores : Bool)
    {f : LootItem → LootItem} (hf : ∀ item, (f item).kind = item.kind) :
    ListedOnce (loot.giveTo player slot stores f) := by
  have hupdate := listed_updateItem h slot (f := fun item => { f item with isLooted := true }) hf
  exact ⟨hupdate.items, hupdate.room, hupdate.quest, hupdate.ffa, hupdate.conditional⟩

theorem countTheRoll_listed (h : ListedOnce loot) (slot : Nat) (outcome : RollOutcome) :
    ListedOnce (loot.countTheRoll slot outcome) := by
  have hrolls : ListedOnce { loot with rolls := loot.rolls.erase slot } :=
    ⟨h.items, h.room, h.quest, h.ffa, h.conditional⟩
  unfold countTheRoll
  split
  · exact h
  · dsimp only
    split
    · exact hrolls
    · cases outcome with
      | won winner canStore stores =>
          dsimp only
          split
          · exact giveTo_listed hrolls winner slot _ fun _ => rfl
          · exact listed_updateItem hrolls slot fun _ => rfl
      | gone winner isNeed =>
          dsimp only
          split
          · exact listed_updateItem hrolls slot fun _ => rfl
          · exact hrolls
      | allPassed => exact listed_updateItem hrolls slot fun _ => rfl

theorem masterGive_listed (h : ListedOnce loot) (slotid : UInt8) (target : UInt32)
    (canStore stores : Bool) : ListedOnce (loot.masterGive slotid target canStore stores) := by
  unfold masterGive
  split
  · exact h
  · split
    · exact h
    · split
      · exact h
      · exact giveTo_listed h target _ _ fun _ => rfl

theorem ListedOnce.step (h : ListedOnce loot) (event : LootEvent) :
    ListedOnce (loot.step event) := by
  cases event with
  | fillNotNormalLootFor player => exact fillNotNormalLootFor_listed h player
  | markUnderthreshold isUnder => exact markUnderthreshold_listed h isUnder
  | groupLoot hasRollers => exact groupLoot_listed h hasRollers
  | autostore player lootSlot isMasterLooted canStore stores =>
      exact autostore_listed h player lootSlot isMasterLooted canStore stores
  | countTheRoll slot outcome => exact countTheRoll_listed h slot outcome
  | masterGive slotid target canStore stores =>
      exact masterGive_listed h slotid target canStore stores

/-- So it is in every loot that is reached, whatever is asked for. -/
theorem run_listed (rolled : List LootStoreItem) (looters : List Looter)
    (isUnder : UInt32 → Bool) (events : List LootEvent) :
    ListedOnce (Lib.run Loot.step (fillLoot rolled looters isUnder) events) :=
  @Lib.run_always _ _ Loot.step ListedOnce (fun _ event h => h.step event) _
    (fillLoot_listed rolled looters isUnder) events

end Steps

end TortoiseWow.Looting
