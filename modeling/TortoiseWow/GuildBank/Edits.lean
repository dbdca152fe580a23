import TortoiseWow.GuildBank.Conservation
import TortoiseWow.GuildBank.Treasury

/-!
What an action can do to the bank and its table, said once. Every item command is
a sequence of edits: a fresh item, an item rewritten in place, two items that
trade slots, an item taken out, the snapshot a swap leaves behind, a new number of
tabs, a change that is none of the items' business, and a save. An edit carries what the code has
established when it makes it; what the code establishes only under a condition on
the command is carried under that condition, as one of the terms of the command.
-/

namespace TortoiseWow.GuildBank

open Lib

def Bank.Owned (b : Bank) : Prop :=
  ∀ x ∈ b.bItems, x.guildid = b.guildid ∧ x.isInferno = b.bInfernoBank

def stackLimit (env : Env) (entry : UInt32) : UInt32 :=
  ((env.getItemPrototype entry).map ItemPrototype.getMaxStackSize).getD 0

/-- An item that is where it may be and as large as it may be. -/
structure BankItem.Fits (env : Env) (tabs : UInt32) (x : BankItem) : Prop where
  tab : 1 ≤ x.tab.toNat ∧ x.tab.toNat ≤ tabs.toNat
  slot : InTab x.slot
  count : 1 ≤ x.count.toNat ∧ x.count.toNat ≤ x.maxStackSize.toNat
  limit : x.maxStackSize = stackLimit env x.itemTemplate

/-- Under which conditions a command does what. -/
structure Terms where
  /-- The guids of the items the command may rewrite. -/
  touches : UInt32 → Prop
  /-- Guids are left. -/
  room : Prop
  /-- The command writes only items that fit. -/
  sized : Prop
  /-- The command completes a swap. -/
  swaps : Prop
  /-- The numbers of tabs the command may set. -/
  tabs : UInt32 → Prop

abbrev Store := Bank × CharacterDatabase

/-- The two banks differ in nothing that concerns the items. -/
structure Bank.Aside (b b' : Bank) : Prop where
  items : b'.bItems = b.bItems
  queue : b'.bItemUpdateQueue = b.bItemUpdateQueue
  guildid : b'.guildid = b.guildid
  inferno : b'.bInfernoBank = b.bInfernoBank
  lock : b'.bSaveLock = b.bSaveLock
  tabs : b'.bTabs = b.bTabs

inductive Edit (env : Env) (T : Terms) : Store → Store → Prop
  | add {b : Bank} {db : CharacterDatabase} {x : BankItem} (isNew : x.state = .itemNew)
      (own : x.guildid = b.guildid ∧ x.isInferno = b.bInfernoBank)
      (free : getItem b x.tab x.slot = none)
      (fresh : T.room → ∀ y ∈ b.bItems, y.guid ≠ x.guid)
      (fits : T.sized → x.Fits env b.bTabs) :
      Edit env T (b, db)
        ({ b with
            bItems := b.bItems ++ [x]
            bItemUpdateQueue := b.bItemUpdateQueue ++ [x] }, db)
  | put {b : Bank} {db : CharacterDatabase} {i : Nat} {x y : BankItem}
      (there : b.bItems[i]? = some y) (changed : x.state = .itemChanged)
      (own : x.guildid = b.guildid ∧ x.isInferno = b.bInfernoBank) (guid : x.guid = y.guid)
      (touched : T.touches x.guid)
      (place : x.tab = y.tab ∧ (x.slot = y.slot ∨ getItem b x.tab x.slot = none))
      (fits : T.sized → x.Fits env b.bTabs) :
      Edit env T (b, db)
        ({ b with
            bItems := b.bItems.set i x
            bItemUpdateQueue := b.bItemUpdateQueue ++ [x] }, db)
  | exchange {b : Bank} {db : CharacterDatabase} {i k : Nat} {x y : BankItem} (ne : i ≠ k)
      (hx : b.bItems[i]? = some x) (hy : b.bItems[k]? = some y) (tx : T.touches x.guid)
      (ty : T.touches y.guid) (tab : x.tab = y.tab) :
      Edit env T (b, db)
        ({ b with
            bItems := (b.bItems.set i (x.moved y.slot)).set k (y.moved x.slot)
            bItemUpdateQueue := b.bItemUpdateQueue ++ [x.moved y.slot] ++ [y.moved x.slot] }, db)
  | erase {b : Bank} {db : CharacterDatabase} {i : Nat} {x : BankItem}
      (there : b.bItems[i]? = some x) :
      Edit env T (b, db)
        ({ b with
            bItems := b.bItems.eraseIdx i
            bItemUpdateQueue := b.bItemUpdateQueue ++ [x.removed] }, db)
  | forget {b : Bank} {db : CharacterDatabase} {x : BankItem} (removed : x.state = .itemRemoved)
      (own : x.guildid = b.guildid ∧ x.isInferno = b.bInfernoBank) (swaps : T.swaps) :
      Edit env T (b, db)
        ({ b with bItemUpdateQueue := b.bItemUpdateQueue ++ [x] }, db)
  | tabs {b : Bank} {db : CharacterDatabase} {n : UInt32} (paid : T.tabs n) :
      Edit env T (b, db) ({ b with bTabs := n }, db)
  | aside {b b' : Bank} {db : CharacterDatabase} (same : b.Aside b') :
      Edit env T (b, db) (b', db)
  | save {b : Bank} {db : CharacterDatabase} : Edit env T (b, db) (saveBank b db)

def Edits (env : Env) (T : Terms) : Store → Store → Prop := Relation.ReflTransGen (Edit env T)

def Session.store (s : Session) : Store := (s.bank, s.db)

section Helpers

variable {env : Env} {T : Terms} {s s' : Session}

theorem Edit.one {a b : Store} (h : Edit env T a b) : Edits env T a b :=
  Relation.ReflTransGen.single h

theorem Session.Answers.edits (h : s.Answers s') : Edits env T s.store s'.store := by
  obtain ⟨out, rfl⟩ := h
  exact Relation.ReflTransGen.refl

theorem Session.Aside.edit (h : s.Aside s') : Edit env T s.store s'.store := by
  unfold Session.store
  rw [h.db]
  exact .aside ⟨h.bItems, h.queue, h.guildid, h.inferno, h.saveLock, h.bTabs⟩

theorem saveToDB_edit : Edit env T s.store (saveToDB s).store := .save

theorem logAction_aside (s : Session) (action : GuildBankAction) (tab itemID count : UInt32)
    (bItem : Option BankItem) :
    s.bank.Aside (logAction s action tab itemID count bItem).bank :=
  ⟨logAction_bItems .., logAction_queue .., logAction_guildid .., logAction_bInfernoBank ..,
    logAction_bSaveLock .., logAction_bTabs ..⟩

theorem logAction_edit (action : GuildBankAction) (tab itemID count : UInt32)
    (bItem : Option BankItem) :
    Edit env T s.store (logAction s action tab itemID count bItem).store := by
  unfold Session.store
  rw [logAction_db]
  exact .aside (logAction_aside s action tab itemID count bItem)

theorem noteWithdraw_edit (count : UInt32) (bItem : BankItem) :
    Edit env T s.store (noteWithdraw s count bItem).store :=
  logAction_edit (s := grant s _) _ _ _ _ _

theorem Session.Quiet.edits (h : s.Quiet s') : Edits env T s.store s'.store := by
  obtain ⟨s₁, aside, rfl | rfl⟩ := h
  · exact aside.edit.one
  · exact aside.edit.one.tail saveToDB_edit

theorem finishDeposit_edits (i : Nat) (x : BankItem) (count : UInt32) :
    Edits env T s.store (finishDeposit s i x count).store :=
  (logAction_edit (s := sendGuildMessage s _) _ _ _ _ _).one.tail saveToDB_edit

/-- Whatever a deposit has put into the bank, paying for it is no edit. -/
theorem payBag_store (again : Session → Session) (j : Nat) (pItem : Item) (count : UInt32) :
    (payBag again s j pItem count 0).store = s.store := by
  unfold payBag
  rw [if_pos rfl]
  split_ifs <;> rfl

end Helpers

theorem Edits.same {env : Env} {T : Terms} {a b : Store} (h : Edits env T a b) :
    b.1.guildid = a.1.guildid ∧ b.1.bInfernoBank = a.1.bInfernoBank ∧
      b.1.bSaveLock = a.1.bSaveLock := by
  induction h with
  | refl => exact ⟨rfl, rfl, rfl⟩
  | tail _ edit ih =>
      cases edit with
      | add | put | exchange | erase | forget | tabs => exact ih
      | aside same =>
          exact ⟨same.guildid.trans ih.1, same.inferno.trans ih.2.1, same.lock.trans ih.2.2⟩
      | save =>
          exact ⟨(saveBank_guildid ..).trans ih.1, (saveBank_bInfernoBank ..).trans ih.2.1,
            (saveBank_bSaveLock ..).trans ih.2.2⟩

theorem foldl_guid_le (l : List BankItem) (g : UInt32) :
    let m := l.foldl (fun guid x => if x.guid > guid then x.guid else guid) g
    g ≤ m ∧ (∀ x ∈ l, x.guid ≤ m) ∧ (m = g ∨ ∃ x ∈ l, m = x.guid) := by
  induction l generalizing g with
  | nil => exact ⟨UInt32.le_refl g, by simp, .inl rfl⟩
  | cons a l ih =>
      obtain ⟨low, upper, attained⟩ := ih (if a.guid > g then a.guid else g)
      have step : g ≤ (if a.guid > g then a.guid else g) ∧
          a.guid ≤ (if a.guid > g then a.guid else g) := by
        split_ifs with more
        · exact ⟨UInt32.le_of_lt more, UInt32.le_refl _⟩
        · exact ⟨UInt32.le_refl _, UInt32.not_lt.mp more⟩
      refine ⟨UInt32.le_trans step.1 low, ?_, ?_⟩
      · intro x mem
        rcases List.mem_cons.mp mem with rfl | mem
        · exact UInt32.le_trans step.2 low
        · exact upper x mem
      · rcases attained with same | ⟨x, mem, same⟩
        · simp only [List.foldl_cons]
          rw [same]
          split_ifs
          · exact .inr ⟨a, by simp, rfl⟩
          · exact .inl rfl
        · exact .inr ⟨x, List.mem_cons_of_mem _ mem, same⟩

theorem getNewGuid_fresh {b : Bank} (room : ∀ x ∈ b.bItems, x.guid ≠ 4294967295) :
    ∀ x ∈ b.bItems, x.guid ≠ getNewGuid b := by
  obtain ⟨-, upper, attained⟩ := foldl_guid_le b.bItems 0
  unfold getNewGuid
  generalize b.bItems.foldl (fun guid x => if x.guid > guid then x.guid else guid) 0 = m at *
  intro x mem same
  have le := UInt32.le_iff_toNat_le.mp (upper x mem)
  have small : m.toNat ≠ 4294967295 := by
    rcases attained with rfl | ⟨y, hy, rfl⟩
    · decide
    · exact fun top => room y hy (UInt32.toNat_inj.mp top)
  have := m.toNat_lt
  rw [same, UInt32.toNat_add] at le
  simp only [UInt32.reduceToNat] at le
  omega

def ItemAction.Names (x : BankItem) : ItemAction → Prop
  | depositFree tab _ pItem => x.tab = tab ∧ x.itemTemplate = pItem.proto.itemId
  | depositNew _ _ _ _ _ => False
  | depositOnto tab slot _ _ _ _ _ => x.tab = tab ∧ x.slot = slot
  | withdraw tab slot _ _ _ _ _ _ _ => x.tab = tab ∧ x.slot = slot
  | swap _ _ _ bItem => x.tab = bItem.tab ∧ x.slot = bItem.slot
  | move tab fromSlot toSlot _ _ _ => x.tab = tab ∧ (x.slot = fromSlot ∨ x.slot = toSlot)
  | splitEmpty tab fromSlot _ _ _ _ => x.tab = tab ∧ x.slot = fromSlot
  | splitStack tab fromSlot toSlot _ _ _ _ _ =>
      x.tab = tab ∧ (x.slot = fromSlot ∨ x.slot = toSlot)

/-- The bag stack carries its template's own limit and does not exceed it. -/
def Item.Sized (env : Env) (pItem : Item) : Prop :=
  pItem.getMaxStackCount = stackLimit env pItem.proto.itemId ∧
    pItem.count ≤ pItem.getMaxStackCount

/-- What a command must add to a bank whose items fit for its writes to fit too. -/
def ItemAction.Fitting (env : Env) (tabs : UInt32) : ItemAction → Prop
  | depositFree tab _ pItem => tab ≤ tabs ∧ Item.Sized env pItem ∧ pItem.count ≠ 0
  | depositNew tab _ _ pItem count => tab ≤ tabs ∧ Item.Sized env pItem ∧ count ≠ 0
  | depositOnto _ _ _ pItem _ _ _ => Item.Sized env pItem
  | withdraw _ _ _ _ _ _ _ pItem _ => ∀ j item, pItem = some (j, item) → Item.Sized env item
  | swap _ pItem _ _ => Item.Sized env pItem ∧ pItem.count ≠ 0
  | move _ _ _ _ _ _ => True
  | splitEmpty _ _ _ split _ _ => split ≠ 0
  | splitStack _ _ _ _ _ _ _ _ => True

/-- No template stacks beyond a `smallint`. -/
def SmallLimits (env : Env) : Prop := ∀ entry, (stackLimit env entry).toNat < 65536

def ItemAction.Swaps (env : Env) (s : Session) : ItemAction → Prop
  | swap _ pItem _ bItem =>
      (∀ code, swapCheck env s bItem ≠ .equipErr code) ∧
        swapRecheck env s pItem bItem = .equipErrOk
  | _ => False

def ItemAction.terms (env : Env) (s : Session) (a : ItemAction) : Terms where
  touches guid := ∃ x ∈ s.bank.bItems, x.guid = guid ∧ a.Names x
  room := ∀ x ∈ s.bank.bItems, x.guid ≠ 4294967295
  sized := SmallLimits env ∧ (∀ x ∈ s.bank.bItems, x.Fits env s.bank.bTabs) ∧
    a.Fitting env s.bank.bTabs
  swaps := a.Swaps env s
  tabs _ := False

section Actions

variable {env : Env} {T : Terms}

theorem depositNew_edits {s : Session} {again : Session → Session} {tab slot : UInt32} {j : Nat}
    {pItem : Item} {count : UInt32} (free : getItem s.bank tab slot = none)
    (room : T.room → ∀ x ∈ s.bank.bItems, x.guid ≠ 4294967295)
    (fits : T.sized → (depositedItem env s.bank tab slot pItem count).Fits env s.bank.bTabs) :
    Edits env T s.store
      (depositItemInSlot env again s tab slot j pItem count 0 .itemNew false).store := by
  rw [depositItemInSlot_new]
  refine Relation.ReflTransGen.trans ?_ (finishDeposit_edits _ _ _)
  rw [payBag_store]
  refine Edit.one (.add rfl ⟨rfl, rfl⟩ free (fun h y mem => ?_) fits)
  exact getNewGuid_fresh (room h) y mem

theorem restacked_fits {b : Bank} {dItem : BankItem} {pItem : Item} {count : UInt32}
    {stack : Bool} (old : dItem.Fits env b.bTabs)
    (limit : pItem.getMaxStackCount = stackLimit env pItem.proto.itemId)
    (amount : 1 ≤ (restackedItem env b dItem pItem count stack).count.toNat ∧
      (restackedItem env b dItem pItem count stack).count.toNat ≤
        pItem.getMaxStackCount.toNat) :
    (restackedItem env b dItem pItem count stack).Fits env b.bTabs :=
  ⟨old.tab, old.slot, amount, limit⟩

theorem restack_edit {s : Session} {tab slot : UInt32} {i : Nat} {dItem : BankItem}
    {pItem : Item} {count : UInt32} {stack : Bool} (own : s.bank.Owned)
    (there : getItem s.bank tab slot = some (i, dItem)) (touched : T.touches dItem.guid)
    (fits : T.sized → (restackedItem env s.bank dItem pItem count stack).Fits env s.bank.bTabs) :
    Edit env T s.store
      (pushUpdate (writeItem s (some i) (restackedItem env s.bank dItem pItem count stack))
        (restackedItem env s.bank dItem pItem count stack)).store := by
  have mem := List.mem_of_getElem? (getItem_get there)
  exact .put (getItem_get there) rfl ⟨(own _ mem).1, rfl⟩ rfl touched ⟨rfl, .inl rfl⟩ fits

theorem depositChanged_edits {s : Session} {again : Session → Session} {tab slot : UInt32}
    {j i : Nat} {dItem : BankItem} {pItem : Item} {count : UInt32} {stack : Bool}
    (own : s.bank.Owned) (there : getItem s.bank tab slot = some (i, dItem))
    (touched : T.touches dItem.guid)
    (fits : T.sized → (restackedItem env s.bank dItem pItem count stack).Fits env s.bank.bTabs) :
    Edits env T s.store
      (depositItemInSlot env again s tab slot j pItem count 0 .itemChanged stack).store := by
  rw [depositItemInSlot_changed there]
  refine Relation.ReflTransGen.trans ?_ (finishDeposit_edits _ _ _)
  rw [payBag_store]
  exact (restack_edit own there touched fits).one

/-- What the rounds of the automatic deposit hand on to each other. -/
structure FreeSlotTerms (env : Env) (T : Terms) (tab : UInt32) (pItem : Item) (s : Session) :
    Prop where
  own : s.bank.Owned
  touched : ∀ x ∈ s.bank.bItems, x.tab = tab → x.itemTemplate = pItem.proto.itemId →
    T.touches x.guid
  room : T.room → ∀ x ∈ s.bank.bItems, x.guid ≠ 4294967295
  items : T.sized → SmallLimits env ∧ ∀ x ∈ s.bank.bItems, x.Fits env s.bank.bTabs
  stack : T.sized → (1 ≤ tab.toNat ∧ tab.toNat ≤ s.bank.bTabs.toNat) ∧
    Item.Sized env pItem ∧ pItem.count ≠ 0

theorem toNat_ne_zero {n : UInt32} (h : n ≠ 0) : n.toNat ≠ 0 :=
  fun zero => h (UInt32.toNat_inj.mp zero)

theorem count_lt_of_sized {x : BankItem} {tabs : UInt32} (small : SmallLimits env)
    (fits : x.Fits env tabs) : x.maxStackSize.toNat < 65536 := by
  rw [fits.limit]
  exact small _

theorem depositWhole_fits {s : Session} {dItem : BankItem} {pItem : Item}
    (small : SmallLimits env) (old : dItem.Fits env s.bank.bTabs) (sized : Item.Sized env pItem)
    (same : dItem.itemTemplate = pItem.proto.itemId)
    (whole : pItem.count + dItem.count ≤ dItem.maxStackSize) :
    (restackedItem env s.bank dItem pItem pItem.count true).Fits env s.bank.bTabs := by
  refine restacked_fits old sized.1 ?_
  have limit : pItem.getMaxStackCount.toNat = dItem.maxStackSize.toNat := by
    rw [sized.1, old.limit, same]
  have bound := count_lt_of_sized small old
  have le := UInt32.le_iff_toNat_le.mp sized.2
  obtain ⟨positive, top⟩ := old.count
  rw [UInt32.le_iff_toNat_le, UInt32.toNat_add] at whole
  change 1 ≤ (dItem.count + pItem.count).toNat ∧ (dItem.count + pItem.count).toNat ≤ _
  rw [UInt32.toNat_add]
  omega

theorem topUp_fits {s : Session} {dItem : BankItem} {pItem : Item}
    (old : dItem.Fits env s.bank.bTabs) (sized : Item.Sized env pItem)
    (same : dItem.itemTemplate = pItem.proto.itemId) :
    (restackedItem env s.bank dItem pItem (dItem.maxStackSize - dItem.count) true).Fits env
      s.bank.bTabs := by
  refine restacked_fits old sized.1 ?_
  have limit : pItem.getMaxStackCount.toNat = dItem.maxStackSize.toNat := by
    rw [sized.1, old.limit, same]
  obtain ⟨positive, top⟩ := old.count
  have filled : dItem.count + (dItem.maxStackSize - dItem.count) = dItem.maxStackSize := by
    rw [UInt32.add_comm, UInt32.sub_add_cancel]
  change 1 ≤ (dItem.count + (dItem.maxStackSize - dItem.count)).toNat ∧
    (dItem.count + (dItem.maxStackSize - dItem.count)).toNat ≤ _
  rw [filled]
  omega

theorem deposited_fits {b : Bank} {tab slot : UInt32} {pItem : Item} {count : UInt32}
    (onTab : 1 ≤ tab.toNat ∧ tab.toNat ≤ b.bTabs.toNat) (inTab : InTab slot)
    (limit : pItem.getMaxStackCount = stackLimit env pItem.proto.itemId)
    (positive : count ≠ 0) (le : count ≤ pItem.getMaxStackCount) :
    (depositedItem env b tab slot pItem count).Fits env b.bTabs :=
  ⟨onTab, inTab, ⟨Nat.pos_of_ne_zero (toNat_ne_zero positive), UInt32.le_iff_toNat_le.mp le⟩,
    limit⟩

theorem FreeSlotTerms.next {tab slot : UInt32} {pItem : Item} {s : Session} {i j : Nat}
    {dItem : BankItem} (h : FreeSlotTerms env T tab pItem s)
    (there : getItem s.bank tab slot = some (i, dItem))
    (same : dItem.itemTemplate = pItem.proto.itemId)
    (isOpen : dItem.count < dItem.maxStackSize)
    (part : ¬ pItem.count + dItem.count ≤ dItem.maxStackSize) :
    FreeSlotTerms env T tab
      { pItem with count := pItem.count - (dItem.maxStackSize - dItem.count) }
      (payDeposit
        (pushUpdate
          (writeItem s (some i)
            (restackedItem env s.bank dItem pItem (dItem.maxStackSize - dItem.count) true))
          (restackedItem env s.bank dItem pItem (dItem.maxStackSize - dItem.count) true))
        j pItem (dItem.maxStackSize - dItem.count)) := by
  have mem := List.mem_of_getElem? (getItem_get there)
  have kept : ∀ y ∈ s.bank.bItems.set i
      (restackedItem env s.bank dItem pItem (dItem.maxStackSize - dItem.count) true),
      y ∈ s.bank.bItems ∨
        y = restackedItem env s.bank dItem pItem (dItem.maxStackSize - dItem.count) true :=
    fun y hy => List.mem_or_eq_of_mem_set hy
  constructor
  · intro y hy
    rcases kept y hy with old | rfl
    · exact h.own y old
    · exact ⟨(h.own _ mem).1, rfl⟩
  · intro y hy onTab entry
    rcases kept y hy with old | rfl
    · exact h.touched y old onTab entry
    · exact h.touched dItem mem onTab same
  · intro room y hy
    rcases kept y hy with old | rfl
    · exact h.room room y old
    · exact h.room room dItem mem
  · intro sized
    obtain ⟨small, fits⟩ := h.items sized
    refine ⟨small, fun y hy => ?_⟩
    rcases kept y hy with old | rfl
    · exact fits y old
    · exact topUp_fits (fits dItem mem) (h.stack sized).2.1 same
  · intro sized
    obtain ⟨small, fits⟩ := h.items sized
    obtain ⟨onTab, ⟨limit, le⟩, -⟩ := h.stack sized
    have bound := count_lt_of_sized small (fits dItem mem)
    have top : pItem.getMaxStackCount.toNat = dItem.maxStackSize.toNat := by
      rw [limit, (fits dItem mem).limit, same]
    rw [UInt32.le_iff_toNat_le] at le
    rw [UInt32.lt_iff_toNat_lt] at isOpen
    have room : (dItem.maxStackSize - dItem.count).toNat =
        dItem.maxStackSize.toNat - dItem.count.toNat :=
      UInt32.toNat_sub_of_le _ _ (UInt32.le_iff_toNat_le.mpr isOpen.le)
    rw [UInt32.le_iff_toNat_le, UInt32.toNat_add] at part
    have rest : (pItem.count - (dItem.maxStackSize - dItem.count)).toNat =
        pItem.count.toNat - (dItem.maxStackSize - dItem.count).toNat := by
      refine UInt32.toNat_sub_of_le _ _ (UInt32.le_iff_toNat_le.mpr ?_)
      omega
    refine ⟨onTab, ⟨limit, ?_⟩, fun zero => ?_⟩
    · change pItem.count - (dItem.maxStackSize - dItem.count) ≤ pItem.getMaxStackCount
      rw [UInt32.le_iff_toNat_le, rest]
      omega
    · have := congrArg UInt32.toNat zero
      rw [rest] at this
      simp only [UInt32.toNat_zero] at this
      omega

theorem depositFree_edits {tab : UInt32} {j : Nat} (fuel : Nat) {s : Session} {pItem : Item}
    (carries : s.player.bags[j]? = some pItem) (h : FreeSlotTerms env T tab pItem s) :
    Edits env T s.store (depositItemInFreeSlot env fuel tab j s).store := by
  induction fuel generalizing s pItem with
  | zero => exact Relation.ReflTransGen.refl
  | succ fuel ih =>
      obtain ⟨slot, i, dItem, inTab, there, same, isOpen, ⟨whole, done⟩ | ⟨part, done⟩⟩ |
        ⟨slot, inTab, free, done⟩ | answers := depositItemInFreeSlot_cases carries
      · have mem := List.mem_of_getElem? (getItem_get there)
        rw [done]
        refine depositChanged_edits h.own there
          (h.touched dItem mem (getItem_place there).1 same) fun sized => ?_
        obtain ⟨small, fits⟩ := h.items sized
        exact depositWhole_fits small (fits dItem mem) (h.stack sized).2.1 same whole
      · have mem := List.mem_of_getElem? (getItem_get there)
        have left := (List.getElem?_eq_some_iff.mp carries).1
        rw [done, depositItemInSlot_changed there]
        refine Relation.ReflTransGen.trans ?_ (finishDeposit_edits _ _ _)
        refine Relation.ReflTransGen.head (@restack_edit _ _ _ _ _ _ _ pItem
          (dItem.maxStackSize - dItem.count) true h.own there
          (h.touched dItem mem (getItem_place there).1 same) fun sized => ?_) ?_
        · exact topUp_fits ((h.items sized).2 dItem mem) (h.stack sized).2.1 same
        · unfold payBag
          split_ifs
          · exact Relation.ReflTransGen.refl
          · exact Relation.ReflTransGen.refl
          · refine ih ?_
              (h.next there same isOpen part)
            simp [payDeposit, setCount, setBags, pushUpdate, writeItem, modifyBank, left]
      · rw [done]
        refine depositNew_edits free h.room fun sized => ?_
        obtain ⟨onTab, ⟨limit, le⟩, positive⟩ := h.stack sized
        exact deposited_fits onTab inTab limit positive le
      · exact answers.edits

/-- The record of a withdrawal, with what it removes, after the bank item has been rewritten. -/
theorem withdrawn_edits {s : Session} {i : Nat} {bItem : BankItem} (own : s.bank.Owned)
    (there : s.bank.bItems[i]? = some bItem) (touched : T.touches bItem.guid)
    (bankTab bankSlot count left remainer : UInt32) (bags : List Item)
    (fits : T.sized → remainer ≠ 0 → (bItem.recounted left).Fits env s.bank.bTabs) :
    Edits env T s.store
      (saveToDB (finishWithdraw env
        (setBags (takeFromBank s bankTab bankSlot (some i) bItem left remainer false).1 bags)
        bankTab count (some i) (takenItem bItem left remainer))).store := by
  refine Relation.ReflTransGen.tail ?_ saveToDB_edit
  generalize moved : setBags (takeFromBank s bankTab bankSlot (some i) bItem left remainer
    false).1 bags = s₁
  obtain ⟨out, finished⟩ := finishWithdraw_answers s₁ bankTab (some i)
    (takenItem bItem left remainer) env count
  have store : (finishWithdraw env s₁ bankTab count (some i)
      (takenItem bItem left remainer)).store =
      (recordWithdraw s₁ count (some i) (takenItem bItem left remainer)).store := by
    rw [finished]
    rfl
  have taken : s₁.store = (pushUpdate (writeItem s (some i) (takenItem bItem left remainer))
      (takenItem bItem left remainer)).store := by
    obtain ⟨out', eq⟩ := takeFromBank_answers s bankTab bankSlot (some i) bItem left remainer
      false
    rw [← moved, eq]
    rfl
  have noted : (noteWithdraw s₁ count (takenItem bItem left remainer)).db = s₁.db := logAction_db ..
  have aside : s₁.bank.Aside (noteWithdraw s₁ count (takenItem bItem left remainer)).bank :=
    logAction_aside (grant s₁ _) _ _ _ _ _
  have bank : s₁.bank = (pushUpdate (writeItem s (some i) (takenItem bItem left remainer))
      (takenItem bItem left remainer)).bank := congrArg Prod.fst taken
  have db : s₁.db = s.db := congrArg Prod.snd taken
  rw [store]
  unfold recordWithdraw
  by_cases whole : remainer = 0
  · have item : takenItem bItem left remainer = bItem.removed := if_pos whole
    have gone : bItem.removed.state = .itemRemoved := rfl
    rw [item] at aside noted bank ⊢
    rw [if_pos gone]
    refine Relation.ReflTransGen.head (.erase there) (Edit.one ?_)
    change Edit env T _ (_, (noteWithdraw s₁ count bItem.removed).db)
    rw [noted, db]
    refine .aside ⟨?_, ?_, ?_, ?_, ?_, ?_⟩
    · change (noteWithdraw s₁ count bItem.removed).bank.bItems.eraseIdx i = _
      rw [aside.items, bank]
      exact List.eraseIdx_set_eq
    · exact aside.queue.trans (by rw [bank]; rfl)
    · exact aside.guildid.trans (by rw [bank]; rfl)
    · exact aside.inferno.trans (by rw [bank]; rfl)
    · exact aside.lock.trans (by rw [bank]; rfl)
    · exact aside.tabs.trans (by rw [bank]; rfl)
  · have item : takenItem bItem left remainer = bItem.recounted left := if_neg whole
    have stays : ¬ (bItem.recounted left).state = .itemRemoved := by
      simp [BankItem.recounted]
    rw [item] at aside noted bank ⊢
    rw [if_neg stays]
    have mine := own bItem (List.mem_of_getElem? there)
    refine Relation.ReflTransGen.head (.put (x := bItem.recounted left) there rfl
      ⟨mine.1, mine.2⟩ rfl touched ⟨rfl, .inl rfl⟩ (fun sized => fits sized whole)) (Edit.one ?_)
    change Edit env T _ (_, (noteWithdraw s₁ count (bItem.recounted left)).db)
    rw [noted, db]
    rw [bank] at aside
    exact .aside aside

theorem withdraw_edits {s : Session} {tab slot count bag bagSlot : UInt32} {i : Nat}
    {bItem : BankItem} {pItem : Option (Nat × Item)} {remainer : UInt32}
    (valid : (ItemAction.withdraw tab slot count bag bagSlot i bItem pItem remainer).Valid s)
    (own : s.bank.Owned) (touched : T.touches bItem.guid)
    (fits : T.sized → bItem.Fits env s.bank.bTabs)
    (sized : T.sized → ∀ j item, pItem = some (j, item) → Item.Sized env item) :
    Edits env T s.store
      (withdrawItemTo env s tab slot count bag bagSlot (some i) bItem pItem remainer
        false).store := by
  obtain ⟨-, -, found, rfl, holds⟩ := valid
  have there := getItem_get found
  -- what is left in the slot is less than what fitted, because no more than that is taken
  have shrunk : T.sized → count ≤ bItem.count → bItem.count - count ≠ 0 →
      (bItem.recounted (bItem.count - count)).Fits env s.bank.bTabs := by
    intro h le ne
    have old := fits h
    have amount := UInt32.toNat_sub_of_le _ _ le
    refine ⟨old.tab, old.slot, ?_, old.limit⟩
    have := toNat_ne_zero ne
    change 1 ≤ (bItem.count - count).toNat ∧
      (bItem.count - count).toNat ≤ bItem.maxStackSize.toNat
    have := old.count.2
    rw [amount] at *
    omega
  obtain ⟨-, answers⟩ | ⟨-, ⟨j, item, rfl, done⟩ |
      ⟨rfl, ⟨bags, j, item, stored, gained, done⟩ | ⟨-, done⟩⟩⟩ :=
    withdrawItemTo_cases s tab slot (some i) bItem (bItem.count - count) false env count bag
      bagSlot pItem
  · exact answers.edits
  · rw [done]
    refine withdrawn_edits own there touched _ _ _ _ _ _ fun h ne => shrunk h ?_ ne
    obtain ⟨-, -, le | ⟨oversized, -⟩⟩ := holds
    · exact le
    · exact absurd (sized h j item rfl).2 (UInt32.not_le.mpr oversized)
  · rw [done]
    exact withdrawn_edits own there touched _ _ _ _ _ _ fun h ne => shrunk h holds ne
  · rw [done]
    exact saveToDB_edit.one

theorem swap_edits {s : Session} {j i : Nat} {pItem : Item} {bItem : BankItem}
    (there : getItem s.bank bItem.tab bItem.slot = some (i, bItem)) (own : s.bank.Owned)
    (touched : T.touches bItem.guid)
    (fits : T.sized → bItem.Fits env s.bank.bTabs ∧ Item.Sized env pItem ∧ pItem.count ≠ 0)
    (swaps : (∀ code, swapCheck env s bItem ≠ .equipErr code) →
      swapRecheck env s pItem bItem = .equipErrOk → T.swaps) :
    Edits env T s.store (swapItems env s j pItem bItem).store := by
  obtain ⟨-, answers⟩ | ⟨passed, done⟩ := swapItems_cases env s j pItem bItem
  · exact answers.edits
  rw [done]
  have deposit : Edits env T s.store
      (depositInSlot env s bItem.tab bItem.slot j pItem pItem.count .itemChanged false).store := by
    refine depositChanged_edits own there touched fun sized => ?_
    obtain ⟨old, ⟨limit, le⟩, positive⟩ := fits sized
    exact restacked_fits old limit
      ⟨Nat.pos_of_ne_zero (toNat_ne_zero positive), UInt32.le_iff_toNat_le.mp le⟩
  refine Relation.ReflTransGen.trans deposit ?_
  have bags := @swapDeposit_bags env _ j _ pItem _ there
  obtain ⟨guildid, inferno, -⟩ := deposit.same
  generalize depositInSlot env s bItem.tab bItem.slot j pItem pItem.count .itemChanged false =
    s₁ at bags guildid inferno ⊢
  obtain ⟨-, answers⟩ | ⟨ok, ⟨j, item, impossible, -⟩ |
      ⟨-, ⟨stored, k, item, -, -, done⟩ | ⟨-, done⟩⟩⟩ :=
    withdrawItemTo_cases s₁ bItem.tab bItem.slot none bItem 0 true env bItem.count
      inventorySlotBag0.toUInt32 nullSlot.toUInt32 none
  · exact answers.edits
  · cases impossible
  · have recheck : swapRecheck env s pItem bItem = .equipErrOk := by
      unfold swapRecheck
      rw [← bags]
      exact ok
    have mem := List.mem_of_getElem? (getItem_get there)
    have mine : bItem.removed.guildid = s₁.bank.guildid ∧
        bItem.removed.isInferno = s₁.bank.bInfernoBank :=
      ⟨(own _ mem).1.trans guildid.symm, (own _ mem).2.trans inferno.symm⟩
    rw [done]
    refine Relation.ReflTransGen.tail ?_ saveToDB_edit
    refine Relation.ReflTransGen.head (.forget (x := bItem.removed) rfl mine
      (swaps passed recheck)) (Edit.one ?_)
    -- nothing of the copy is in `b_items`: the record is a log line and no more
    obtain ⟨out, finished⟩ := finishWithdraw_answers
      (setBags (takeFromBank s₁ bItem.tab bItem.slot none bItem 0 0 true).1
        (stored.set k (cloneIntoBag s₁.player.guid item bItem))) bItem.tab none
      bItem.removed env bItem.count
    obtain ⟨out', taken⟩ := takeFromBank_answers s₁ bItem.tab bItem.slot none bItem 0 0 true
    have copy : takenItem bItem 0 0 = bItem.removed := if_pos rfl
    have gone : bItem.removed.state = .itemRemoved := rfl
    rw [copy] at taken ⊢
    rw [finished, recordWithdraw, if_pos gone, taken]
    exact noteWithdraw_edit (s := setBags { pushUpdate s₁ bItem.removed with out := out' } _) _ _
  · rw [done]
    exact saveToDB_edit.one

theorem recounted_fits {x : BankItem} {tabs n : UInt32} (old : x.Fits env tabs)
    (amount : 1 ≤ n.toNat ∧ n.toNat ≤ x.maxStackSize.toNat) : (x.recounted n).Fits env tabs :=
  ⟨old.tab, old.slot, amount, old.limit⟩

theorem moved_fits {x : BankItem} {tabs slot : UInt32} (old : x.Fits env tabs)
    (inTab : InTab slot) : (x.moved slot).Fits env tabs :=
  ⟨old.tab, inTab, old.count, old.limit⟩

theorem limit_eq {x y : BankItem} {tabs : UInt32} (hx : x.Fits env tabs) (hy : y.Fits env tabs)
    (same : x.itemTemplate = y.itemTemplate) : x.maxStackSize.toNat = y.maxStackSize.toNat := by
  rw [hx.limit, hy.limit, same]

/-- A new count for an item where it lies. -/
theorem recount_edit {b : Bank} {db : CharacterDatabase} {i : Nat} {x : BankItem} (n : UInt32)
    (own : b.Owned) (there : b.bItems[i]? = some x) (touched : T.touches x.guid)
    (fits : T.sized → (x.recounted n).Fits env b.bTabs) :
    Edit env T (b, db)
      ({ b with
          bItems := b.bItems.set i (x.recounted n)
          bItemUpdateQueue := b.bItemUpdateQueue ++ [x.recounted n] }, db) :=
  .put there rfl (own x (List.mem_of_getElem? there)) rfl touched ⟨rfl, .inl rfl⟩ fits

theorem recountTwo_edits {s : Session} {i k : Nat} {x y : BankItem} {m n : UInt32} (ne : i ≠ k)
    (own : s.bank.Owned) (hx : s.bank.bItems[i]? = some x) (hy : s.bank.bItems[k]? = some y)
    (tx : T.touches x.guid) (ty : T.touches y.guid)
    (fits : T.sized → (x.recounted m).Fits env s.bank.bTabs ∧
      (y.recounted n).Fits env s.bank.bTabs) :
    Edits env T s.store (changeItem (changeItem s i (x.recounted m)) k (y.recounted n)).store := by
  have own' : (changeItem s i (x.recounted m)).bank.Owned := by
    intro z mem
    rcases List.mem_or_eq_of_mem_set mem with old | rfl
    · exact own z old
    · exact own x (List.mem_of_getElem? hx)
  have hy' := changeItem_get_ne (x := x.recounted m) ne hy
  exact (recount_edit m own hx tx fun h => (fits h).1).one.tail
    (recount_edit n own' hy' ty fun h => (fits h).2)

theorem move_edits {s : Session} {tab fromSlot toSlot : UInt32} {i : Nat} {sItem : BankItem}
    {dest : Option (Nat × BankItem)}
    (valid : (ItemAction.move tab fromSlot toSlot i sItem dest).Valid s) (own : s.bank.Owned)
    (touched : ∀ x ∈ s.bank.bItems, x.tab = tab → x.slot = fromSlot ∨ x.slot = toSlot →
      T.touches x.guid)
    (small : T.sized → SmallLimits env)
    (fits : T.sized → ∀ x ∈ s.bank.bItems, x.Fits env s.bank.bTabs) :
    Edits env T s.store (moveItemTo s tab fromSlot toSlot i sItem dest).store := by
  obtain ⟨-, -, inTab, differ, found, atDest⟩ := valid
  obtain ⟨atTab, atSlot⟩ := getItem_place found
  have there := getItem_get found
  have mem := List.mem_of_getElem? there
  have source := touched sItem mem atTab (.inl atSlot)
  obtain ⟨rfl, answers⟩ | ⟨k, dItem, rfl, step⟩ :=
    moveItemTo_cases s tab fromSlot toSlot i sItem dest
  · refine Relation.ReflTransGen.trans (Edit.one ?_) answers.edits
    refine .put there rfl (own sItem mem) rfl source ⟨rfl, .inr ?_⟩ fun h =>
      moved_fits (fits h sItem mem) inTab
    change getItem s.bank sItem.tab toSlot = none
    rw [atTab, atDest]
  obtain ⟨atTab', atSlot'⟩ := getItem_place atDest
  have there' := getItem_get atDest
  have mem' := List.mem_of_getElem? there'
  have target := touched dItem mem' atTab' (.inr atSlot')
  have ne : i ≠ k := getItem_ne differ found atDest
  obtain ⟨merge, whole, answers⟩ | ⟨merge, part, answers⟩ | ⟨-, p, done⟩ := step
  · refine Relation.ReflTransGen.trans ?_ answers.edits
    refine (recount_edit (sItem.count + dItem.count) own there' target fun h => ?_).one.tail ?_
    · have limit := limit_eq (fits h _ mem) (fits h _ mem') merge.1
      have bound := count_lt_of_sized (small h) (fits h _ mem)
      have positive := (fits h _ mem).count
      have positive' := (fits h _ mem').count
      refine recounted_fits (fits h _ mem') ?_
      rw [UInt32.le_iff_toNat_le, UInt32.toNat_add] at whole
      rw [UInt32.toNat_add]
      omega
    · have gone := changeItem_get_ne (x := dItem.recounted (sItem.count + dItem.count)) ne.symm
        there
      have erased : Edit env T (changeItem s k (dItem.recounted (sItem.count + dItem.count))).store
        _ := .erase gone
      simpa [Session.store, changeItem, deleteItem, pushUpdate, writeItem, List.eraseIdx_set_eq]
        using erased
  · refine Relation.ReflTransGen.trans ?_ answers.edits
    refine recountTwo_edits ne own there there' source target fun h => ?_
    have limit := limit_eq (fits h _ mem) (fits h _ mem') merge.1
    have bound := count_lt_of_sized (small h) (fits h _ mem)
    have amount := (fits h _ mem).count
    have amount' := (fits h _ mem').count
    have room := UInt32.toNat_sub_of_le sItem.maxStackSize dItem.count
      (UInt32.le_iff_toNat_le.mpr (by omega))
    rw [UInt32.le_iff_toNat_le, UInt32.toNat_add] at part
    have left := UInt32.toNat_sub_of_le sItem.count (sItem.maxStackSize - dItem.count)
      (UInt32.le_iff_toNat_le.mpr (by omega))
    refine ⟨recounted_fits (fits h _ mem) ?_, recounted_fits (fits h _ mem') ?_⟩
    · omega
    · omega
  · rw [done]
    refine Relation.ReflTransGen.tail (Edit.one ?_) saveToDB_edit
    have trade : Edit env T s.store _ := .exchange ne there there' source target
      (atTab.trans atTab'.symm)
    rw [atSlot, atSlot'] at trade
    exact trade

theorem splitEmpty_edits {s : Session} {tab fromSlot toSlot split : UInt32} {i : Nat}
    {sItem : BankItem}
    (valid : (ItemAction.splitEmpty tab fromSlot toSlot split i sItem).Valid s)
    (own : s.bank.Owned) (touched : T.touches sItem.guid)
    (room : T.room → ∀ x ∈ s.bank.bItems, x.guid ≠ 4294967295)
    (small : T.sized → SmallLimits env)
    (fits : T.sized → sItem.Fits env s.bank.bTabs ∧ split ≠ 0) :
    Edits env T s.store (splitToEmpty s toSlot split i sItem).store := by
  obtain ⟨-, -, inTab, differ, -, found, free⟩ := valid
  have there := getItem_get found
  have mem := List.mem_of_getElem? there
  obtain ⟨atTab, -⟩ := getItem_place found
  obtain answers | ⟨less, positive, p, done⟩ := splitToEmpty_cases s toSlot split i sItem
  · exact answers.edits
  rw [done]
  have count : (sItem.count.toInt32 - split.toInt32).toUInt32 = sItem.count - split := rfl
  rw [count]
  refine Relation.ReflTransGen.tail ?_ saveToDB_edit
  -- the source stays positive as an `int32`, so nothing wraps
  have amounts : T.sized → (sItem.count - split).toNat = sItem.count.toNat - split.toNat ∧
      split.toNat < sItem.count.toNat := by
    intro h
    have bound := count_lt_of_sized (small h) (fits h).1
    have top := (fits h).1.count
    have cast : sItem.count.toInt32 - split.toInt32 = (sItem.count - split).toInt32 := rfl
    rw [cast] at positive
    have signed : ¬ (sItem.count - split).toInt32 < 0 := Int32.not_lt.mpr (Int32.le_of_lt positive)
    rw [toInt32_neg_iff, UInt32.toNat_sub] at signed
    have nonzero : sItem.count - split ≠ 0 := by
      intro zero
      rw [zero] at positive
      exact absurd positive (by decide)
    have := toNat_ne_zero nonzero
    rw [UInt32.toNat_sub] at this ⊢
    rw [UInt32.lt_iff_toNat_lt] at less
    omega
  refine (recount_edit (sItem.count - split) own there touched fun h => ?_).one.tail ?_
  · have := amounts h
    have := (fits h).1.count
    exact recounted_fits (fits h).1 (by omega)
  · have place := getItem_writeItem (s := s) found (y := sItem.recounted (sItem.count - split)) rfl
      rfl toSlot
    rw [if_neg (Ne.symm differ), free] at place
    refine .add rfl ⟨rfl, (own _ mem).2⟩ ?_ (fun h y hy => ?_) fun h => ?_
    · change getItem _ sItem.tab toSlot = none
      rw [atTab]
      exact place
    · refine getNewGuid_fresh (fun z hz => ?_) y hy
      rcases List.mem_or_eq_of_mem_set hz with old | rfl
      · exact room h z old
      · exact room h sItem mem
    · have := amounts h
      have old := (fits h).1
      have := old.count
      exact ⟨old.tab, inTab, ⟨Nat.pos_of_ne_zero (toNat_ne_zero (fits h).2), by
        change split.toNat ≤ sItem.maxStackSize.toNat
        omega⟩, old.limit⟩

theorem splitStack_edits {s : Session} {tab fromSlot toSlot split : UInt32} {i k : Nat}
    {sItem dItem : BankItem}
    (valid : (ItemAction.splitStack tab fromSlot toSlot split i sItem k dItem).Valid s)
    (own : s.bank.Owned) (tx : T.touches sItem.guid) (ty : T.touches dItem.guid)
    (fits : T.sized → sItem.Fits env s.bank.bTabs ∧ dItem.Fits env s.bank.bTabs) :
    Edits env T s.store (splitToStack s split i sItem k dItem).store := by
  obtain ⟨-, -, -, differ, -, found, found'⟩ := valid
  obtain ⟨-, answers⟩ | ⟨⟨-, le', positive, le, positive', -⟩, answers⟩ :=
    splitToStack_cases s split i sItem k dItem
  · exact answers.edits
  · refine Relation.ReflTransGen.trans ?_ answers.edits
    refine recountTwo_edits (getItem_ne differ found found') own (getItem_get found)
      (getItem_get found') tx ty fun h => ⟨recounted_fits (fits h).1 ?_,
        recounted_fits (fits h).2 ?_⟩
    · exact ⟨Nat.pos_of_ne_zero (toNat_ne_zero positive), UInt32.le_iff_toNat_le.mp le⟩
    · exact ⟨Nat.pos_of_ne_zero (toNat_ne_zero positive'), UInt32.le_iff_toNat_le.mp le'⟩

end Actions

theorem depositOnto_fits {env : Env} {s : Session} {pItem : Item} {count : UInt32}
    {dItem : BankItem} (small : SmallLimits env) (old : dItem.Fits env s.bank.bTabs)
    (sized : Item.Sized env pItem) (same : dItem.itemTemplate = pItem.proto.itemId)
    (amount : count.toNat ≤ 255 ∧ dItem.count + count ≤ dItem.maxStackSize ∨
      1 < dItem.maxStackSize.toNat ∧ count = dItem.maxStackSize - dItem.count) :
    (restackedItem env s.bank dItem pItem count true).Fits env s.bank.bTabs := by
  obtain ⟨byte, le⟩ | ⟨-, rfl⟩ := amount
  · refine restacked_fits old sized.1 ?_
    have limit : pItem.getMaxStackCount.toNat = dItem.maxStackSize.toNat := by
      rw [sized.1, old.limit, same]
    have bound := count_lt_of_sized small old
    obtain ⟨positive, top⟩ := old.count
    rw [UInt32.le_iff_toNat_le, UInt32.toNat_add] at le
    change 1 ≤ (dItem.count + count).toNat ∧ (dItem.count + count).toNat ≤ _
    rw [UInt32.toNat_add]
    omega
  · exact topUp_fits old sized same

theorem perform_edits {env : Env} {s : Session} {a : ItemAction} (valid : a.Valid s)
    (own : s.bank.Owned) :
    Edits env (a.terms env s) s.store (a.perform env s).store := by
  have found : ∀ {tab slot : UInt32} {i : Nat} {x : BankItem},
      getItem s.bank tab slot = some (i, x) → x ∈ s.bank.bItems :=
    fun h => List.mem_of_getElem? (getItem_get h)
  cases a with
  | depositFree tab j pItem =>
      obtain ⟨onTab, carries⟩ := valid
      refine depositFree_edits freeSlotFuel carries.get ⟨own, ?_, fun h => h, fun h => ?_, ?_⟩
      · intro x mem atTab entry
        exact ⟨x, mem, rfl, atTab, entry⟩
      · exact ⟨h.1, h.2.1⟩
      · intro h
        obtain ⟨-, -, low, sized, positive⟩ := h
        exact ⟨⟨onTab.1, UInt32.le_iff_toNat_le.mp low⟩, sized, positive⟩
  | depositNew tab slot j pItem count =>
      obtain ⟨onTab, inTab, -, -, le, free⟩ := valid
      refine depositNew_edits free (fun h => h) fun h => ?_
      obtain ⟨-, -, low, sized, positive⟩ := h
      exact deposited_fits ⟨onTab.1, UInt32.le_iff_toNat_le.mp low⟩ inTab sized.1 positive le
  | depositOnto tab slot j pItem count i dItem =>
      obtain ⟨-, -, -, there, same, amount⟩ := valid
      refine depositChanged_edits own there ⟨dItem, found there, rfl, getItem_place there⟩
        fun h => ?_
      obtain ⟨small, fits, sized⟩ := h
      exact depositOnto_fits small (fits dItem (found there)) sized same amount
  | withdraw tab slot count bag bagSlot i bItem pItem remainer =>
      have there := valid.2.2.1
      exact withdraw_edits valid own ⟨bItem, found there, rfl, getItem_place there⟩
        (fun h => h.2.1 bItem (found there)) fun h => h.2.2
  | swap j pItem i bItem =>
      have there := valid.2.2.2
      exact swap_edits there own ⟨bItem, found there, rfl, rfl, rfl⟩
        (fun h => ⟨h.2.1 bItem (found there), h.2.2⟩) fun first second => ⟨first, second⟩
  | move tab fromSlot toSlot i sItem dest =>
      exact move_edits valid own (fun x mem atTab atSlot => ⟨x, mem, rfl, atTab, atSlot⟩)
        (fun h => h.1) fun h => h.2.1
  | splitEmpty tab fromSlot toSlot split i sItem =>
      have there := valid.2.2.2.2.2.1
      exact splitEmpty_edits valid own ⟨sItem, found there, rfl, getItem_place there⟩
        (fun h => h) (fun h => h.1) fun h => ⟨h.2.1 sItem (found there), h.2.2⟩
  | splitStack tab fromSlot toSlot split i sItem k dItem =>
      obtain ⟨-, -, -, -, -, there, there'⟩ := id valid
      refine splitStack_edits valid own ?_ ?_ fun h =>
        ⟨h.2.1 sItem (found there), h.2.1 dItem (found there')⟩
      · exact ⟨sItem, found there, rfl, (getItem_place there).1, .inl (getItem_place there).2⟩
      · exact ⟨dItem, found there', rfl, (getItem_place there').1, .inr (getItem_place there').2⟩

theorem Session.Quiet.bTabs {s s' : Session} (h : s.Quiet s') :
    s'.bank.bTabs = s.bank.bTabs := by
  obtain ⟨s₁, aside, rfl | rfl⟩ := h
  · exact aside.bTabs
  · exact (saveToDB_bTabs s₁).trans aside.bTabs

def handlerTerms (env : Env) (msg : CString) (s : Session) (h : Handler) : Terms :=
  match itemAction env msg s h with
  | some a => a.terms env s
  | none =>
      { touches := fun _ => False
        room := True
        sized := True
        swaps := False
        tabs := fun n =>
          h = .unlockTab ∧ ∃ tab, acceptedTab s msg = some tab ∧ n = tab.toUInt32 }

theorem unlockTab_edits {env : Env} {T : Terms} {s : Session} {msg : CString}
    (paid : ∀ tab, acceptedTab s msg = some tab → T.tabs tab.toUInt32) :
    Edits env T s.store (unlockTab s msg).store := by
  cases accepted : acceptedTab s msg with
  | none => exact (unlockTab_refused accepted).edits
  | some tab =>
      obtain ⟨tabs, quiet⟩ := unlockTab_quiet s msg
      have set : tab.toUInt32 = tabs :=
        (unlockTab_accepted accepted).2.2.2.symm.trans quiet.bTabs
      refine Relation.ReflTransGen.head (.tabs (n := tabs) ?_) quiet.edits
      rw [← set]
      exact paid tab accepted

theorem handle_edits {env : Env} {msg : CString} {s : Session} {h : Handler}
    (own : s.bank.Owned) :
    Edits env (handlerTerms env msg s h) s.store (handle env msg s h).store := by
  cases item : h.isItem with
  | true =>
      have performs := handle_performs item env msg s
      unfold handlerTerms
      cases act : itemAction env msg s h with
      | none =>
          rw [act] at performs
          exact performs.edits
      | some a =>
          rw [act] at performs
          rw [show handle env msg s h = a.perform env s from performs]
          exact perform_edits (itemAction_valid act) own
  | false =>
      by_cases tab : h = .unlockTab
      · subst tab
        exact unlockTab_edits fun tab accepted => ⟨rfl, tab, accepted, rfl⟩
      · exact (handle_quiet item tab env msg s).edits

end TortoiseWow.GuildBank
