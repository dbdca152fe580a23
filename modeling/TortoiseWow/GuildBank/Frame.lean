import TortoiseWow.GuildBank.Dispatch

/-!
What the helpers leave alone. Sending touches nothing the bank reads, logging
touches the logs, and saving touches the table, the pending flags and the state
tags of the items: the contents of the bank are its items without those tags.
-/

namespace TortoiseWow.GuildBank

open Lib

section Send

variable (s : Session) (p : Packet)

@[simp] theorem send_bank : (send s p).bank = s.bank := rfl
@[simp] theorem send_player : (send s p).player = s.player := rfl
@[simp] theorem send_db : (send s p).db = s.db := rfl
@[simp] theorem send_time : (send s p).time = s.time := rfl

/-- The session changed in nothing but what was sent: the answer of a refused command. -/
def Session.Answers (s s' : Session) : Prop := ∃ out, s' = { s with out := out }

theorem answers_refl : s.Answers s := ⟨s.out, rfl⟩

theorem answers_send : s.Answers (send s p) := ⟨_, rfl⟩

theorem answers_refuse (notice : String × String) : s.Answers (refuse s notice) := ⟨_, rfl⟩

theorem Session.Answers.trans {s s' s'' : Session} (h : s.Answers s') (h' : s'.Answers s'') :
    s.Answers s'' := by
  obtain ⟨out, rfl⟩ := h
  obtain ⟨out', rfl⟩ := h'
  exact ⟨out', rfl⟩

end Send

section Setters

variable (s : Session)

@[simp] theorem modifyBank_bank (f : Bank → Bank) : (modifyBank s f).bank = f s.bank := rfl
@[simp] theorem modifyBank_player (f : Bank → Bank) : (modifyBank s f).player = s.player := rfl
@[simp] theorem modifyBank_db (f : Bank → Bank) : (modifyBank s f).db = s.db := rfl

@[simp] theorem setMoney_bank (m : UInt32) : (setMoney s m).bank = s.bank := rfl
@[simp] theorem setMoney_db (m : UInt32) : (setMoney s m).db = s.db := rfl
@[simp] theorem setMoney_money (m : UInt32) : (setMoney s m).player.money = m := rfl

@[simp] theorem setBags_bank (bags : List Item) : (setBags s bags).bank = s.bank := rfl
@[simp] theorem setBags_db (bags : List Item) : (setBags s bags).db = s.db := rfl
@[simp] theorem setBags_time (bags : List Item) : (setBags s bags).time = s.time := rfl

@[simp] theorem grant_player (g : Grant) : (grant s g).player = s.player := rfl

end Setters

theorem sendTabWithdrawalsLeft_eq (env : Env) (s : Session) (tab : UInt8) :
    ∃ p, sendTabWithdrawalsLeft env s tab = send s p := by
  simp only [sendTabWithdrawalsLeft]
  split_ifs
  · exact ⟨_, rfl⟩
  · exact ⟨_, rfl⟩
  · exact ⟨_, rfl⟩

theorem logAction_eq (s : Session) (action : GuildBankAction) (tab itemID count : UInt32)
    (bItem : Option BankItem) :
    logAction s action tab itemID count bItem = s ∨
      ∃ (p : Packet) (moneyLog : List MoneyLog) (log : UInt32 → List BankLog) (m l : Bool),
        logAction s action tab itemID count bItem =
          send (modifyBank s fun b => { b with
            bMoneyLog := moneyLog, bLog := log, bMoneyLogChanged := m, bLogChanged := l }) p := by
  unfold logAction
  split_ifs
  · exact .inl rfl
  · exact .inr ⟨_, _, _, _, _, rfl⟩
  · exact .inr ⟨_, _, _, _, _, rfl⟩

section Log

variable (s : Session) (action : GuildBankAction) (tab itemID count : UInt32)
  (bItem : Option BankItem)

@[simp] theorem logAction_bItems :
    (logAction s action tab itemID count bItem).bank.bItems = s.bank.bItems := by
  obtain h | ⟨_, _, _, _, _, h⟩ := logAction_eq s action tab itemID count bItem <;> rw [h]; rfl

@[simp] theorem logAction_queue :
    (logAction s action tab itemID count bItem).bank.bItemUpdateQueue =
      s.bank.bItemUpdateQueue := by
  obtain h | ⟨_, _, _, _, _, h⟩ := logAction_eq s action tab itemID count bItem <;> rw [h]; rfl

@[simp] theorem logAction_bTabs :
    (logAction s action tab itemID count bItem).bank.bTabs = s.bank.bTabs := by
  obtain h | ⟨_, _, _, _, _, h⟩ := logAction_eq s action tab itemID count bItem <;> rw [h]; rfl

@[simp] theorem logAction_bMoney :
    (logAction s action tab itemID count bItem).bank.bMoney = s.bank.bMoney := by
  obtain h | ⟨_, _, _, _, _, h⟩ := logAction_eq s action tab itemID count bItem <;> rw [h]; rfl

@[simp] theorem logAction_guildid :
    (logAction s action tab itemID count bItem).bank.guildid = s.bank.guildid := by
  obtain h | ⟨_, _, _, _, _, h⟩ := logAction_eq s action tab itemID count bItem <;> rw [h]; rfl

@[simp] theorem logAction_bInfernoBank :
    (logAction s action tab itemID count bItem).bank.bInfernoBank = s.bank.bInfernoBank := by
  obtain h | ⟨_, _, _, _, _, h⟩ := logAction_eq s action tab itemID count bItem <;> rw [h]; rfl

@[simp] theorem logAction_bSaveLock :
    (logAction s action tab itemID count bItem).bank.bSaveLock = s.bank.bSaveLock := by
  obtain h | ⟨_, _, _, _, _, h⟩ := logAction_eq s action tab itemID count bItem <;> rw [h]; rfl

@[simp] theorem logAction_player :
    (logAction s action tab itemID count bItem).player = s.player := by
  obtain h | ⟨_, _, _, _, _, h⟩ := logAction_eq s action tab itemID count bItem <;> rw [h]; rfl

@[simp] theorem logAction_db : (logAction s action tab itemID count bItem).db = s.db := by
  obtain h | ⟨_, _, _, _, _, h⟩ := logAction_eq s action tab itemID count bItem <;> rw [h]; rfl

end Log

section Deposit

variable {env : Env} {again : Session → Session} {s : Session} {tab slot : UInt32} {j : Nat}
  {pItem : Item} {count remainer : UInt32} {stack : Bool}

theorem depositItemInSlot_new :
    depositItemInSlot env again s tab slot j pItem count remainer .itemNew stack =
      finishDeposit
        (payBag again
          (addItem (pushUpdate s (depositedItem env s.bank tab slot pItem count))
            (depositedItem env s.bank tab slot pItem count)) j pItem count remainer)
        s.bank.bItems.length (depositedItem env s.bank tab slot pItem count) count := by
  unfold depositItemInSlot
  rw [if_pos rfl]

theorem depositItemInSlot_changed {i : Nat} {dItem : BankItem}
    (there : getItem s.bank tab slot = some (i, dItem)) :
    depositItemInSlot env again s tab slot j pItem count remainer .itemChanged stack =
      finishDeposit
        (payBag again
          (pushUpdate (writeItem s (some i) (restackedItem env s.bank dItem pItem count stack))
            (restackedItem env s.bank dItem pItem count stack)) j pItem count remainer)
        i (restackedItem env s.bank dItem pItem count stack) count := by
  unfold depositItemInSlot
  rw [if_neg (by decide), there]

end Deposit

section Withdraw

def takenItem (bItem : BankItem) (left remainer : UInt32) : BankItem :=
  if remainer = 0 then { bItem with state := .itemRemoved }
  else { bItem with count := left, state := .itemChanged }

variable (s : Session) (bankTab bankSlot : UInt32) (ref : Option Nat) (bItem : BankItem)
  (left remainer : UInt32) (swap : Bool)

theorem takeFromBank_item :
    (takeFromBank s bankTab bankSlot ref bItem left remainer swap).2 =
      takenItem bItem left remainer := by
  simp only [takeFromBank, takenItem]
  split_ifs <;> rfl

theorem takeFromBank_answers :
    (pushUpdate (writeItem s ref (takenItem bItem left remainer))
        (takenItem bItem left remainer)).Answers
      (takeFromBank s bankTab bankSlot ref bItem left remainer swap).1 := by
  simp only [takeFromBank, takenItem]
  split_ifs
  · exact answers_refl _
  · exact answers_send _ _
  · exact answers_send _ _

def noteWithdraw (s : Session) (count : UInt32) (bItem : BankItem) : Session :=
  logAction
    (grant s { player := s.player.guid, tab := bItem.tab, itemTemplate := bItem.itemTemplate,
               count := count })
    .withdrawItem bItem.tab bItem.itemTemplate count (some bItem)

/-- The session when a withdrawal has been recorded, before its last message. -/
def recordWithdraw (s : Session) (count : UInt32) (ref : Option Nat) (bItem : BankItem) :
    Session :=
  if bItem.state = .itemRemoved then deleteItem (noteWithdraw s count bItem) ref
  else noteWithdraw s count bItem

theorem finishWithdraw_answers (env : Env) (count : UInt32) :
    (recordWithdraw s count ref bItem).Answers
      (finishWithdraw env s bankTab count ref bItem) := by
  obtain ⟨p, sent⟩ := sendTabWithdrawalsLeft_eq env (recordWithdraw s count ref bItem)
    bankTab.toUInt8
  have unfolded : finishWithdraw env s bankTab count ref bItem =
    sendTabWithdrawalsLeft env (recordWithdraw s count ref bItem) bankTab.toUInt8 := rfl
  rw [unfolded, sent]
  exact answers_send _ p

theorem takeFromBank_setBags (bags : List Item) :
    (takeFromBank (setBags s bags) bankTab bankSlot ref bItem left remainer swap).1 =
      setBags (takeFromBank s bankTab bankSlot ref bItem left remainer swap).1 bags := by
  simp only [takeFromBank]
  cases ref <;> split_ifs <;> rfl

theorem withdrawItemTo_cases (env : Env) (count playerBag playerSlot : UInt32)
    (pItem : Option (Nat × Item)) :
    let s' := withdrawItemTo env s bankTab bankSlot count playerBag playerSlot ref bItem pItem
      remainer swap
    let answer := env.storage.canStoreNewItem s.player.bags playerBag.toUInt8
      playerSlot.toUInt8 bItem.itemTemplate count
    answer.1 ≠ .equipErrOk ∧ s.Answers s' ∨
    answer.1 = .equipErrOk ∧
      ((∃ j item, pItem = some (j, item) ∧
        s' = saveToDB (finishWithdraw env
          (setBags
            (takeFromBank s bankTab bankSlot ref bItem (bItem.count - count) remainer swap).1
            (setCount s.player.bags j item (item.count + count)))
          bankTab count ref (takenItem bItem (bItem.count - count) remainer))) ∨
      pItem = none ∧
        ((∃ bags j item, bags[j]? = some item ∧
          (∀ e, bagCopies bags e = bagCopies s.player.bags e +
            if bItem.itemTemplate = e then count.toNat else 0) ∧
          s' = saveToDB (finishWithdraw env
            (setBags (takeFromBank s bankTab bankSlot ref bItem remainer remainer swap).1
              (bags.set j (cloneIntoBag s.player.guid item bItem)))
            bankTab count ref (takenItem bItem remainer remainer))) ∨
        count = 0 ∧ s' = saveToDB s)) := by
  intro s' answer
  have unfolded : s' = withdrawItemTo env s bankTab bankSlot count playerBag playerSlot ref bItem
    pItem remainer swap := rfl
  simp only [withdrawItemTo] at unfolded
  cases ok : env.storage.canStoreNewItem s.player.bags playerBag.toUInt8 playerSlot.toUInt8
      bItem.itemTemplate count with
  | mk result dest =>
      rw [ok] at unfolded
      have first : answer.1 = result := congrArg Prod.fst ok
      rw [first]
      cases result with
      | equipErrInventoryFull =>
          refine .inl ⟨by simp, ?_⟩
          rw [unfolded]
          exact answers_send s _
      | equipErr code =>
          refine .inl ⟨by simp, ?_⟩
          rw [unfolded]
          exact answers_send s _
      | equipErrOk =>
          refine .inr ⟨rfl, ?_⟩
          cases pItem with
          | some r =>
              obtain ⟨j, item⟩ := r
              refine .inl ⟨j, item, rfl, ?_⟩
              rw [unfolded, takeFromBank_item]
              obtain ⟨out, taken⟩ := takeFromBank_answers s bankTab bankSlot ref bItem
                (bItem.count - count) remainer swap
              rw [taken]
              cases ref <;> rfl
          | none =>
              refine .inr ⟨rfl, ?_⟩
              dsimp only at unfolded
              cases stored : env.storage.storeNewItem s.player.bags dest bItem.itemTemplate
                  (env.generateItemRandomPropertyId bItem.itemTemplate) with
              | none =>
                  rw [stored] at unfolded
                  exact .inr ⟨env.storage.nothing_only_for_zero _ _ _ _ _ _ _ ok stored,
                    unfolded⟩
              | some r =>
                  obtain ⟨bags, j⟩ := r
                  obtain ⟨⟨item, there⟩, gained⟩ :=
                    env.storage.stores_count _ _ _ _ _ _ _ _ _ ok stored
                  rw [stored] at unfolded
                  refine .inl ⟨bags, j, item, there, gained, ?_⟩
                  rw [unfolded]
                  dsimp only
                  rw [takeFromBank_item, there, takeFromBank_setBags]

end Withdraw

def BankItem.moved (x : BankItem) (slot : UInt32) : BankItem :=
  { x with slot := slot, state := .itemChanged }

def BankItem.recounted (x : BankItem) (count : UInt32) : BankItem :=
  { x with count := count, state := .itemChanged }

def BankItem.removed (x : BankItem) : BankItem := { x with state := .itemRemoved }

section Fields

variable (x : BankItem) (n : UInt32)

@[simp] theorem moved_itemTemplate : (x.moved n).itemTemplate = x.itemTemplate := rfl
@[simp] theorem moved_count : (x.moved n).count = x.count := rfl
@[simp] theorem recounted_itemTemplate : (x.recounted n).itemTemplate = x.itemTemplate := rfl
@[simp] theorem recounted_count : (x.recounted n).count = n := rfl
@[simp] theorem removed_itemTemplate : x.removed.itemTemplate = x.itemTemplate := rfl
@[simp] theorem removed_count : x.removed.count = x.count := rfl

end Fields

def splitOff (b : Bank) (x : BankItem) (toSlot split : UInt32) : BankItem :=
  { cloneBankItem b x with slot := toSlot, count := split, state := .itemNew }

def mergeable (sItem dItem : BankItem) : Prop :=
  sItem.itemTemplate = dItem.itemTemplate ∧
    ¬ (sItem.count = sItem.maxStackSize ∨ dItem.count = dItem.maxStackSize)

theorem moveItemTo_cases (s : Session) (tab fromSlot toSlot : UInt32) (i : Nat)
    (sItem : BankItem) (dest : Option (Nat × BankItem)) :
    let s' := moveItemTo s tab fromSlot toSlot i sItem dest
    (dest = none ∧ (changeItem s i (sItem.moved toSlot)).Answers s') ∨
    ∃ k dItem, dest = some (k, dItem) ∧
      (mergeable sItem dItem ∧ sItem.count + dItem.count ≤ sItem.maxStackSize ∧
          (deleteItem (pushUpdate (writeItem
              (changeItem s k (dItem.recounted (sItem.count + dItem.count))) (some i)
              sItem.removed) sItem.removed) (some i)).Answers s' ∨
        mergeable sItem dItem ∧ ¬ sItem.count + dItem.count ≤ sItem.maxStackSize ∧
          (changeItem (changeItem s i
            (sItem.recounted (sItem.count - (sItem.maxStackSize - dItem.count)))) k
            (dItem.recounted dItem.maxStackSize)).Answers s' ∨
        ¬ mergeable sItem dItem ∧
          ∃ p, s' = saveToDB (send
            (changeItem (changeItem s i (sItem.moved toSlot)) k (dItem.moved fromSlot)) p)) := by
  intro s'
  have unfolded : s' = moveItemTo s tab fromSlot toSlot i sItem dest := rfl
  simp only [moveItemTo] at unfolded
  cases dest with
  | none =>
      refine .inl ⟨rfl, ?_⟩
      rw [unfolded]
      exact answers_send _ _
  | some r =>
      obtain ⟨k, dItem⟩ := r
      refine .inr ⟨k, dItem, rfl, ?_⟩
      dsimp only at unfolded
      by_cases merge : sItem.itemTemplate = dItem.itemTemplate ∧
          ¬ (sItem.count = sItem.maxStackSize ∨ dItem.count = dItem.maxStackSize)
      · rw [if_pos merge] at unfolded
        by_cases fits : sItem.count + dItem.count ≤ sItem.maxStackSize
        · rw [if_pos fits] at unfolded
          refine .inl ⟨merge, fits, ?_⟩
          rw [unfolded]
          exact answers_send _ _
        · rw [if_neg fits] at unfolded
          refine .inr (.inl ⟨merge, fits, ?_⟩)
          rw [unfolded]
          exact answers_send _ _
      · rw [if_neg merge] at unfolded
        exact .inr (.inr ⟨merge, _, unfolded⟩)

theorem splitToEmpty_cases (s : Session) (toSlot split : UInt32) (i : Nat) (sItem : BankItem) :
    let s' := splitToEmpty s toSlot split i sItem
    let x := sItem.recounted (sItem.count.toInt32 - split.toInt32).toUInt32
    let y := splitOff (changeItem s i x).bank x toSlot split
    s.Answers s' ∨
    split < sItem.maxStackSize ∧ 0 < sItem.count.toInt32 - split.toInt32 ∧
      ∃ p, s' = saveToDB (send (addItem (pushUpdate (changeItem s i x) y) y) p) := by
  intro s' x y
  have unfolded : s' = splitToEmpty s toSlot split i sItem := rfl
  simp only [splitToEmpty] at unfolded
  by_cases big : split ≥ sItem.maxStackSize
  · rw [if_pos big] at unfolded
    rw [unfolded]
    exact .inl (answers_send s _)
  · rw [if_neg big] at unfolded
    by_cases empty : sItem.count.toInt32 - split.toInt32 ≤ 0
    · rw [if_pos empty] at unfolded
      rw [unfolded]
      exact .inl (answers_send s _)
    · rw [if_neg empty] at unfolded
      exact .inr ⟨UInt32.not_le.mp big, Int32.not_le.mp empty, _, unfolded⟩

def splitPasses (sItem dItem : BankItem) (split : UInt32) : Prop :=
  sItem.itemTemplate = dItem.itemTemplate ∧ dItem.count + split ≤ dItem.maxStackSize ∧
    sItem.count - split ≠ 0 ∧ sItem.count - split ≤ sItem.maxStackSize ∧
    dItem.count + split ≠ 0 ∧ dItem.count + split ≤ sItem.maxStackSize

theorem splitToStack_cases (s : Session) (split : UInt32) (i : Nat) (sItem : BankItem) (k : Nat)
    (dItem : BankItem) :
    let s' := splitToStack s split i sItem k dItem
    ¬ splitPasses sItem dItem split ∧ s.Answers s' ∨
    splitPasses sItem dItem split ∧
      (changeItem (changeItem s i (sItem.recounted (sItem.count - split))) k
        (dItem.recounted (dItem.count + split))).Answers s' := by
  intro s'
  have unfolded : s' = splitToStack s split i sItem k dItem := rfl
  simp only [splitToStack] at unfolded
  by_cases same : sItem.itemTemplate = dItem.itemTemplate
  swap
  · rw [if_neg same] at unfolded
    rw [unfolded]
    exact .inl ⟨fun pass => same pass.1, answers_send s _⟩
  rw [if_pos same] at unfolded
  by_cases fits : dItem.count + split ≤ dItem.maxStackSize
  swap
  · rw [if_neg fits] at unfolded
    rw [unfolded]
    exact .inl ⟨fun pass => fits pass.2.1, answers_send s _⟩
  rw [if_pos fits] at unfolded
  by_cases sourceZero : sItem.count - split = 0
  · rw [if_pos sourceZero] at unfolded
    rw [unfolded]
    exact .inl ⟨fun pass => pass.2.2.1 sourceZero, answers_send s _⟩
  rw [if_neg sourceZero] at unfolded
  by_cases sourceBad : sItem.count - split > sItem.maxStackSize
  · rw [if_pos sourceBad] at unfolded
    rw [unfolded]
    exact .inl ⟨fun pass => UInt32.not_le.mpr sourceBad pass.2.2.2.1, answers_send s _⟩
  rw [if_neg sourceBad] at unfolded
  by_cases destZero : dItem.count + split = 0
  · rw [if_pos destZero] at unfolded
    rw [unfolded]
    exact .inl ⟨fun pass => pass.2.2.2.2.1 destZero, answers_send s _⟩
  rw [if_neg destZero] at unfolded
  by_cases destBad : dItem.count + split > sItem.maxStackSize
  · rw [if_pos destBad] at unfolded
    rw [unfolded]
    exact .inl ⟨fun pass => UInt32.not_le.mpr destBad pass.2.2.2.2.2, answers_send s _⟩
  rw [if_neg destBad] at unfolded
  refine .inr ⟨⟨same, fits, sourceZero, UInt32.not_lt.mp sourceBad, destZero,
    UInt32.not_lt.mp destBad⟩, ?_⟩
  rw [unfolded]
  exact answers_send _ _

def Bank.contents (b : Bank) : List BankItem := b.bItems.map BankItem.settled

theorem saveBank_eq (b : Bank) (db : CharacterDatabase) :
    (saveBank b db).1 = b ∨ (saveBank b db).1 = b.saved := by
  unfold saveBank
  split_ifs <;> simp

section Save

variable (b : Bank) (db : CharacterDatabase)

@[simp] theorem saveBank_bTabs : (saveBank b db).1.bTabs = b.bTabs := by
  obtain h | h := saveBank_eq b db <;> rw [h]; rfl

@[simp] theorem saveBank_bMoney : (saveBank b db).1.bMoney = b.bMoney := by
  obtain h | h := saveBank_eq b db <;> rw [h]; rfl

@[simp] theorem saveBank_guildid : (saveBank b db).1.guildid = b.guildid := by
  obtain h | h := saveBank_eq b db <;> rw [h]; rfl

@[simp] theorem saveBank_bInfernoBank : (saveBank b db).1.bInfernoBank = b.bInfernoBank := by
  obtain h | h := saveBank_eq b db <;> rw [h]; rfl

@[simp] theorem saveBank_bSaveLock : (saveBank b db).1.bSaveLock = b.bSaveLock := by
  obtain h | h := saveBank_eq b db <;> rw [h]; rfl

@[simp] theorem saveBank_contents : (saveBank b db).1.contents = b.contents := by
  obtain h | h := saveBank_eq b db <;> rw [h]
  unfold Bank.contents Bank.saved
  dsimp only
  split_ifs
  · rfl
  · rw [List.map_map]; rfl

end Save

section SaveToDB

variable (s : Session)

@[simp] theorem saveToDB_player : (saveToDB s).player = s.player := rfl
@[simp] theorem saveToDB_time : (saveToDB s).time = s.time := rfl

@[simp] theorem saveToDB_bMoney : (saveToDB s).bank.bMoney = s.bank.bMoney :=
  saveBank_bMoney s.bank s.db

@[simp] theorem saveToDB_bTabs : (saveToDB s).bank.bTabs = s.bank.bTabs :=
  saveBank_bTabs s.bank s.db

end SaveToDB

/-- What a change of money, tabs or settings leaves as it was. -/
structure Session.Aside (s s' : Session) : Prop where
  bItems : s'.bank.bItems = s.bank.bItems
  queue : s'.bank.bItemUpdateQueue = s.bank.bItemUpdateQueue
  guildid : s'.bank.guildid = s.bank.guildid
  inferno : s'.bank.bInfernoBank = s.bank.bInfernoBank
  saveLock : s'.bank.bSaveLock = s.bank.bSaveLock
  bTabs : s'.bank.bTabs = s.bank.bTabs
  bLog : s'.bank.bLog = s.bank.bLog
  bags : s'.player.bags = s.player.bags
  guid : s'.player.guid = s.player.guid
  rank : s'.player.rank = s.player.rank
  db : s'.db = s.db
  time : s'.time = s.time
  granted : s'.granted = s.granted

def Session.Quiet (s s' : Session) : Prop := ∃ s₁, s.Aside s₁ ∧ (s' = s₁ ∨ s' = saveToDB s₁)

theorem Session.Answers.aside {s s' : Session} (h : s.Answers s') : s.Aside s' := by
  obtain ⟨out, rfl⟩ := h
  exact ⟨rfl, rfl, rfl, rfl, rfl, rfl, rfl, rfl, rfl, rfl, rfl, rfl, rfl⟩

theorem Session.Answers.quiet {s s' : Session} (h : s.Answers s') : s.Quiet s' :=
  ⟨s', h.aside, .inl rfl⟩

theorem Session.Aside.trans {s s' s'' : Session} (h : s.Aside s') (h' : s'.Aside s'') :
    s.Aside s'' where
  bItems := h'.bItems.trans h.bItems
  queue := h'.queue.trans h.queue
  guildid := h'.guildid.trans h.guildid
  inferno := h'.inferno.trans h.inferno
  saveLock := h'.saveLock.trans h.saveLock
  bTabs := h'.bTabs.trans h.bTabs
  bLog := h'.bLog.trans h.bLog
  bags := h'.bags.trans h.bags
  guid := h'.guid.trans h.guid
  rank := h'.rank.trans h.rank
  db := h'.db.trans h.db
  time := h'.time.trans h.time
  granted := h'.granted.trans h.granted

theorem aside_setMoney (s : Session) (money : UInt32) : s.Aside (setMoney s money) :=
  ⟨rfl, rfl, rfl, rfl, rfl, rfl, rfl, rfl, rfl, rfl, rfl, rfl, rfl⟩

theorem aside_modifyBank {s : Session} {f : Bank → Bank}
    (items : (f s.bank).bItems = s.bank.bItems)
    (queue : (f s.bank).bItemUpdateQueue = s.bank.bItemUpdateQueue)
    (guildid : (f s.bank).guildid = s.bank.guildid)
    (inferno : (f s.bank).bInfernoBank = s.bank.bInfernoBank)
    (lock : (f s.bank).bSaveLock = s.bank.bSaveLock) (tabs : (f s.bank).bTabs = s.bank.bTabs)
    (log : (f s.bank).bLog = s.bank.bLog) : s.Aside (modifyBank s f) :=
  ⟨items, queue, guildid, inferno, lock, tabs, log, rfl, rfl, rfl, rfl, rfl, rfl⟩

theorem aside_logAction_money (s : Session) (action : GuildBankAction) (itemID count : UInt32) :
    s.Aside (logAction s action tabMoney itemID count none) := by
  have line : ∃ p f, logAction s action tabMoney itemID count none = send (modifyBank s f) p ∧
      s.Aside (modifyBank s f) := ⟨_, _, rfl, aside_modifyBank rfl rfl rfl rfl rfl rfl rfl⟩
  obtain ⟨p, f, eq, aside⟩ := line
  rw [eq]
  exact aside.trans (answers_send _ p).aside

theorem sendLines_answers (s : Session) (head : String) (entries : List String) :
    s.Answers (sendLines s head entries) := by
  unfold sendLines
  generalize packLines head.toList head.toList (entries.map String.toList) = lines
  induction lines generalizing s with
  | nil => exact answers_refl s
  | cons line lines ih => exact (answers_send s _).trans (ih _)

theorem Session.Aside.quiet {s s₁ s' : Session} (h : s.Aside s₁) (h' : s₁.Quiet s') :
    s.Quiet s' := by
  obtain ⟨s₂, aside, done⟩ := h'
  exact ⟨s₂, h.trans aside, done⟩

def setTabs (s : Session) (tabs : UInt32) : Session :=
  modifyBank s fun b => { b with bTabs := tabs }

theorem unlockTabDone_quiet (s : Session) (tab : UInt8) (cost : UInt32)
    (action : GuildBankAction) :
    (setTabs s tab.toUInt32).Quiet (unlockTabDone s tab cost action) := by
  refine ⟨_, ?_, .inr rfl⟩
  exact (answers_send _ _).aside.trans
    ((aside_logAction_money _ _ _ _).trans (aside_modifyBank rfl rfl rfl rfl rfl rfl rfl))

theorem unlockTab_quiet (s : Session) (msg : CString) :
    ∃ tabs, (setTabs s tabs).Quiet (unlockTab s msg) := by
  have refused : ∀ {s'}, s.Answers s' → ∃ tabs, (setTabs s tabs).Quiet s' := by
    intro s' answers
    exact ⟨s.bank.bTabs, answers.quiet⟩
  unfold unlockTab
  split_ifs
  · exact refused (answers_send s _)
  split
  · rename_i p1 p2 _
    unfold unlockTabFields
    dsimp only
    split_ifs
    · exact refused (answers_send s _)
    · exact refused (answers_send s _)
    · exact refused (answers_refuse s _)
    · refine ⟨(atoiUInt8 p1).toUInt32, Session.Aside.quiet ?_ (unlockTabDone_quiet _ _ _ _)⟩
      exact ⟨rfl, rfl, rfl, rfl, rfl, rfl, rfl, rfl, rfl, rfl, rfl, rfl, rfl⟩
    · exact refused ((answers_send s _).trans (answers_send _ _))
    · refine ⟨(atoiUInt8 p1).toUInt32, Session.Aside.quiet ?_ (unlockTabDone_quiet _ _ _ _)⟩
      exact ⟨rfl, rfl, rfl, rfl, rfl, rfl, rfl, rfl, rfl, rfl, rfl, rfl, rfl⟩
  · exact refused (answers_send s _)

theorem unlockTabCost_answers (s : Session) (msg : CString) :
    s.Answers (unlockTabCost s msg) := by
  unfold unlockTabCost
  split_ifs
  · exact answers_send s _
  split
  · dsimp only
    split_ifs
    · exact answers_send s _
    · exact answers_send s _
    · exact answers_send s _
  · exact answers_send s _

theorem sendTabWithdrawalsLeft_answers (env : Env) (s : Session) (tab : UInt8) :
    s.Answers (sendTabWithdrawalsLeft env s tab) := by
  obtain ⟨p, sent⟩ := sendTabWithdrawalsLeft_eq env s tab
  rw [sent]
  exact answers_send s p

theorem sendTabItems_answers (env : Env) (s : Session) (msg : CString) :
    s.Answers (sendTabItems env s msg) := by
  unfold sendTabItems
  split
  · exact (sendTabWithdrawalsLeft_answers env s _).trans (sendLines_answers _ _ _)
  · exact answers_send s _

theorem sendTabWithdrawalsLeftMsg_answers (env : Env) (s : Session) (msg : CString) :
    s.Answers (sendTabWithdrawalsLeftMsg env s msg) := by
  unfold sendTabWithdrawalsLeftMsg
  split
  · exact sendTabWithdrawalsLeft_answers env s _
  · exact answers_send s _

theorem sendTabLog_answers (s : Session) (msg : CString) : s.Answers (sendTabLog s msg) := by
  unfold sendTabLog
  split
  · dsimp only
    split_ifs
    · exact answers_send s _
    · exact sendLines_answers s _ _
  · exact answers_send s _

theorem updateTab_quiet (s : Session) (msg : CString) : s.Quiet (updateTab s msg) := by
  unfold updateTab
  split_ifs
  · exact (answers_send s _).quiet
  split
  · dsimp only
    split_ifs
    · exact (answers_send s _).quiet
    · exact (answers_send s _).quiet
    · exact (answers_send s _).quiet
    · exact (answers_send s _).quiet
    · refine ⟨_, ?_, .inr rfl⟩
      exact (aside_modifyBank rfl rfl rfl rfl rfl rfl rfl).trans (answers_send _ _).aside
  · exact (answers_send s _).quiet

theorem depositMoney_quiet (s : Session) (msg : CString) : s.Quiet (depositMoney s msg) := by
  unfold depositMoney
  split
  · split
    · unfold depositMoneyFields
      split_ifs
      · exact (answers_refuse s _).quiet
      · exact ((answers_send s _).trans (answers_send _ _)).quiet
      · refine ⟨_, ?_, .inr rfl⟩
        exact (((aside_setMoney s _).trans (aside_modifyBank rfl rfl rfl rfl rfl rfl rfl)).trans
          ((aside_logAction_money _ _ _ _).trans (answers_send _ _).aside)).trans
          (aside_modifyBank rfl rfl rfl rfl rfl rfl rfl)
    · exact (answers_send s _).quiet
  · exact (answers_send s _).quiet

theorem withdrawMoney_quiet (env : Env) (s : Session) (msg : CString) :
    s.Quiet (withdrawMoney env s msg) := by
  unfold withdrawMoney
  split
  · split
    · unfold withdrawMoneyFields
      split_ifs
      · exact (answers_refuse s _).quiet
      · exact (answers_refuse s _).quiet
      · refine ⟨_, ?_, .inr rfl⟩
        exact (((aside_modifyBank rfl rfl rfl rfl rfl rfl rfl).trans (aside_setMoney _ _)).trans
          ((aside_logAction_money _ _ _ _).trans (answers_send _ _).aside)).trans
          (aside_modifyBank rfl rfl rfl rfl rfl rfl rfl)
    · exact (answers_send s _).quiet
  · exact (answers_send s _).quiet

end TortoiseWow.GuildBank
