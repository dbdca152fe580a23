import TortoiseWow.GuildBank.Actions

/-!
Conservation of items. Each action moves copies of one template between the bank
and the acting player's bags. Its two sides are computed separately, in the
`uint32` arithmetic of the source, and compared as natural numbers. The action
conserves every template exactly when it is covered; an action that is not moves
a count the source never compared with the stack it is taken from, or has already
overwritten the bank slot when the bags refuse.
-/

namespace TortoiseWow.GuildBank

open Lib

def Session.banked (s : Session) (e : UInt32) : Nat := bankCopies s.bank.bItems e

def Session.bagged (s : Session) (e : UInt32) : Nat := bagCopies s.player.bags e

theorem copies_eq (s : Session) (e : UInt32) : s.copies e = s.banked e + s.bagged e := rfl

/-- No template has so many copies that one more stack could overflow a counter. -/
def Session.Room (s : Session) : Prop := ∀ e, s.copies e + 255 < 4294967296

def copiesOf (entry : UInt32) (n : Nat) (e : UInt32) : Nat := if entry = e then n else 0

section Helpers

variable (s : Session) (e : UInt32)

@[simp] theorem bankCopies_settled (l : List BankItem) :
    bankCopies (l.map BankItem.settled) e = bankCopies l e := by
  unfold bankCopies weight
  rw [List.map_map]
  rfl

@[simp] theorem banked_saveToDB : (saveToDB s).banked e = s.banked e := by
  have same := congrArg (bankCopies · e) (saveBank_contents s.bank s.db)
  simp only [Bank.contents, bankCopies_settled] at same
  exact same

@[simp] theorem banked_send (p : Packet) : (send s p).banked e = s.banked e := rfl

@[simp] theorem banked_pushUpdate (x : BankItem) :
    (pushUpdate s x).banked e = s.banked e := rfl

@[simp] theorem banked_setBags (bags : List Item) : (setBags s bags).banked e = s.banked e := rfl

@[simp] theorem banked_grant (g : Grant) : (grant s g).banked e = s.banked e := rfl

@[simp] theorem banked_logAction (action : GuildBankAction) (tab itemID count : UInt32)
    (bItem : Option BankItem) :
    (logAction s action tab itemID count bItem).banked e = s.banked e := by
  unfold Session.banked
  rw [logAction_bItems]

theorem banked_addItem (x : BankItem) :
    (addItem s x).banked e = s.banked e + copiesOf x.itemTemplate x.count.toNat e := by
  simp [Session.banked, addItem, bankCopies, BankItem.copies, copiesOf]

theorem banked_writeItem {i : Nat} {x : BankItem} (y : BankItem)
    (there : s.bank.bItems[i]? = some x) :
    (writeItem s (some i) y).banked e + copiesOf x.itemTemplate x.count.toNat e =
      s.banked e + copiesOf y.itemTemplate y.count.toNat e :=
  weight_set (BankItem.copies e) y there

theorem banked_deleteItem {i : Nat} {x : BankItem} (there : s.bank.bItems[i]? = some x) :
    (deleteItem s (some i)).banked e + copiesOf x.itemTemplate x.count.toNat e =
      s.banked e :=
  weight_eraseIdx (BankItem.copies e) there

@[simp] theorem bagged_saveToDB : (saveToDB s).bagged e = s.bagged e := rfl

@[simp] theorem bagged_send (p : Packet) : (send s p).bagged e = s.bagged e := rfl

@[simp] theorem bagged_pushUpdate (x : BankItem) :
    (pushUpdate s x).bagged e = s.bagged e := rfl

@[simp] theorem bagged_addItem (x : BankItem) : (addItem s x).bagged e = s.bagged e := rfl

@[simp] theorem bagged_writeItem (ref : Option Nat) (x : BankItem) :
    (writeItem s ref x).bagged e = s.bagged e := by
  cases ref <;> rfl

@[simp] theorem bagged_deleteItem (ref : Option Nat) :
    (deleteItem s ref).bagged e = s.bagged e := by
  cases ref <;> rfl

@[simp] theorem bagged_grant (g : Grant) : (grant s g).bagged e = s.bagged e := rfl

@[simp] theorem bagged_logAction (action : GuildBankAction) (tab itemID count : UInt32)
    (bItem : Option BankItem) :
    (logAction s action tab itemID count bItem).bagged e = s.bagged e := by
  unfold Session.bagged
  rw [logAction_player]

@[simp] theorem banked_finishDeposit (i : Nat) (bItem : BankItem) (count : UInt32) :
    (finishDeposit s i bItem count).banked e = s.banked e := by
  unfold finishDeposit
  rw [banked_saveToDB, banked_logAction, banked_send]

@[simp] theorem bagged_finishDeposit (i : Nat) (bItem : BankItem) (count : UInt32) :
    (finishDeposit s i bItem count).bagged e = s.bagged e := by
  unfold finishDeposit
  rw [bagged_saveToDB, bagged_logAction, bagged_send]

end Helpers

theorem Session.Answers.copies {s s' : Session} (h : s.Answers s') (e : UInt32) :
    s'.copies e = s.copies e := by
  obtain ⟨out, rfl⟩ := h
  rfl

theorem Session.Carries.get {s : Session} {j : Nat} {pItem : Item} (h : s.Carries j pItem) :
    s.player.bags[j]? = some pItem := findRef_get h

/-- A deposited count leaves the bag in `uint32` arithmetic, whether the stack is shrunk or
destroyed. -/
theorem bagged_payBag {s : Session} {j : Nat} {pItem : Item} (again : Session → Session)
    (carries : s.Carries j pItem) (count : UInt32) (e : UInt32) :
    (payBag again s j pItem count 0).bagged e +
        copiesOf pItem.proto.itemId pItem.count.toNat e =
      s.bagged e + copiesOf pItem.proto.itemId (pItem.count - count).toNat e := by
  unfold payBag
  rw [if_pos rfl]
  by_cases all : count = pItem.count
  · rw [if_pos all, all, UInt32.sub_self]
    have gone := bagCopies_destroyItem e carries
    unfold copiesOf
    simpa [Session.bagged, setBags, Item.copies] using gone
  · rw [if_neg all]
    exact bagCopies_set (pItem.count - count) e carries.get

theorem banked_payBag (s : Session) (j : Nat) (pItem : Item) (again : Session → Session)
    (count : UInt32) (e : UInt32) :
    (payBag again s j pItem count 0).banked e = s.banked e := by
  unfold payBag
  rw [if_pos rfl]
  split_ifs <;> rfl

theorem carries_payDeposit {s : Session} {j : Nat} {pItem : Item} {count : UInt32}
    (carries : s.Carries j pItem) :
    (payDeposit s j pItem count).Carries j { pItem with count := pItem.count - count } :=
  getItemByPos_setCount _ carries

theorem copies_depositNew {env : Env} {again : Session → Session} {s : Session}
    {tab slot : UInt32} {j : Nat} {pItem : Item} {count : UInt32}
    (carries : s.Carries j pItem) (e : UInt32) :
    (depositItemInSlot env again s tab slot j pItem count 0 .itemNew false).copies e +
        copiesOf pItem.proto.itemId pItem.count.toNat e =
      s.copies e + copiesOf pItem.proto.itemId count.toNat e +
        copiesOf pItem.proto.itemId (pItem.count - count).toNat e := by
  rw [depositItemInSlot_new, copies_eq, banked_finishDeposit, bagged_finishDeposit,
    banked_payBag, banked_addItem, banked_pushUpdate]
  have paid := bagged_payBag (s := addItem (pushUpdate s
    (depositedItem env s.bank tab slot pItem count))
    (depositedItem env s.bank tab slot pItem count)) again carries count e
  rw [bagged_addItem, bagged_pushUpdate] at paid
  change _ + copiesOf pItem.proto.itemId count.toNat e + _ + _ = _
  rw [copies_eq]
  omega

theorem copies_depositChanged {env : Env} {again : Session → Session} {s : Session}
    {tab slot : UInt32} {j : Nat} {pItem : Item} {count : UInt32} {i : Nat} {dItem : BankItem}
    (stack : Bool) (carries : s.Carries j pItem)
    (there : getItem s.bank tab slot = some (i, dItem)) (e : UInt32) :
    (depositItemInSlot env again s tab slot j pItem count 0 .itemChanged stack).copies e +
        copiesOf dItem.itemTemplate dItem.count.toNat e +
        copiesOf pItem.proto.itemId pItem.count.toNat e =
      s.copies e +
        copiesOf pItem.proto.itemId (if stack then dItem.count + count else count).toNat e +
        copiesOf pItem.proto.itemId (pItem.count - count).toNat e := by
  rw [depositItemInSlot_changed there, copies_eq, banked_finishDeposit, bagged_finishDeposit,
    banked_payBag, banked_pushUpdate]
  generalize shape : restackedItem env s.bank dItem pItem count stack = x
  have written := banked_writeItem s e x (getItem_get there)
  have paid := bagged_payBag (s := pushUpdate (writeItem s (some i) x) x) again carries count e
  rw [bagged_pushUpdate, bagged_writeItem] at paid
  have entry : x.itemTemplate = pItem.proto.itemId := by rw [← shape]; rfl
  have amount : x.count = if stack then dItem.count + count else count := by rw [← shape]; rfl
  rw [entry, amount] at written
  rw [copies_eq]
  omega

/-- A slot and a stack of one template together stay within the room. -/
theorem Session.Room.pair {s : Session} (room : s.Room) {i j : Nat} {x : BankItem}
    {pItem : Item} (there : s.bank.bItems[i]? = some x) (carries : s.Carries j pItem)
    (same : x.itemTemplate = pItem.proto.itemId) :
    x.count.toNat + pItem.count.toNat + 255 < 4294967296 := by
  have total := room pItem.proto.itemId
  have bank : x.copies pItem.proto.itemId ≤ s.banked pItem.proto.itemId :=
    weight_ge (BankItem.copies pItem.proto.itemId) there
  have bag : pItem.count.toNat ≤ s.bagged pItem.proto.itemId := bagCopies_ge carries.get
  rw [BankItem.copies, if_pos same] at bank
  rw [copies_eq] at total
  omega

/-- Taking a part of the bag stack that fits onto an open slot conserves. -/
theorem copies_topUp {s : Session} {j i : Nat} {pItem : Item} {dItem x : BankItem}
    {count : UInt32} (carries : s.Carries j pItem) (there : s.bank.bItems[i]? = some dItem)
    (same : dItem.itemTemplate = pItem.proto.itemId)
    (entry : x.itemTemplate = pItem.proto.itemId)
    (amount : x.count.toNat = dItem.count.toNat + count.toNat)
    (covered : count.toNat ≤ pItem.count.toNat) (e : UInt32) :
    (payDeposit (pushUpdate (writeItem s (some i) x) x) j pItem count).copies e =
      s.copies e := by
  have written := banked_writeItem s e x there
  have left : (pItem.count - count).toNat = pItem.count.toNat - count.toNat :=
    UInt32.toNat_sub_of_le _ _ (UInt32.le_iff_toNat_le.mpr covered)
  have paid := bagCopies_set (pItem.count - count) e carries.get
  rw [entry, same, amount] at written
  rw [left, Item.copies] at paid
  change (writeItem s (some i) x).banked e +
    bagCopies (setCount s.player.bags j pItem (pItem.count - count)) e = _
  rw [copies_eq, Session.bagged]
  unfold copiesOf at written
  by_cases here : pItem.proto.itemId = e
  · simp only [if_pos here] at written paid
    omega
  · simp only [if_neg here] at written paid
    omega

/-- The automatic deposit conserves every template, however many stacks it fills. -/
theorem copies_depositItemInFreeSlot {env : Env} {tab : UInt32} {j : Nat} (fuel : Nat)
    {s : Session} {pItem : Item} (carries : s.Carries j pItem) (room : s.Room) (e : UInt32) :
    (depositItemInFreeSlot env fuel tab j s).copies e = s.copies e := by
  induction fuel generalizing s pItem with
  | zero => rfl
  | succ fuel ih =>
      obtain ⟨slot, i, dItem, -, there, same, isOpen, ⟨fits, done⟩ | ⟨rest, done⟩⟩ |
        ⟨slot, -, -, done⟩ | answers := depositItemInFreeSlot_cases carries.get
      · have pair := room.pair (getItem_get there) carries same
        have moved := @copies_depositChanged env (depositItemInFreeSlot env fuel tab j) _ _ _ _ _
          pItem.count _ _ true carries there e
        have sum : (dItem.count + pItem.count).toNat =
            dItem.count.toNat + pItem.count.toNat := by
          rw [UInt32.toNat_add]
          omega
        rw [if_pos rfl, UInt32.sub_self, sum, same] at moved
        rw [done]
        unfold copiesOf at moved
        by_cases here : pItem.proto.itemId = e
        · simp only [if_pos here, UInt32.toNat_zero] at moved
          omega
        · simp only [if_neg here] at moved
          omega
      · -- the part that fits is paid first; the rest is a deposit of the smaller stack
        have pair := room.pair (getItem_get there) carries same
        rw [UInt32.lt_iff_toNat_lt] at isOpen
        have fit : (dItem.maxStackSize - dItem.count).toNat =
            dItem.maxStackSize.toNat - dItem.count.toNat :=
          UInt32.toNat_sub_of_le _ _ (UInt32.le_iff_toNat_le.mpr isOpen.le)
        rw [UInt32.le_iff_toNat_le, UInt32.toNat_add] at rest
        have covered : (dItem.maxStackSize - dItem.count).toNat < pItem.count.toNat := by
          rw [fit]
          omega
        have remains : pItem.count - (dItem.maxStackSize - dItem.count) ≠ 0 := by
          intro zero
          have := congrArg UInt32.toNat zero
          rw [UInt32.toNat_sub_of_le _ _ (UInt32.le_iff_toNat_le.mpr covered.le)] at this
          simp only [UInt32.toNat_zero] at this
          omega
        rw [done, depositItemInSlot_changed there, copies_eq, banked_finishDeposit,
          bagged_finishDeposit, ← copies_eq]
        unfold payBag
        rw [if_neg remains]
        generalize shape : restackedItem env s.bank dItem pItem
          (dItem.maxStackSize - dItem.count) true = x
        have entry : x.itemTemplate = pItem.proto.itemId := by rw [← shape]; rfl
        have amount : x.count.toNat =
            dItem.count.toNat + (dItem.maxStackSize - dItem.count).toNat := by
          have := dItem.maxStackSize.toNat_lt
          rw [← shape]
          change (dItem.count + (dItem.maxStackSize - dItem.count)).toNat = _
          rw [UInt32.toNat_add, fit]
          omega
        have kept := copies_topUp carries (getItem_get there) same entry amount covered.le
        have carried : (payDeposit (pushUpdate (writeItem s (some i) x) x) j pItem
            (dItem.maxStackSize - dItem.count)).Carries j _ := carries_payDeposit carries
        rw [ih carried (fun e => by rw [kept e]; exact room e), kept e]
      · have moved := @copies_depositNew env (depositItemInFreeSlot env fuel tab j) _ tab slot _ _
          pItem.count carries e
        rw [UInt32.sub_self] at moved
        rw [done]
        unfold copiesOf at moved
        by_cases here : pItem.proto.itemId = e
        · simp only [if_pos here, UInt32.toNat_zero] at moved
          omega
        · simp only [if_neg here] at moved
          omega
      · exact answers.copies e

theorem Session.Answers.banked {s s' : Session} (h : s.Answers s') (e : UInt32) :
    s'.banked e = s.banked e := by
  obtain ⟨out, rfl⟩ := h
  rfl

theorem Session.Answers.bagged {s s' : Session} (h : s.Answers s') (e : UInt32) :
    s'.bagged e = s.bagged e := by
  obtain ⟨out, rfl⟩ := h
  rfl

theorem banked_noteWithdraw (s : Session) (count : UInt32) (x : BankItem) (e : UInt32) :
    (noteWithdraw s count x).banked e = s.banked e := by
  rw [noteWithdraw, banked_logAction, banked_grant]

theorem bagged_noteWithdraw (s : Session) (count : UInt32) (x : BankItem) (e : UInt32) :
    (noteWithdraw s count x).bagged e = s.bagged e := by
  rw [noteWithdraw, bagged_logAction, bagged_grant]

/-- The copies left in the slot of a withdrawal. -/
def leftInBank (left remainer : UInt32) : Nat := if remainer = 0 then 0 else left.toNat

theorem banked_recordWithdraw {s : Session} {i : Nat} {bItem : BankItem}
    {left remainer : UInt32}
    (there : s.bank.bItems[i]? = some (takenItem bItem left remainer)) (count e : UInt32) :
    (recordWithdraw s count (some i) (takenItem bItem left remainer)).banked e +
        copiesOf bItem.itemTemplate (takenItem bItem left remainer).count.toNat e =
      s.banked e + copiesOf bItem.itemTemplate (leftInBank left remainer) e := by
  have entry : (takenItem bItem left remainer).itemTemplate = bItem.itemTemplate := by
    simp only [takenItem]
    split_ifs <;> rfl
  unfold recordWithdraw leftInBank
  by_cases whole : remainer = 0
  · have removed : (takenItem bItem left remainer).state = .itemRemoved := by
      simp only [takenItem, if_pos whole]
    have gone := banked_deleteItem (noteWithdraw s count (takenItem bItem left remainer)) e
      (by rw [noteWithdraw, logAction_bItems]; exact there)
    rw [banked_noteWithdraw, entry] at gone
    rw [if_pos removed, if_pos whole, gone, copiesOf, ite_self, add_zero]
  · have changed : (takenItem bItem left remainer).state = .itemChanged := by
      simp only [takenItem, if_neg whole]
    have amount : (takenItem bItem left remainer).count = left := by
      simp only [takenItem, if_neg whole]
    rw [if_neg (by rw [changed]; decide), if_neg whole, banked_noteWithdraw, amount]

theorem banked_withdraw {env : Env} {s : Session} {i : Nat} {bItem : BankItem}
    (there : s.bank.bItems[i]? = some bItem) (bankTab bankSlot count left remainer : UInt32)
    (bags : List Item) (e : UInt32) :
    (finishWithdraw env (setBags
        (takeFromBank s bankTab bankSlot (some i) bItem left remainer false).1 bags) bankTab count
        (some i) (takenItem bItem left remainer)).banked e +
        copiesOf bItem.itemTemplate bItem.count.toNat e =
      s.banked e + copiesOf bItem.itemTemplate (leftInBank left remainer) e := by
  generalize shape : takenItem bItem left remainer = x
  have entry : x.itemTemplate = bItem.itemTemplate := by
    rw [← shape, takenItem]
    split_ifs <;> rfl
  have taken := takeFromBank_answers s bankTab bankSlot (some i) bItem left remainer false
  rw [shape] at taken
  have written := banked_writeItem s e x there
  have here : (setBags (takeFromBank s bankTab bankSlot (some i) bItem left remainer false).1
      bags).bank.bItems[i]? = some x := by
    obtain ⟨out, eq⟩ := taken
    rw [setBags_bank, eq]
    have := (List.getElem?_eq_some_iff.mp there).1
    simp [pushUpdate, writeItem, modifyBank, this]
  have recorded := banked_recordWithdraw
    (by rw [shape]; exact here) count e
  have sent := (finishWithdraw_answers (setBags
    (takeFromBank s bankTab bankSlot (some i) bItem left remainer false).1 bags) bankTab (some i)
    x env count).banked e
  rw [shape, banked_setBags, taken.banked e, banked_pushUpdate] at recorded
  rw [sent]
  rw [entry] at written
  omega

theorem bagged_finishWithdraw (env : Env) (s : Session) (bankTab count : UInt32)
    (ref : Option Nat) (x : BankItem) (e : UInt32) :
    (finishWithdraw env s bankTab count ref x).bagged e = s.bagged e := by
  rw [(finishWithdraw_answers s bankTab ref x env count).bagged e]
  unfold recordWithdraw
  split_ifs
  · rw [bagged_deleteItem, bagged_noteWithdraw]
  · rw [bagged_noteWithdraw]

theorem bagCopies_clone {bags : List Item} {j : Nat} {item : Item} (guid : UInt32)
    (bItem : BankItem) (there : bags[j]? = some item) (e : UInt32) :
    bagCopies (bags.set j (cloneIntoBag guid item bItem)) e = bagCopies bags e :=
  weight_set_eq (Item.copies e) there rfl

/-- A withdrawal the handlers let through conserves every template. -/
theorem copies_withdrawItemTo {env : Env} {s : Session} (room : s.Room)
    {tab slot count bag bagSlot : UInt32} {i : Nat} {bItem : BankItem}
    {pItem : Option (Nat × Item)} {remainer : UInt32}
    (valid : (ItemAction.withdraw tab slot count bag bagSlot i bItem pItem remainer).Valid s)
    (e : UInt32) :
    (withdrawItemTo env s tab slot count bag bagSlot (some i) bItem pItem remainer false).copies e =
      s.copies e := by
  obtain ⟨-, -, found, rfl, holds⟩ := valid
  have there := getItem_get found
  obtain ⟨-, answers⟩ | ⟨-, ⟨j, item, rfl, done⟩ |
      ⟨rfl, ⟨bags, j, item, stored, gained, done⟩ | ⟨-, done⟩⟩⟩ :=
    withdrawItemTo_cases s tab slot (some i) bItem (bItem.count - count) false env count bag
      bagSlot pItem
  · exact answers.copies e
  · obtain ⟨carries, same, fits⟩ := holds
    have pair := room.pair there carries same.symm
    have bank := @banked_withdraw env _ _ _ there tab slot count (bItem.count - count)
      (bItem.count - count) (setCount s.player.bags j item (item.count + count)) e
    have paid := bagCopies_set (item.count + count) e carries.get
    rw [done, copies_eq, banked_saveToDB, bagged_saveToDB, bagged_finishWithdraw, copies_eq]
    change _ + bagCopies (setCount s.player.bags j item (item.count + count)) e = _
    rw [Item.copies, same] at paid
    have moved : leftInBank (bItem.count - count) (bItem.count - count) +
        (item.count + count).toNat = bItem.count.toNat + item.count.toNat := by
      have left : leftInBank (bItem.count - count) (bItem.count - count) =
          (bItem.count - count).toNat := by
        unfold leftInBank
        split_ifs with zero
        · rw [zero]
          rfl
        · rfl
      have := count.toNat_lt
      have := item.getMaxStackCount.toNat_lt
      rw [left, UInt32.toNat_sub, UInt32.toNat_add]
      obtain le | ⟨oversized, rfl⟩ := fits
      · rw [UInt32.le_iff_toNat_le] at le
        omega
      · rw [UInt32.lt_iff_toNat_lt] at oversized
        rw [UInt32.toNat_sub]
        omega
    unfold copiesOf at bank
    unfold Session.bagged
    split_ifs at bank paid <;> omega
  · replace holds := UInt32.le_iff_toNat_le.mp holds
    have bank := @banked_withdraw env _ _ _ there tab slot count (bItem.count - count)
      (bItem.count - count) (bags.set j (cloneIntoBag s.player.guid item bItem)) e
    have bought := gained e
    rw [done, copies_eq, banked_saveToDB, bagged_saveToDB, bagged_finishWithdraw, copies_eq]
    change _ + bagCopies (bags.set j (cloneIntoBag s.player.guid item bItem)) e = _
    rw [bagCopies_clone _ _ stored]
    have left : leftInBank (bItem.count - count) (bItem.count - count) =
        bItem.count.toNat - count.toNat := by
      unfold leftInBank
      rw [← UInt32.toNat_sub_of_le _ _ (UInt32.le_iff_toNat_le.mpr holds)]
      split_ifs with zero
      · rw [zero]
        rfl
      · rfl
    rw [left] at bank
    unfold copiesOf at bank
    unfold Session.bagged
    split_ifs at bank bought <;> omega
  · rw [done, copies_eq, banked_saveToDB, bagged_saveToDB]
    rfl

theorem finishDeposit_player (s : Session) (i : Nat) (x : BankItem) (count : UInt32) :
    (finishDeposit s i x count).player = s.player := by
  simp only [finishDeposit, saveToDB_player, logAction_player, send_player]

theorem swapDeposit_bags {env : Env} {s : Session} {j i : Nat} {pItem : Item}
    {bItem : BankItem} (there : getItem s.bank bItem.tab bItem.slot = some (i, bItem)) :
    (depositInSlot env s bItem.tab bItem.slot j pItem pItem.count .itemChanged
        false).player.bags = destroyItem s.player.bags pItem.bag pItem.slot := by
  rw [depositInSlot, depositItemInSlot_changed there, finishDeposit_player, payBag, if_pos rfl,
    if_pos rfl]
  rfl

/-- After the first half the old bank stack is nowhere: neither in the slot nor in a bag. -/
theorem copies_swapDeposit {env : Env} {s : Session} {j i : Nat} {pItem : Item}
    {bItem : BankItem} (carries : s.Carries j pItem)
    (there : getItem s.bank bItem.tab bItem.slot = some (i, bItem)) (e : UInt32) :
    (depositInSlot env s bItem.tab bItem.slot j pItem pItem.count .itemChanged false).copies e +
      copiesOf bItem.itemTemplate bItem.count.toNat e = s.copies e := by
  have moved := @copies_depositChanged env
    (depositItemInFreeSlot env freeSlotFuel bItem.tab j) _ _ _ _ _ pItem.count _ _ false carries
    there e
  rw [UInt32.sub_self] at moved
  unfold depositInSlot
  simp only [Bool.false_eq_true, if_false] at moved
  have none_left : copiesOf pItem.proto.itemId (0 : UInt32).toNat e = 0 := ite_self 0
  omega

/-- The second half hands out a copy of the old stack, or is refused. -/
theorem copies_swapWithdraw {env : Env} (s : Session) (bItem : BankItem) (e : UInt32) :
    (withdrawItemTo env s bItem.tab bItem.slot bItem.count inventorySlotBag0.toUInt32
        nullSlot.toUInt32 none bItem none 0 true).copies e =
      s.copies e +
        if (env.storage.canStoreNewItem s.player.bags inventorySlotBag0 nullSlot
          bItem.itemTemplate bItem.count).1 = .equipErrOk
        then copiesOf bItem.itemTemplate bItem.count.toNat e else 0 := by
  have bag : inventorySlotBag0.toUInt32.toUInt8 = inventorySlotBag0 := rfl
  have slot : nullSlot.toUInt32.toUInt8 = nullSlot := rfl
  obtain ⟨refused, answers⟩ | ⟨ok, ⟨j, item, impossible, -⟩ |
      ⟨-, ⟨bags, j, item, stored, gained, done⟩ | ⟨zero, done⟩⟩⟩ :=
    withdrawItemTo_cases s bItem.tab bItem.slot none bItem 0 true env bItem.count
      inventorySlotBag0.toUInt32 nullSlot.toUInt32 none
  · rw [bag, slot] at refused
    rw [answers.copies e, if_neg refused, add_zero]
  · cases impossible
  · rw [bag, slot] at ok
    rw [done, copies_eq, banked_saveToDB, bagged_saveToDB, bagged_finishWithdraw, copies_eq,
      if_pos ok]
    change _ + bagCopies (bags.set j (cloneIntoBag s.player.guid item bItem)) e = _
    rw [bagCopies_clone _ _ stored, gained e]
    -- the local copy is not in `b_items`, so neither half of the record touches them
    have bank : (finishWithdraw env (setBags (takeFromBank s bItem.tab bItem.slot none bItem 0 0
        true).1 (bags.set j (cloneIntoBag s.player.guid item bItem))) bItem.tab bItem.count none
        (takenItem bItem 0 0)).banked e = s.banked e := by
      rw [(finishWithdraw_answers _ _ _ _ _ _).banked e]
      have taken := (takeFromBank_answers s bItem.tab bItem.slot none bItem 0 0 true).banked e
      unfold recordWithdraw
      split_ifs
      · change (noteWithdraw _ _ _).banked e = _
        rw [banked_noteWithdraw, banked_setBags, taken]
        rfl
      · rw [banked_noteWithdraw, banked_setBags, taken]
        rfl
    rw [bank, Session.bagged, copiesOf]
    omega
  · rw [done, copies_eq, banked_saveToDB, bagged_saveToDB, ← copies_eq]
    have nothing : copiesOf bItem.itemTemplate bItem.count.toNat e = 0 := by
      rw [zero]
      exact ite_self 0
    rw [nothing, ite_self, add_zero]

def swapCheck (env : Env) (s : Session) (bItem : BankItem) : InventoryResult :=
  (env.storage.canStoreNewItem s.player.bags nullBag nullSlot bItem.itemTemplate bItem.count).1

/-- The bags as the second check sees them, when the bag item is gone. -/
def swapRecheck (env : Env) (s : Session) (pItem : Item) (bItem : BankItem) : InventoryResult :=
  (env.storage.canStoreNewItem (destroyItem s.player.bags pItem.bag pItem.slot)
    inventorySlotBag0 nullSlot bItem.itemTemplate bItem.count).1

theorem swapItems_cases (env : Env) (s : Session) (j : Nat) (pItem : Item) (bItem : BankItem) :
    (∃ code, swapCheck env s bItem = .equipErr code) ∧
        s.Answers (swapItems env s j pItem bItem) ∨
      (∀ code, swapCheck env s bItem ≠ .equipErr code) ∧
        swapItems env s j pItem bItem =
          withdrawItemTo env
            (depositInSlot env s bItem.tab bItem.slot j pItem pItem.count .itemChanged false)
            bItem.tab bItem.slot bItem.count inventorySlotBag0.toUInt32 nullSlot.toUInt32 none
            bItem none 0 true := by
  unfold swapItems swapCheck
  cases check : (env.storage.canStoreNewItem s.player.bags nullBag nullSlot bItem.itemTemplate
      bItem.count).1 with
  | equipErr code => exact .inl ⟨⟨code, rfl⟩, answers_send s _⟩
  | equipErrOk => exact .inr ⟨by simp, rfl⟩
  | equipErrInventoryFull => exact .inr ⟨by simp, rfl⟩

theorem copies_swapItems_iff {env : Env} {s : Session} {j i : Nat} {pItem : Item}
    {bItem : BankItem} (carries : s.Carries j pItem)
    (there : getItem s.bank bItem.tab bItem.slot = some (i, bItem)) :
    (∀ e, (swapItems env s j pItem bItem).copies e = s.copies e) ↔
      (∃ code, swapCheck env s bItem = .equipErr code) ∨
        swapRecheck env s pItem bItem = .equipErrOk ∨ bItem.count = 0 := by
  obtain ⟨refused, answers⟩ | ⟨passed, done⟩ := swapItems_cases env s j pItem bItem
  · exact iff_of_true answers.copies (.inl refused)
  · have half := @copies_swapDeposit env _ _ _ _ _ carries there
    have rest := @copies_swapWithdraw env
      (depositInSlot env s bItem.tab bItem.slot j pItem pItem.count .itemChanged false) bItem
    rw [swapDeposit_bags there] at rest
    change ∀ e, _ = _ + if swapRecheck env s pItem bItem = _ then _ else _ at rest
    rw [done]
    by_cases ok : swapRecheck env s pItem bItem = .equipErrOk
    · refine iff_of_true (fun e => ?_) (.inr (.inl ok))
      rw [rest e, if_pos ok]
      exact half e
    · by_cases zero : bItem.count = 0
      · refine iff_of_true (fun e => ?_) (.inr (.inr zero))
        have := half e
        rw [zero, copiesOf, UInt32.toNat_zero, ite_self] at this
        rw [rest e, if_neg ok]
        exact this
      · refine iff_of_false (fun kept => ?_) ?_
        · have lost := half bItem.itemTemplate
          have same := kept bItem.itemTemplate
          rw [rest, if_neg ok] at same
          rw [copiesOf, if_pos rfl] at lost
          have positive : bItem.count.toNat ≠ 0 := fun h => zero (UInt32.toNat_inj.mp h)
          omega
        · rintro (⟨code, refused⟩ | ok' | zero')
          · exact passed code refused
          · exact ok ok'
          · exact zero zero'

theorem banked_changeItem {s : Session} {i : Nat} {x : BankItem} (y : BankItem)
    (there : s.bank.bItems[i]? = some x) (e : UInt32) :
    (changeItem s i y).banked e + copiesOf x.itemTemplate x.count.toNat e =
      s.banked e + copiesOf y.itemTemplate y.count.toNat e :=
  banked_writeItem s e y there

theorem bagged_changeItem (s : Session) (i : Nat) (y : BankItem) (e : UInt32) :
    (changeItem s i y).bagged e = s.bagged e := rfl

theorem changeItem_get_ne {s : Session} {i k : Nat} {x d : BankItem} (ne : i ≠ k)
    (there : s.bank.bItems[k]? = some d) : (changeItem s i x).bank.bItems[k]? = some d := by
  change (s.bank.bItems.set i x)[k]? = some d
  rw [List.getElem?_set_ne ne]
  exact there

/-- Two slots rewritten in turn. -/
theorem copies_changeItems {s : Session} {i k : Nat} {x y x' y' : BankItem} (ne : i ≠ k)
    (hx : s.bank.bItems[i]? = some x) (hy : s.bank.bItems[k]? = some y) (e : UInt32) :
    (changeItem (changeItem s i x') k y').copies e +
        copiesOf x.itemTemplate x.count.toNat e + copiesOf y.itemTemplate y.count.toNat e =
      s.copies e + copiesOf x'.itemTemplate x'.count.toNat e +
        copiesOf y'.itemTemplate y'.count.toNat e := by
  have first := banked_changeItem x' hx e
  have second := banked_changeItem y' (changeItem_get_ne (x := x') ne hy) e
  rw [copies_eq, copies_eq, bagged_changeItem, bagged_changeItem]
  omega

theorem Session.Room.slots {s : Session} (room : s.Room) {i k : Nat} {x y : BankItem}
    (ne : i ≠ k) (hx : s.bank.bItems[i]? = some x) (hy : s.bank.bItems[k]? = some y)
    (same : x.itemTemplate = y.itemTemplate) :
    x.count.toNat + y.count.toNat + 255 < 4294967296 := by
  have total := room y.itemTemplate
  have both := weight_ge_pair (BankItem.copies y.itemTemplate) hx hy ne
  rw [BankItem.copies, if_pos same, BankItem.copies, if_pos rfl] at both
  change _ ≤ s.banked y.itemTemplate at both
  rw [copies_eq] at total
  omega

theorem getItem_ne {b : Bank} {tab slot slot' : UInt32} {i k : Nat} {x y : BankItem}
    (ne : slot ≠ slot') (hx : getItem b tab slot = some (i, x))
    (hy : getItem b tab slot' = some (k, y)) : i ≠ k := by
  rintro rfl
  have same := (getItem_get hx).symm.trans (getItem_get hy)
  cases same
  exact ne ((getItem_place hx).2.symm.trans (getItem_place hy).2)

/-- Two rewritten slots of one template hold together what they held before. -/
theorem copies_recounted_iff {s : Session} {i k : Nat} {x y : BankItem} {m n : UInt32}
    (ne : i ≠ k) (hx : s.bank.bItems[i]? = some x) (hy : s.bank.bItems[k]? = some y)
    (same : x.itemTemplate = y.itemTemplate) :
    (∀ e, (changeItem (changeItem s i (x.recounted m)) k (y.recounted n)).copies e = s.copies e) ↔
      m.toNat + n.toNat = x.count.toNat + y.count.toNat := by
  have moved := fun e => @copies_changeItems _ _ _ _ _
    (x.recounted m) (y.recounted n) ne hx hy e
  simp only [recounted_itemTemplate, recounted_count, same] at moved
  simp only [copiesOf] at moved
  constructor
  · intro kept
    have here := moved y.itemTemplate
    simp only [if_true, kept y.itemTemplate] at here
    omega
  · intro counts e
    have sum := moved e
    by_cases here : y.itemTemplate = e
    · simp only [if_pos here] at sum
      omega
    · simp only [if_neg here] at sum
      omega

/-- Two stacks that cannot be merged whole: one is filled and the other keeps the rest. -/
def movesPart (sItem dItem : BankItem) : Prop :=
  mergeable sItem dItem ∧ ¬ sItem.count + dItem.count ≤ sItem.maxStackSize

theorem copies_merge {s : Session} {i k : Nat} {sItem dItem : BankItem} {n : UInt32}
    (ne : i ≠ k) (hi : s.bank.bItems[i]? = some sItem) (hk : s.bank.bItems[k]? = some dItem)
    (same : sItem.itemTemplate = dItem.itemTemplate)
    (sum : n.toNat = sItem.count.toNat + dItem.count.toNat) (e : UInt32) :
    (deleteItem (pushUpdate (writeItem (changeItem s k (dItem.recounted n)) (some i)
      sItem.removed) sItem.removed) (some i)).copies e = s.copies e := by
  have first := banked_changeItem (dItem.recounted n) hk e
  have second := banked_writeItem (changeItem s k (dItem.recounted n)) e sItem.removed
    (changeItem_get_ne ne.symm hi)
  have third := banked_deleteItem (x := sItem.removed)
    (pushUpdate (writeItem (changeItem s k (dItem.recounted n)) (some i) sItem.removed)
      sItem.removed) e (i := i) (by
        have := (List.getElem?_eq_some_iff.mp hi).1
        simp [pushUpdate, writeItem, changeItem, modifyBank, this])
  rw [banked_pushUpdate] at third
  change (deleteItem _ (some i)).banked e + s.bagged e = _
  rw [copies_eq]
  simp only [recounted_itemTemplate, recounted_count, removed_itemTemplate, removed_count, same,
    sum] at first second third
  simp only [copiesOf] at first second third
  split_ifs at first second third <;> omega

theorem copies_moveItemTo_iff {s : Session} (room : s.Room) {tab fromSlot toSlot : UInt32}
    {i : Nat} {sItem : BankItem} {dest : Option (Nat × BankItem)}
    (valid : (ItemAction.move tab fromSlot toSlot i sItem dest).Valid s) :
    (∀ e, (moveItemTo s tab fromSlot toSlot i sItem dest).copies e = s.copies e) ↔
      ∀ k dItem, dest = some (k, dItem) → movesPart sItem dItem →
        sItem.maxStackSize = dItem.maxStackSize := by
  obtain ⟨-, -, -, ne, source, target⟩ := valid
  have hi := getItem_get source
  obtain ⟨rfl, done⟩ | ⟨k, dItem, rfl, ⟨merge, fits, done⟩ | ⟨merge, part, done⟩ |
      ⟨merge, p, done⟩⟩ := moveItemTo_cases s tab fromSlot toSlot i sItem dest
  · refine iff_of_true (fun e => ?_) (fun k dItem h => by cases h)
    have moved := banked_changeItem (sItem.moved toSlot) hi e
    rw [done.copies e, copies_eq, bagged_changeItem, copies_eq]
    simp only [moved_itemTemplate, moved_count] at moved
    omega
  · have hk := getItem_get target
    have apart := getItem_ne ne source target
    have pair := room.slots apart hi hk merge.1
    have sum : (sItem.count + dItem.count).toNat = sItem.count.toNat + dItem.count.toNat := by
      rw [UInt32.toNat_add]
      omega
    refine iff_of_true (fun e => ?_) ?_
    · rw [done.copies e]
      exact copies_merge apart hi hk merge.1 sum e
    · rintro k' dItem' ⟨rfl, rfl⟩ part
      exact absurd fits part.2
  · have hk := getItem_get target
    have apart := getItem_ne ne source target
    have pair := room.slots apart hi hk merge.1
    have rest : (sItem.count - (sItem.maxStackSize - dItem.count)).toNat +
        sItem.maxStackSize.toNat = sItem.count.toNat + dItem.count.toNat := by
      have := sItem.maxStackSize.toNat_lt
      rw [UInt32.le_iff_toNat_le, UInt32.toNat_add] at part
      rw [UInt32.toNat_sub, UInt32.toNat_sub]
      omega
    have kept := copies_recounted_iff (m := sItem.count - (sItem.maxStackSize - dItem.count))
      (n := dItem.maxStackSize) apart hi hk merge.1
    have through : (∀ e, (moveItemTo s tab fromSlot toSlot i sItem
        (some (k, dItem))).copies e = s.copies e) ↔
        sItem.maxStackSize.toNat = dItem.maxStackSize.toNat := by
      simp only [done.copies]
      rw [kept]
      omega
    rw [through, UInt32.toNat_inj]
    constructor
    · rintro limits k' dItem' ⟨rfl, rfl⟩ -
      exact limits
    · intro limits
      exact limits k dItem rfl ⟨merge, part⟩
  · have hk := getItem_get target
    have apart := getItem_ne ne source target
    refine iff_of_true (fun e => ?_) ?_
    · have moved := @copies_changeItems _ _ _ _ _ (sItem.moved toSlot)
        (dItem.moved fromSlot) apart hi hk e
      rw [done, copies_eq, banked_saveToDB, bagged_saveToDB, banked_send, bagged_send,
        ← copies_eq]
      simp only [moved_itemTemplate, moved_count] at moved
      omega
    · rintro k' dItem' ⟨rfl, rfl⟩ part
      exact absurd part.1 merge

theorem copies_splitToEmpty {s : Session} {i : Nat} {sItem : BankItem} {toSlot split : UInt32}
    (hi : s.bank.bItems[i]? = some sItem) (small : split.toNat ≤ 255) (e : UInt32) :
    (splitToEmpty s toSlot split i sItem).copies e = s.copies e := by
  obtain answers | ⟨-, left, p, done⟩ := splitToEmpty_cases s toSlot split i sItem
  · exact answers.copies e
  · -- the signed comparison refuses every split of more than the stack holds
    have count : (sItem.count.toInt32 - split.toInt32).toUInt32 = sItem.count - split := rfl
    have covered : split.toNat ≤ sItem.count.toNat := by
      by_contra more
      have cast : sItem.count.toInt32 - split.toInt32 = (sItem.count - split).toInt32 := rfl
      rw [cast] at left
      have negative : (sItem.count - split).toInt32 < 0 := by
        rw [toInt32_neg_iff, UInt32.toNat_sub]
        omega
      exact Int32.lt_irrefl (Int32.lt_trans left negative)
    have rest : (sItem.count - split).toNat = sItem.count.toNat - split.toNat :=
      UInt32.toNat_sub_of_le _ _ (UInt32.le_iff_toNat_le.mpr covered)
    rw [count] at done
    have shrunk := banked_changeItem (sItem.recounted (sItem.count - split)) hi e
    rw [done, copies_eq, banked_saveToDB, bagged_saveToDB, banked_send, bagged_send,
      banked_addItem, bagged_addItem, banked_pushUpdate, bagged_pushUpdate, bagged_changeItem,
      copies_eq]
    simp only [splitOff, cloneBankItem, recounted_itemTemplate, recounted_count,
      rest] at shrunk ⊢
    simp only [copiesOf] at shrunk ⊢
    by_cases here : sItem.itemTemplate = e
    · simp only [if_pos here] at shrunk ⊢
      omega
    · simp only [if_neg here] at shrunk ⊢
      omega

theorem copies_splitToStack_iff {s : Session} (room : s.Room) {i k : Nat}
    {sItem dItem : BankItem} {split : UInt32} (ne : i ≠ k) (small : split.toNat ≤ 255)
    (hi : s.bank.bItems[i]? = some sItem) (hk : s.bank.bItems[k]? = some dItem) :
    (∀ e, (splitToStack s split i sItem k dItem).copies e = s.copies e) ↔
      (splitPasses sItem dItem split → split ≤ sItem.count) := by
  obtain ⟨refused, answers⟩ | ⟨pass, done⟩ := splitToStack_cases s split i sItem k dItem
  · exact iff_of_true answers.copies fun pass => absurd pass refused
  · have pair := room.slots ne hi hk pass.1
    have kept := copies_recounted_iff (m := sItem.count - split) (n := dItem.count + split)
      ne hi hk pass.1
    simp only [done.copies]
    rw [kept, UInt32.toNat_sub, UInt32.toNat_add, UInt32.le_iff_toNat_le]
    constructor
    · intro counts _
      omega
    · intro covered
      have := covered pass
      omega

/-- The action takes no more than is there, and what it takes arrives. -/
def ItemAction.Covered (env : Env) (s : Session) : ItemAction → Prop
  | depositFree _ _ _ => True
  | depositNew _ _ _ pItem count => count ≤ pItem.count
  | depositOnto _ _ _ pItem count _ dItem =>
      count ≤ pItem.count ∨ 4294967296 ≤ dItem.count.toNat + count.toNat
  | withdraw _ _ _ _ _ _ _ _ _ => True
  | swap _ pItem _ bItem =>
      (∃ code, swapCheck env s bItem = .equipErr code) ∨
        swapRecheck env s pItem bItem = .equipErrOk ∨ bItem.count = 0
  | move _ _ _ _ sItem dest =>
      ∀ k dItem, dest = some (k, dItem) → movesPart sItem dItem →
        sItem.maxStackSize = dItem.maxStackSize
  | splitEmpty _ _ _ _ _ _ => True
  | splitStack _ _ _ split _ sItem _ dItem => splitPasses sItem dItem split → split ≤ sItem.count

theorem perform_conserves_iff {env : Env} {s : Session} {a : ItemAction} (valid : a.Valid s)
    (room : s.Room) :
    (∀ e, (a.perform env s).copies e = s.copies e) ↔ a.Covered env s := by
  cases a with
  | depositFree tab j pItem =>
      exact iff_of_true (copies_depositItemInFreeSlot _ valid.2 room) trivial
  | depositNew tab slot j pItem count =>
      obtain ⟨-, -, carries, small, -, -⟩ := valid
      have moved := fun e => @copies_depositNew env
        (depositItemInFreeSlot env freeSlotFuel tab j) _ tab slot _ _ count carries e
      change (∀ e, (depositItemInSlot _ _ _ _ _ _ _ _ _ _ _).copies e = _) ↔ count ≤ pItem.count
      have balance : count.toNat + (pItem.count - count).toNat = pItem.count.toNat ↔
          count ≤ pItem.count := by
        have := pItem.count.toNat_lt
        rw [UInt32.le_iff_toNat_le, UInt32.toNat_sub]
        omega
      rw [← balance]
      constructor
      · intro kept
        have here := moved pItem.proto.itemId
        rw [kept, copiesOf, copiesOf, copiesOf, if_pos rfl, if_pos rfl, if_pos rfl] at here
        omega
      · intro counts e
        have here := moved e
        unfold copiesOf at here
        split_ifs at here <;> omega
  | depositOnto tab slot j pItem count i dItem =>
      obtain ⟨-, -, carries, there, same, -⟩ := valid
      have moved := fun e => @copies_depositChanged env
        (depositItemInFreeSlot env freeSlotFuel tab j) _ _ _ _ _ count _ _ true carries there e
      have pair := room.pair (getItem_get there) carries same
      change (∀ e, (depositItemInSlot _ _ _ _ _ _ _ _ _ _ _).copies e = _) ↔
        count ≤ pItem.count ∨ 4294967296 ≤ dItem.count.toNat + count.toNat
      have balance : (dItem.count + count).toNat + (pItem.count - count).toNat =
          dItem.count.toNat + pItem.count.toNat ↔
          count ≤ pItem.count ∨ 4294967296 ≤ dItem.count.toNat + count.toNat := by
        have := count.toNat_lt
        rw [UInt32.le_iff_toNat_le, UInt32.toNat_sub, UInt32.toNat_add]
        omega
      rw [← balance]
      simp only [if_true, same] at moved
      constructor
      · intro kept
        have here := moved pItem.proto.itemId
        rw [kept, copiesOf, copiesOf, copiesOf, copiesOf, if_pos rfl, if_pos rfl, if_pos rfl,
          if_pos rfl] at here
        omega
      · intro counts e
        have here := moved e
        unfold copiesOf at here
        split_ifs at here <;> omega
  | withdraw tab slot count bag bagSlot i bItem pItem remainer =>
      exact iff_of_true (copies_withdrawItemTo room valid) trivial
  | swap j pItem i bItem =>
      obtain ⟨-, -, carries, there⟩ := valid
      exact copies_swapItems_iff carries there
  | move tab fromSlot toSlot i sItem dest => exact copies_moveItemTo_iff room valid
  | splitEmpty tab fromSlot toSlot split i sItem =>
      obtain ⟨-, -, -, -, small, source, -⟩ := valid
      exact iff_of_true (copies_splitToEmpty (getItem_get source) small) trivial
  | splitStack tab fromSlot toSlot split i sItem k dItem =>
      obtain ⟨-, -, -, ne, small, source, dest⟩ := valid
      exact copies_splitToStack_iff room (getItem_ne ne source dest) small (getItem_get source)
        (getItem_get dest)

theorem handle_kept_iff {env : Env} {msg : CString} {s : Session} {h : Handler}
    (room : s.Room) (item : h.isItem = true) :
    (∀ e, (handle env msg s h).copies e = s.copies e) ↔
      ∀ a, itemAction env msg s h = some a → a.Covered env s := by
  have performs := handle_performs item env msg s
  cases act : itemAction env msg s h with
  | none =>
      rw [act] at performs
      exact iff_of_true performs.copies fun a h => by cases h
  | some a =>
      rw [act] at performs
      rw [show handle env msg s h = a.perform env s from performs,
        perform_conserves_iff (itemAction_valid act) room]
      simp only [Option.some.injEq, forall_eq']

theorem Session.Quiet.copies {s s' : Session} (h : s.Quiet s') (e : UInt32) :
    s'.copies e = s.copies e := by
  obtain ⟨s₁, aside, rfl | rfl⟩ := h
  · rw [Session.copies, aside.bItems, aside.bags]
    rfl
  · rw [copies_eq, banked_saveToDB, bagged_saveToDB, Session.banked, Session.bagged,
      aside.bItems, aside.bags]
    rfl

theorem handle_copies_of_not_item {h : Handler} (item : h.isItem = false) (env : Env)
    (msg : CString) (s : Session) (e : UInt32) :
    (handle env msg s h).copies e = s.copies e := by
  by_cases tab : h = .unlockTab
  · subst tab
    obtain ⟨tabs, quiet⟩ := unlockTab_quiet s msg
    exact quiet.copies e
  · exact (handle_quiet item tab env msg s).copies e

def ItemsKept (env : Env) (msg : CString) (s : Session) (h : Handler) : Prop :=
  h.isItem = true → ∀ e, (handle env msg s h).copies e = s.copies e

def ItemsCovered (env : Env) (msg : CString) (s : Session) (h : Handler) : Prop :=
  h.isItem = true → ∀ a, itemAction env msg s h = some a → a.Covered env s

theorem itemsKept_iff {env : Env} {msg : CString} {s : Session} {h : Handler}
    (room : s.Room) : ItemsKept env msg s h ↔ ItemsCovered env msg s h :=
  forall_congr' fun item => handle_kept_iff room item

theorem copies_of_itemsKept {env : Env} {msg : CString} {s : Session} {h : Handler}
    (kept : ItemsKept env msg s h) (e : UInt32) :
    (handle env msg s h).copies e = s.copies e := by
  cases item : h.isItem with
  | true => exact kept item e
  | false => exact handle_copies_of_not_item item env msg s e

theorem along_itemsKept_iff {env : Env} {msg : CString} {s : Session} (room : s.Room)
    (hs : List Handler) :
    Along (handle env msg) (ItemsKept env msg) s hs ↔
      Along (handle env msg) (ItemsCovered env msg) s hs := by
  induction hs generalizing s with
  | nil => exact Iff.rfl
  | cons h hs ih =>
      rw [along_cons, along_cons, itemsKept_iff room]
      refine and_congr_right fun covered => ih fun e => ?_
      rw [copies_of_itemsKept ((itemsKept_iff room).mpr covered) e]
      exact room e

theorem run_copies {env : Env} {msg : CString} {s : Session} {hs : List Handler}
    (kept : Along (handle env msg) (ItemsKept env msg) s hs) (e : UInt32) :
    (run (handle env msg) s hs).copies e = s.copies e := by
  induction hs generalizing s with
  | nil => rfl
  | cons h hs ih =>
      rw [run_cons, ih kept.2]
      exact copies_of_itemsKept kept.1 e

/-- With at most one item handler among those that run, there is nothing to cancel out. -/
theorem along_itemsKept_of_run {env : Env} {msg : CString} {s : Session} {hs : List Handler}
    (one : hs.countP Handler.isItem ≤ 1)
    (same : ∀ e, (run (handle env msg) s hs).copies e = s.copies e) :
    Along (handle env msg) (ItemsKept env msg) s hs := by
  have quiet : ∀ (hs : List Handler) (s : Session), hs.countP Handler.isItem = 0 →
      Along (handle env msg) (ItemsKept env msg) s hs := by
    intro hs
    induction hs with
    | nil => intro s _; trivial
    | cons h hs ih =>
        intro s none
        rw [List.countP_eq_zero] at none
        refine ⟨fun item => absurd item (none h (by simp)), ih _ ?_⟩
        exact List.countP_eq_zero.mpr fun a mem => none a (by simp [mem])
  induction hs generalizing s with
  | nil => trivial
  | cons h hs ih =>
      rw [List.countP_cons] at one
      cases item : h.isItem with
      | true =>
          rw [item, if_pos rfl] at one
          have rest := quiet hs (handle env msg s h) (by omega)
          refine ⟨fun _ e => ?_, rest⟩
          rw [← run_copies rest e]
          exact same e
      | false =>
          rw [item] at one
          have kept : ItemsKept env msg s h := fun yes => by rw [item] at yes; cases yes
          refine ⟨kept, ih (by simpa using one) fun e => ?_⟩
          rw [copies_of_itemsKept kept e]
          exact same e

namespace World

def HasRoom (w : World) : Event → Prop
  | .message guid time ranksSize _ _ => (w.session guid time ranksSize).Room
  | _ => True

def ItemsConserved (env : Env) (w : World) : Event → Prop
  | .message guid time ranksSize canUse msg =>
      dispatches canUse msg (w.session guid time ranksSize) = true →
        ∀ e, (handleAddonMessages env canUse msg (w.session guid time ranksSize)).copies e =
          (w.session guid time ranksSize).copies e
  | _ => True

end World

def Event.OneItemHandler : Event → Prop
  | .message _ _ _ _ msg => (handlers msg).countP Handler.isItem ≤ 1
  | _ => True

theorem handleAddonMessages_dispatched {env : Env} {canUse : Bool} {msg : CString} {s : Session}
    (h : dispatches canUse msg s = true) :
    handleAddonMessages env canUse msg s = run (handle env msg) s (handlers msg) := by
  obtain ⟨-, -, eq⟩ | ⟨-, no, -⟩ | ⟨-, no, -⟩ := handleAddonMessages_cases env canUse msg s
  · exact eq
  · rw [h] at no
    cases no
  · rw [h] at no
    cases no

theorem itemsConserved_of_covered {env : Env} {w : World} {e : Event} (room : w.HasRoom e)
    (covered : w.EachHandler env (ItemsCovered env) e) : w.ItemsConserved env e := by
  cases e with
  | message guid time ranksSize canUse msg =>
      intro reaches entry
      rw [handleAddonMessages_dispatched reaches]
      exact run_copies ((along_itemsKept_iff room _).mpr (covered reaches)) entry
  | save _ => trivial
  | rankDeleted _ _ => trivial
  | playerChanged _ _ => trivial

theorem covered_of_itemsConserved {env : Env} {w : World} {e : Event} (room : w.HasRoom e)
    (one : e.OneItemHandler) (kept : w.ItemsConserved env e) :
    w.EachHandler env (ItemsCovered env) e := by
  cases e with
  | message guid time ranksSize canUse msg =>
      intro reaches
      have same := kept reaches
      rw [handleAddonMessages_dispatched reaches] at same
      exact (along_itemsKept_iff room _).mp (along_itemsKept_of_run one same)
  | save _ => trivial
  | rankDeleted _ _ => trivial
  | playerChanged _ _ => trivial

/-- In every run of covered messages every message conserves every template; and a message
with one item handler conserves only if it is covered. -/
theorem items_conserved_iff_covered (env : Env) :
    (∀ (w : World) (es : List Event),
      Along (step env) (fun w e => w.HasRoom e ∧ w.EachHandler env (ItemsCovered env) e) w es →
        Along (step env) (World.ItemsConserved env) w es) ∧
    ∀ (w : World) (e : Event), w.HasRoom e → e.OneItemHandler →
      (w.ItemsConserved env e ↔ w.EachHandler env (ItemsCovered env) e) := by
  refine ⟨fun w es ok => ?_, fun w e room one => ?_⟩
  · exact ok.imp fun w e h => itemsConserved_of_covered h.1 h.2
  · exact ⟨covered_of_itemsConserved room one, itemsConserved_of_covered room⟩

/-- A guild master with five copies of template 100 in the first slot of the backpack, at an
unlocked and empty bank. -/
def fiveInBackpack : Session where
  bank := { bInfernoBank := false, guildid := 1, bTabs := 1 }
  player :=
    { guid := 7, rank := 0,
      bags := [{ bag := 255, slot := 23, proto := plainProto 100, count := 5 }] }
  db := {}
  time := 1000000

/-- A deposit of twenty out of five: the bank gets twenty and the bag wraps around. -/
theorem deposit_twenty_of_five :
    handlers "DepositItem:0:1:1:1:20".toList = [.depositItem] ∧
      dispatches true "DepositItem:0:1:1:1:20".toList fiveInBackpack = true ∧
      fiveInBackpack.copies 100 = 5 ∧
      (handleAddonMessages plainEnv true "DepositItem:0:1:1:1:20".toList fiveInBackpack).copies
        100 = 4294967301 := by
  decide +kernel

end TortoiseWow.GuildBank
