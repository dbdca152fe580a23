import TortoiseWow.GuildBank.Edits

/-!
The weekly limit. `CanAccessTab` counts the withdrawals a player has in the log of
the tab since Monday, in a `uint8`, and every way of taking an item out goes
through it. What a command adds to the log and what it hands over are counted
together in the tally; a withdrawal or a swap raises both by one. The count comes
out right modulo 256, and the limit holds as long as that makes no difference.
-/

namespace TortoiseWow.GuildBank

open Lib

/-- What has been handed over, and the withdrawals in the log by player, moment and tab. -/
def Session.tally (env : Env) (s : Session) :
    List Grant × (UInt32 → Int → UInt8 → Nat) :=
  (s.granted, weekWithdrawals env s.bank)

section Tally

variable {env : Env} (s : Session)

@[simp] theorem tally_send (p : Packet) : (send s p).tally env = s.tally env := rfl
@[simp] theorem tally_pushUpdate (x : BankItem) : (pushUpdate s x).tally env = s.tally env := rfl
@[simp] theorem tally_addItem (x : BankItem) : (addItem s x).tally env = s.tally env := rfl
@[simp] theorem tally_setBags (bags : List Item) : (setBags s bags).tally env = s.tally env := rfl

@[simp] theorem tally_writeItem (ref : Option Nat) (x : BankItem) :
    (writeItem s ref x).tally env = s.tally env := by
  cases ref <;> rfl

@[simp] theorem tally_deleteItem (ref : Option Nat) :
    (deleteItem s ref).tally env = s.tally env := by
  cases ref <;> rfl

@[simp] theorem tally_changeItem (i : Nat) (x : BankItem) :
    (changeItem s i x).tally env = s.tally env := rfl

theorem saved_bLog (b : Bank) (tab : UInt32) :
    b.saved.bLog tab = b.bLog tab ∨
      b.saved.bLog tab = (b.bLog tab).map fun l => { l with state := .itemUnchanged } := by
  simp only [Bank.saved]
  by_cases changed : b.bLogChanged = true
  · rw [if_pos changed]
    split_ifs
    · exact .inr rfl
    · exact .inl rfl
  · rw [if_neg changed]
    exact .inl rfl

@[simp] theorem tally_saveToDB : (saveToDB s).tally env = s.tally env := by
  refine Prod.ext rfl ?_
  funext player now tab
  change weekWithdrawals env (saveBank s.bank s.db).1 player now tab = _
  obtain same | saved := saveBank_eq s.bank s.db
  · rw [same]
    rfl
  · rw [saved]
    unfold weekWithdrawals
    obtain same | settled := saved_bLog s.bank tab.toUInt32
    · rw [same]
      rfl
    · rw [settled, List.countP_map]
      rfl

theorem Session.Answers.tally {s s' : Session} (h : s.Answers s') :
    s'.tally env = s.tally env := by
  obtain ⟨out, rfl⟩ := h
  rfl

theorem Session.Quiet.tally {s s' : Session} (h : s.Quiet s') : s'.tally env = s.tally env := by
  obtain ⟨s₁, aside, done⟩ := h
  have same : s₁.tally env = s.tally env := by
    refine Prod.ext aside.granted ?_
    funext player now tab
    change weekWithdrawals env s₁.bank player now tab = weekWithdrawals env s.bank player now tab
    unfold weekWithdrawals
    rw [aside.bLog]
  rcases done with rfl | rfl
  · exact same
  · rw [tally_saveToDB]
    exact same

theorem weekWithdrawals_logAction (action : GuildBankAction) {tab : UInt32}
    (item : ¬ tab > maxTabs ∧ tab ≠ tabMoney) (itemID count : UInt32) (bItem : Option BankItem) :
    ∃ line : BankLog, line.player = s.player.guid ∧ line.action = action.code ∧
      line.tab = tab.toUInt8 ∧ line.stamp = UInt32.ofInt s.time ∧
      ∀ player now t, weekWithdrawals env (logAction s action tab itemID count bItem).bank player
          now t =
        weekWithdrawals env s.bank player now t +
          if t.toUInt32 = tab ∧ weekWithdrawal player t (weekstart env now) line = true then 1
          else 0 := by
  have appended : ∃ line : BankLog, (logAction s action tab itemID count bItem).bank.bLog =
      (fun i => if i = tab then s.bank.bLog i ++ [line] else s.bank.bLog i) ∧
      line.player = s.player.guid ∧ line.action = action.code ∧ line.tab = tab.toUInt8 ∧
      line.stamp = UInt32.ofInt s.time := by
    simp only [logAction, if_neg item.1, if_neg item.2, send_bank, modifyBank_bank]
    exact ⟨_, rfl, rfl, rfl, rfl, rfl⟩
  obtain ⟨line, log, player, code, onTab, stamp⟩ := appended
  refine ⟨line, player, code, onTab, stamp, fun player now t => ?_⟩
  unfold weekWithdrawals
  rw [log]
  dsimp only
  by_cases here : t.toUInt32 = tab
  · rw [if_pos here, List.countP_append, List.countP_singleton]
    simp only [here, true_and]
  · rw [if_neg here, if_neg fun both => here both.1, Nat.add_zero]

theorem logAction_granted (action : GuildBankAction) (tab itemID count : UInt32)
    (bItem : Option BankItem) :
    (logAction s action tab itemID count bItem).granted = s.granted := by
  obtain same | ⟨_, _, _, _, _, same⟩ := logAction_eq s action tab itemID count bItem
  · rw [same]
  · rw [same]
    rfl

theorem tally_logAction {action : GuildBankAction} (other : action ≠ .withdrawItem)
    (tab itemID count : UInt32) (bItem : Option BankItem) :
    (logAction s action tab itemID count bItem).tally env = s.tally env := by
  refine Prod.ext (logAction_granted s action tab itemID count bItem) ?_
  funext player now t
  change weekWithdrawals env (logAction s action tab itemID count bItem).bank player now t =
    weekWithdrawals env s.bank player now t
  by_cases item : ¬ tab > maxTabs ∧ tab ≠ tabMoney
  · obtain ⟨line, -, code, -, -, counts⟩ :=
      weekWithdrawals_logAction s action item itemID count bItem
    have differs : line.action ≠ GuildBankAction.withdrawItem.code := by
      rw [code]
      cases action with
      | withdrawItem => exact absurd rfl other
      | depositItem | unlockGuildBank | unlockTabPersonalMoney | withdrawMoney | depositMoney
      | unlockTabGuildMoney | destroyItem | splitItem | moveItem => decide
    rw [counts, if_neg, Nat.add_zero]
    rintro ⟨-, counted⟩
    simp only [weekWithdrawal, Bool.and_eq_true, beq_iff_eq] at counted
    exact differs counted.1.1.1
  · have log : (logAction s action tab itemID count bItem).bank.bLog = s.bank.bLog := by
      unfold logAction
      by_cases high : tab > maxTabs
      · rw [if_pos high]
      · have money : tab = tabMoney := by
          by_contra no
          exact item ⟨high, no⟩
        rw [if_neg high, if_pos money]
        rfl
    unfold weekWithdrawals
    rw [log]

theorem tally_finishDeposit (i : Nat) (x : BankItem) (count : UInt32) :
    (finishDeposit s i x count).tally env = s.tally env := by
  simp only [finishDeposit, tally_saveToDB]
  rw [tally_logAction _ (by decide), tally_send]

end Tally

section Deposits

variable {env : Env}

theorem tally_payBag {again : Session → Session}
    (same : ∀ s, (again s).tally env = s.tally env) (s : Session) (j : Nat) (pItem : Item)
    (count remainer : UInt32) :
    (payBag again s j pItem count remainer).tally env = s.tally env := by
  simp only [payBag]
  split_ifs
  · exact tally_setBags s _
  · exact tally_setBags s _
  · rw [same]
    exact tally_setBags s _

theorem tally_depositItemInSlot {again : Session → Session}
    (same : ∀ s, (again s).tally env = s.tally env) (s : Session) (tab slot : UInt32) (j : Nat)
    (pItem : Item) (count remainer : UInt32) (state : ItemUpdateState) (stack : Bool) :
    (depositItemInSlot env again s tab slot j pItem count remainer state stack).tally env =
      s.tally env := by
  simp only [depositItemInSlot]
  split_ifs
  · rw [tally_finishDeposit, tally_payBag same, tally_addItem, tally_pushUpdate]
  · cases getItem s.bank tab slot with
    | none => exact tally_send s _
    | some r => rw [tally_finishDeposit, tally_payBag same, tally_pushUpdate, tally_writeItem]

theorem tally_depositItemInFreeSlot (fuel : Nat) (tab : UInt32) (j : Nat) (s : Session) :
    (depositItemInFreeSlot env fuel tab j s).tally env = s.tally env := by
  induction fuel generalizing s with
  | zero => rfl
  | succ fuel ih =>
      have deposit := tally_depositItemInSlot
        ih
      simp only [depositItemInFreeSlot]
      split
      · rfl
      · split
        · split_ifs
          · exact deposit ..
          · exact deposit ..
        · split
          · exact deposit ..
          · simp only [tally_send]

theorem tally_depositInSlot (s : Session) (tab slot : UInt32) (j : Nat) (pItem : Item)
    (count : UInt32) (state : ItemUpdateState) (stack : Bool) :
    (depositInSlot env s tab slot j pItem count state stack).tally env = s.tally env :=
  tally_depositItemInSlot (tally_depositItemInFreeSlot _ tab j) s tab slot j pItem count 0 state
    stack

theorem tally_moveItemTo (s : Session) (tab fromSlot toSlot : UInt32) (i : Nat)
    (sItem : BankItem) (dest : Option (Nat × BankItem)) :
    (moveItemTo s tab fromSlot toSlot i sItem dest).tally env = s.tally env := by
  obtain ⟨-, answers⟩ | ⟨k, dItem, -, ⟨-, -, answers⟩ | ⟨-, -, answers⟩ | ⟨-, p, done⟩⟩ :=
    moveItemTo_cases s tab fromSlot toSlot i sItem dest
  · exact answers.tally
  · rw [answers.tally, tally_deleteItem, tally_pushUpdate, tally_writeItem, tally_changeItem]
  · exact answers.tally
  · rw [done, tally_saveToDB, tally_send, tally_changeItem, tally_changeItem]

theorem tally_splitToEmpty (s : Session) (toSlot split : UInt32) (i : Nat) (sItem : BankItem) :
    (splitToEmpty s toSlot split i sItem).tally env = s.tally env := by
  obtain answers | ⟨-, -, p, done⟩ := splitToEmpty_cases s toSlot split i sItem
  · exact answers.tally
  · rw [done, tally_saveToDB, tally_send, tally_addItem, tally_pushUpdate, tally_changeItem]

theorem tally_splitToStack (s : Session) (split : UInt32) (i : Nat) (sItem : BankItem) (k : Nat)
    (dItem : BankItem) : (splitToStack s split i sItem k dItem).tally env = s.tally env := by
  obtain ⟨-, answers⟩ | ⟨-, answers⟩ := splitToStack_cases s split i sItem k dItem
  · exact answers.tally
  · exact answers.tally

end Deposits

/-- The fields of `localtime` are never negative. -/
def Calendar (env : Env) : Prop :=
  ∀ now, 0 ≤ (env.localtime now).tmWday ∧ 0 ≤ (env.localtime now).tmHour ∧
    0 ≤ (env.localtime now).tmMin ∧ 0 ≤ (env.localtime now).tmSec

/-- The clock fits in the stamp of a log line. -/
def InEpoch (time : Int) : Prop := 0 ≤ time ∧ time < 4294967296

theorem weekstart_le {env : Env} (calendar : Calendar env) (now : Int) :
    weekstart env now ≤ now := by
  obtain ⟨wday, hour, minute, second⟩ := calendar now
  simp only [weekstart]
  split_ifs
  · omega
  · omega

theorem toNat_stamp {time : Int} (epoch : InEpoch time) :
    ((UInt32.ofInt time).toNat : Int) = time := by
  obtain ⟨low, high⟩ := epoch
  obtain ⟨n, rfl⟩ := Int.eq_ofNat_of_zero_le low
  have small : n < 4294967296 := by omega
  have cast : UInt32.ofInt (n : Int) = UInt32.ofNat n := by
    unfold UInt32.ofInt
    rw [show ((n : Int) % 2 ^ 32) = n from Int.emod_eq_of_lt low high, Int.toNat_natCast]
  rw [cast, UInt32.toNat_ofNat_of_lt' small]

/-- One more grant, and one more line that counts for the player on the tab. -/
def Session.Grants (env : Env) (s s' : Session) (tab : UInt32) : Prop :=
  ∃ g : Grant, g.player = s.player.guid ∧ g.tab = tab ∧ s'.granted = s.granted ++ [g] ∧
    ∀ player t, weekWithdrawals env s'.bank player s.time t =
      weekWithdrawals env s.bank player s.time t +
        if player = s.player.guid ∧ t.toUInt32 = tab then 1 else 0

theorem Session.Grants.congr {env : Env} {s s₁ s' s₁' : Session} {tab : UInt32}
    (h : s₁.Grants env s₁' tab) (before : s₁.tally env = s.tally env)
    (after : s'.tally env = s₁'.tally env) (guid : s₁.player.guid = s.player.guid)
    (time : s₁.time = s.time) : s.Grants env s' tab := by
  obtain ⟨g, player, onTab, granted, counts⟩ := h
  have grantsBefore : s₁.granted = s.granted := congrArg Prod.fst before
  have countsBefore : weekWithdrawals env s₁.bank = weekWithdrawals env s.bank :=
    congrArg Prod.snd before
  have grantsAfter : s'.granted = s₁'.granted := congrArg Prod.fst after
  have countsAfter : weekWithdrawals env s'.bank = weekWithdrawals env s₁'.bank :=
    congrArg Prod.snd after
  refine ⟨g, player.trans guid, onTab, ?_, fun p t => ?_⟩
  · rw [grantsAfter, granted, grantsBefore]
  · rw [countsAfter, ← countsBefore, ← guid, ← time]
    exact counts p t

theorem onTab_item {tab : UInt32} (onTab : OnTab tab) : ¬ tab > maxTabs ∧ tab ≠ tabMoney := by
  refine ⟨UInt32.not_lt.mpr (UInt32.le_iff_toNat_le.mpr onTab.2), fun money => ?_⟩
  rw [money] at onTab
  exact absurd onTab.1 (by decide)

theorem toUInt8_eq_of_toUInt32 {tab : UInt32} {t : UInt8} (same : t.toUInt32 = tab) :
    tab.toUInt8 = t := by
  rw [← same]
  exact UInt8.toUInt8_toUInt32 t

theorem noteWithdraw_grants {env : Env} (calendar : Calendar env) (s : Session) (count : UInt32)
    {bItem : BankItem} (onTab : OnTab bItem.tab) (epoch : InEpoch s.time) :
    s.Grants env (noteWithdraw s count bItem) bItem.tab := by
  obtain ⟨line, player, code, tab, stamp, counts⟩ := weekWithdrawals_logAction
    (grant s { player := s.player.guid, tab := bItem.tab, itemTemplate := bItem.itemTemplate,
               count := count })
    .withdrawItem (onTab_item onTab) bItem.itemTemplate count (some bItem)
  refine ⟨{ player := s.player.guid, tab := bItem.tab, itemTemplate := bItem.itemTemplate,
            count := count }, rfl, rfl, logAction_granted _ _ _ _ _ _, fun p t => ?_⟩
  have counted : t.toUInt32 = bItem.tab →
      weekWithdrawal p t (weekstart env s.time) line = decide (p = s.player.guid) := by
    intro here
    have late : weekstart env s.time ≤ (line.stamp.toNat : Int) := by
      rw [stamp]
      exact Int.le_trans (weekstart_le calendar s.time) (Int.le_of_eq (toNat_stamp epoch).symm)
    unfold weekWithdrawal
    rw [code, tab, toUInt8_eq_of_toUInt32 here, player]
    by_cases same : p = s.player.guid
    · simp [same, late]
    · have other : ¬ s.player.guid = p := fun h => same h.symm
      simp [same, other]
  refine (counts p s.time t).trans ?_
  congr 1
  by_cases here : t.toUInt32 = bItem.tab
  · simp only [here, counted here, true_and, and_true, decide_eq_true_eq]
  · simp only [here, false_and, and_false, if_false]

theorem tally_takeFromBank {env : Env} (s : Session) (bankTab bankSlot : UInt32)
    (ref : Option Nat) (bItem : BankItem) (left remainer : UInt32) (swap : Bool) :
    (takeFromBank s bankTab bankSlot ref bItem left remainer swap).1.tally env = s.tally env := by
  rw [(takeFromBank_answers s bankTab bankSlot ref bItem left remainer swap).tally,
    tally_pushUpdate, tally_writeItem]

theorem takeFromBank_player_time (s : Session) (bankTab bankSlot : UInt32) (ref : Option Nat)
    (bItem : BankItem) (left remainer : UInt32) (swap : Bool) :
    (takeFromBank s bankTab bankSlot ref bItem left remainer swap).1.player = s.player ∧
      (takeFromBank s bankTab bankSlot ref bItem left remainer swap).1.time = s.time := by
  obtain ⟨out, done⟩ := takeFromBank_answers s bankTab bankSlot ref bItem left remainer swap
  rw [done]
  cases ref <;> exact ⟨rfl, rfl⟩

theorem finishWithdraw_grants {env : Env} (calendar : Calendar env) {s : Session}
    {bankTab bankSlot count : UInt32} {ref : Option Nat} {bItem : BankItem}
    {left remainer : UInt32} {swap : Bool} (bags : List Item) (onTab : OnTab bItem.tab)
    (epoch : InEpoch s.time) :
    s.Grants env
      (saveToDB (finishWithdraw env
        (setBags (takeFromBank s bankTab bankSlot ref bItem left remainer swap).1 bags) bankTab
        count ref (takenItem bItem left remainer))) bItem.tab := by
  obtain ⟨player, time⟩ := takeFromBank_player_time s bankTab bankSlot ref bItem left remainer swap
  have tab : (takenItem bItem left remainer).tab = bItem.tab := by
    unfold takenItem
    split_ifs
    · rfl
    · rfl
  have note := noteWithdraw_grants calendar
    (setBags (takeFromBank s bankTab bankSlot ref bItem left remainer swap).1 bags) count
    (by rw [tab]; exact onTab) (by
      rw [setBags_time, time]
      exact epoch)
  rw [tab] at note
  have guid : (takeFromBank s bankTab bankSlot ref bItem left remainer swap).1.player.guid =
      s.player.guid := by
    rw [player]
  refine note.congr ?_ ?_ guid time
  · rw [tally_setBags, tally_takeFromBank]
  · rw [tally_saveToDB, (finishWithdraw_answers ..).tally]
    unfold recordWithdraw
    split_ifs
    · exact tally_deleteItem _ _
    · rfl

theorem withdrawItemTo_grants {env : Env} (calendar : Calendar env) {s : Session}
    {bankTab bankSlot count bag bagSlot : UInt32} {ref : Option Nat} {bItem : BankItem}
    {pItem : Option (Nat × Item)} {remainer : UInt32} {swap : Bool} (onTab : OnTab bItem.tab)
    (epoch : InEpoch s.time) :
    (withdrawItemTo env s bankTab bankSlot count bag bagSlot ref bItem pItem remainer swap).tally
        env = s.tally env ∨
      s.Grants env
        (withdrawItemTo env s bankTab bankSlot count bag bagSlot ref bItem pItem remainer swap)
        bItem.tab := by
  obtain ⟨-, answers⟩ | ⟨-, ⟨j, item, -, done⟩ | ⟨-, ⟨bags, j, item, -, -, done⟩ | ⟨-, done⟩⟩⟩ :=
    withdrawItemTo_cases s bankTab bankSlot ref bItem remainer swap env count bag bagSlot pItem
  · exact .inl answers.tally
  · rw [done]
    exact .inr (finishWithdraw_grants calendar _ onTab epoch)
  · rw [done]
    exact .inr (finishWithdraw_grants calendar _ onTab epoch)
  · rw [done]
    exact .inl (tally_saveToDB s)

def ItemAction.source : ItemAction → Option UInt32
  | withdraw tab _ _ _ _ _ _ _ _ => some tab
  | swap _ _ _ bItem => some bItem.tab
  | _ => none

theorem finishDeposit_time (s : Session) (i : Nat) (x : BankItem) (count : UInt32) :
    (finishDeposit s i x count).time = s.time := by
  have logged : ∀ (s : Session) (action : GuildBankAction) (tab itemID count : UInt32)
      (bItem : Option BankItem), (logAction s action tab itemID count bItem).time = s.time := by
    intro s action tab itemID count bItem
    obtain same | ⟨_, _, _, _, _, same⟩ := logAction_eq s action tab itemID count bItem
    · rw [same]
    · rw [same]
      rfl
  simp only [finishDeposit, saveToDB_time, logged, send_time]

theorem swapItems_grants {env : Env} (calendar : Calendar env) {s : Session} {j i : Nat}
    {pItem : Item} {bItem : BankItem} (onTab : OnTab bItem.tab)
    (there : getItem s.bank bItem.tab bItem.slot = some (i, bItem)) (epoch : InEpoch s.time) :
    (swapItems env s j pItem bItem).tally env = s.tally env ∨
      s.Grants env (swapItems env s j pItem bItem) bItem.tab := by
  obtain ⟨-, answers⟩ | ⟨-, done⟩ := swapItems_cases env s j pItem bItem
  · exact .inl answers.tally
  rw [done]
  have deposit := @tally_depositInSlot env s bItem.tab bItem.slot j pItem pItem.count
    .itemChanged false
  have same : (depositInSlot env s bItem.tab bItem.slot j pItem pItem.count .itemChanged
      false).player.guid = s.player.guid ∧
      (depositInSlot env s bItem.tab bItem.slot j pItem pItem.count .itemChanged false).time =
        s.time := by
    rw [depositInSlot, depositItemInSlot_changed there, finishDeposit_player, finishDeposit_time,
      payBag, if_pos rfl, if_pos rfl]
    exact ⟨rfl, rfl⟩
  generalize depositInSlot env s bItem.tab bItem.slot j pItem pItem.count .itemChanged false = s₁
    at deposit same ⊢
  obtain tally | grants := withdrawItemTo_grants calendar (s := s₁)
    onTab (by rw [same.2]; exact epoch)
  · exact .inl (tally.trans deposit)
  · exact .inr (grants.congr deposit rfl same.1 same.2)

theorem perform_tally {env : Env} (calendar : Calendar env) {s : Session} {a : ItemAction}
    (valid : a.Valid s) (epoch : InEpoch s.time) :
    (a.perform env s).tally env = s.tally env ∨
      ∃ tab, a.source = some tab ∧ OnTab tab ∧ s.Grants env (a.perform env s) tab := by
  cases a with
  | depositFree tab j pItem => exact .inl (tally_depositItemInFreeSlot _ tab j s)
  | depositNew tab slot j pItem count => exact .inl (tally_depositInSlot ..)
  | depositOnto tab slot j pItem count i dItem => exact .inl (tally_depositInSlot ..)
  | withdraw tab slot count bag bagSlot i bItem pItem remainer =>
      obtain ⟨onTab, -, there, -⟩ := valid
      obtain ⟨rfl, -⟩ := getItem_place there
      obtain same | grants := withdrawItemTo_grants calendar onTab epoch
      · exact .inl same
      · exact .inr ⟨bItem.tab, rfl, onTab, grants⟩
  | swap j pItem i bItem =>
      obtain ⟨onTab, -, -, there⟩ := valid
      obtain same | grants := swapItems_grants calendar (j := j) onTab there epoch
      · exact .inl same
      · exact .inr ⟨bItem.tab, rfl, onTab, grants⟩
  | move tab fromSlot toSlot i sItem dest => exact .inl (tally_moveItemTo ..)
  | splitEmpty tab fromSlot toSlot split i sItem => exact .inl (tally_splitToEmpty ..)
  | splitStack tab fromSlot toSlot split i sItem k dItem => exact .inl (tally_splitToStack ..)

def Session.entries (env : Env) (s : Session) (tab : UInt32) : Nat :=
  weekWithdrawals env s.bank s.player.guid s.time tab.toUInt8

def Session.Limited (s : Session) (tab : UInt32) : Prop :=
  s.player.rank = (s.bank.bTabInfo tab).minrank.toUInt32 ∧ 0 < (s.bank.bTabInfo tab).withdrawals

def Session.CountsRight (env : Env) (s : Session) (tab : UInt32) : Prop :=
  s.Limited tab → s.entries env tab < (s.bank.bTabInfo tab).withdrawals.toNat ∨
    (s.bank.bTabInfo tab).withdrawals.toNat ≤ s.entries env tab % 256

theorem toUInt32_toUInt8_of_onTab {tab : UInt32} (onTab : OnTab tab) :
    tab.toUInt8.toUInt32 = tab := by
  apply UInt32.toNat_inj.mp
  rw [UInt8.toNat_toUInt32, UInt32.toNat_toUInt8]
  have := onTab.2
  omega

theorem getTabWithdrawalsLeft_eq_zero_iff {env : Env} {s : Session} {tab : UInt32}
    (onTab : OnTab tab) :
    getTabWithdrawalsLeft env s tab.toUInt8 = 0 ↔
      (s.bank.bTabInfo tab).withdrawals.toNat ≤ s.entries env tab % 256 := by
  have cast := toUInt32_toUInt8_of_onTab onTab
  have range : ¬ (tab.toUInt8 = 0 ∨ tab.toUInt8 > maxTabs.toUInt8) := by
    have number : tab.toUInt8.toNat = tab.toNat := by
      rw [UInt32.toNat_toUInt8]
      have := onTab.2
      omega
    rintro (zero | high)
    · rw [zero] at number
      have := onTab.1
      simp at number
      omega
    · have := UInt8.lt_iff_toNat_lt.mp high
      rw [number] at this
      have := onTab.2
      have five : maxTabs.toUInt8.toNat = 5 := by decide
      omega
  unfold getTabWithdrawalsLeft Session.entries
  rw [if_neg range, cast]
  generalize weekWithdrawals env s.bank s.player.guid s.time tab.toUInt8 = n
  dsimp only
  have number : (UInt8.ofNat n).toNat = n % 256 := by simp
  by_cases reached : UInt8.ofNat n ≥ (s.bank.bTabInfo tab).withdrawals
  · rw [if_pos reached]
    refine iff_of_true rfl ?_
    rw [← number]
    exact UInt8.le_iff_toNat_le.mp reached
  · rw [if_neg reached]
    have below := UInt8.lt_iff_toNat_lt.mp (UInt8.not_le.mp reached)
    rw [number] at below
    refine iff_of_false (fun zero => ?_) (by omega)
    have left := congrArg UInt8.toNat zero
    rw [UInt8.toNat_sub_of_le _ _ (UInt8.le_of_lt (UInt8.not_le.mp reached)), number] at left
    simp at left
    omega

/-- The access test lets a limited player through exactly when the count modulo 256 is below the
limit. -/
theorem canAccessTab_limited {env : Env} {s : Session} {tab : UInt32} {action : GuildBankAction}
    (onTab : OnTab tab) (takes : action = .withdrawItem ∨ action = .depositItem)
    (limited : s.Limited tab) :
    canAccessTab env s tab.toUInt8 action = true ↔
      s.entries env tab % 256 < (s.bank.bTabInfo tab).withdrawals.toNat := by
  have cast := toUInt32_toUInt8_of_onTab onTab
  have left := @getTabWithdrawalsLeft_eq_zero_iff env s _ onTab
  unfold canAccessTab
  simp only [cast]
  have money : action ≠ .withdrawMoney := by rcases takes with rfl | rfl <;> decide
  have others : ¬ ((action = .splitItem ∨ action = .destroyItem) ∧
      s.player.rank > (s.bank.bTabInfo tab).minrank.toUInt32) := by
    rcases takes with rfl | rfl <;> simp
  rw [if_neg money, if_neg others]
  have high : ¬ s.player.rank > (s.bank.bTabInfo tab).minrank.toUInt32 := by
    rw [limited.1]
    exact UInt32.lt_irrefl _
  by_cases none : getTabWithdrawalsLeft env s tab.toUInt8 = 0
  · have refused := left.mp none
    rw [if_pos ⟨takes, limited.2, limited.1, none⟩]
    exact iff_of_false (by decide) (by omega)
  · have open_ : ¬ _ := fun le => none (left.mpr le)
    rw [if_neg fun all => none all.2.2.2, if_neg high]
    exact iff_of_true rfl (by omega)

theorem depositAction_access {env : Env} {s : Session}
    {playerBag playerSlot bankTab bankSlot count : UInt8} {a : ItemAction} {tab : UInt32}
    (act : depositAction env s playerBag playerSlot bankTab bankSlot count = some a)
    (source : a.source = some tab) :
    tab = bankTab.toUInt32 ∧ canAccessTab env s bankTab .depositItem = true := by
  unfold depositAction at act
  by_cases range : bankTab = 0 ∨ bankTab > maxTabs.toUInt8 ∨ bankSlot > bankTabSize.toUInt8
  · rw [if_pos range] at act
    cases act
  rw [if_neg range] at act
  cases access : canAccessTab env s bankTab .depositItem with
  | false =>
      rw [access] at act
      cases act
  | true =>
      refine ⟨?_, rfl⟩
      rw [access, if_neg (by simp)] at act
      split at act
      · cases act
      · split at act
        · cases act
        · split_ifs at act
          · cases act
            cases source
          · split at act
            · rename_i i dItem there
              obtain ⟨place, -⟩ := getItem_place there
              unfold depositOverAction at act
              split_ifs at act
              · cases act
                cases source
              · cases act
                cases source
                rfl
              · cases act
                cases source
              · cases act
                cases source
                exact place
            · cases act
              cases source

theorem withdrawAction_access {env : Env} {s : Session}
    {bankTab bankSlot playerBag playerSlot withdrawCount : UInt32} {a : ItemAction} {tab : UInt32}
    (act : withdrawAction env s bankTab bankSlot playerBag playerSlot withdrawCount = some a)
    (source : a.source = some tab) :
    tab = bankTab ∧ canAccessTab env s bankTab.toUInt8 .withdrawItem = true := by
  unfold withdrawAction at act
  by_cases range : bankTab = 0 ∨ bankTab > maxTabs ∨ bankSlot = 0 ∨ bankSlot > bankTabSize
  · rw [if_pos range] at act
    cases act
  rw [if_neg range] at act
  cases access : canAccessTab env s bankTab.toUInt8 .withdrawItem with
  | false =>
      rw [access] at act
      cases act
  | true =>
      refine ⟨?_, rfl⟩
      rw [access, if_neg (by simp)] at act
      split at act
      · cases act
      · rename_i i bItem there
        obtain ⟨place, -⟩ := getItem_place there
        split_ifs at act
        · cases act
          cases source
          rfl
        · split at act
          · unfold withdrawOverAction at act
            split at act
            · cases act
            · split_ifs at act
              · cases act
                cases source
                rfl
              · cases act
                cases source
                exact place
          · cases act
            cases source
            rfl

theorem itemAction_access {env : Env} {msg : CString} {s : Session} {h : Handler} {a : ItemAction}
    {tab : UInt32} (act : itemAction env msg s h = some a) (source : a.source = some tab) :
    ∃ action, (action = .withdrawItem ∨ action = .depositItem) ∧
      canAccessTab env s tab.toUInt8 action = true := by
  unfold itemAction at act
  split at act
  · obtain ⟨rfl, access⟩ := depositAction_access act source
    rw [← UInt8.toUInt8_toUInt32 (atoiUInt8 _)] at access
    exact ⟨_, .inr rfl, access⟩
  · obtain ⟨rfl, access⟩ := withdrawAction_access act source
    exact ⟨_, .inl rfl, access⟩
  · unfold moveAction at act
    split_ifs at act
    obtain ⟨r, -, rfl⟩ := Option.map_eq_some_iff.mp act
    cases source
  · unfold splitAction at act
    split_ifs at act
    obtain ⟨r, -, rfl⟩ := Option.map_eq_some_iff.mp act
    revert source
    split
    · intro source
      cases source
    · intro source
      cases source
  · cases act

/-- Nothing is handed over and no withdrawal is logged; or one item is taken out of one tab, one
line says so, and a limited player had fewer lines than the limit. -/
def WithinLimit (env : Env) (msg : CString) (s : Session) (h : Handler) : Prop :=
  (handle env msg s h).tally env = s.tally env ∨
    ∃ tab, s.Grants env (handle env msg s h) tab ∧
      (s.Limited tab → s.entries env tab < (s.bank.bTabInfo tab).withdrawals.toNat)

/-- The clock fits a stamp, and the count of the tab the command takes from does not wrap. -/
def CountedRight (env : Env) (msg : CString) (s : Session) (h : Handler) : Prop :=
  InEpoch s.time ∧ ∀ a tab, itemAction env msg s h = some a → a.source = some tab →
    s.CountsRight env tab

theorem withinLimit_of_countedRight {env : Env} (calendar : Calendar env) {msg : CString}
    {s : Session} {h : Handler} (right : CountedRight env msg s h) : WithinLimit env msg s h := by
  unfold WithinLimit
  cases item : h.isItem with
  | false =>
      by_cases tab : h = .unlockTab
      · subst tab
        obtain ⟨tabs, quiet⟩ := unlockTab_quiet s msg
        exact .inl quiet.tally
      · exact .inl (handle_quiet item tab env msg s).tally
  | true =>
      have performs := handle_performs item env msg s
      cases act : itemAction env msg s h with
      | none =>
          rw [act] at performs
          exact .inl performs.tally
      | some a =>
          rw [act] at performs
          rw [show handle env msg s h = a.perform env s from performs]
          obtain same | ⟨tab, source, onTab, grants⟩ :=
            perform_tally calendar (itemAction_valid act) right.1
          · exact .inl same
          · refine .inr ⟨tab, grants, fun limited => ?_⟩
            obtain ⟨action, takes, access⟩ := itemAction_access act source
            have passed := (canAccessTab_limited onTab takes limited).mp access
            have := right.2 a tab act source limited
            omega

/-- In every run in which the counts do not wrap, every command stays within the weekly limit and
logs each withdrawal once; and the access test enforces the limit exactly when the count does not
wrap. -/
theorem weekly_limit_kept (env : Env) (calendar : Calendar env) :
    (∀ (w : World) (es : List Event),
      Along (step env) (World.EachHandler env (CountedRight env)) w es →
        Along (step env) (World.EachHandler env (WithinLimit env)) w es) ∧
    ∀ (s : Session) (tab : UInt32) (action : GuildBankAction), OnTab tab →
      action = .withdrawItem ∨ action = .depositItem → s.Limited tab →
        ((canAccessTab env s tab.toUInt8 action = true →
          s.entries env tab < (s.bank.bTabInfo tab).withdrawals.toNat) ↔
        s.CountsRight env tab) := by
  constructor
  · intro w es right
    refine right.imp fun w e => ?_
    cases e with
    | message guid time ranksSize canUse msg =>
        intro ok goes
        exact (ok goes).imp fun s h => withinLimit_of_countedRight calendar
    | save _ => exact fun _ => trivial
    | rankDeleted _ _ => exact fun _ => trivial
    | playerChanged _ _ => exact fun _ => trivial
  · intro s tab action onTab takes limited
    rw [canAccessTab_limited onTab takes limited]
    unfold Session.CountsRight
    constructor
    · intro enforced _
      by_cases below : s.entries env tab % 256 < (s.bank.bTabInfo tab).withdrawals.toNat
      · exact .inl (enforced below)
      · exact .inr (by omega)
    · intro right below
      have := right limited
      omega

theorem plainEnv_calendar : Calendar plainEnv := by
  intro now
  exact ⟨Int.emod_nonneg _ (by decide), Int.emod_nonneg _ (by decide),
    Int.emod_nonneg _ (by decide), Int.emod_nonneg _ (by decide)⟩

/-- Five copies of template 100 on a tab whose limit is one withdrawal a week for the rank of the
acting player, who has `n` withdrawals in the log. -/
def limitedSession (n : Nat) : Session where
  bank :=
    { bInfernoBank := false, guildid := 1, bTabs := 1
      bItems := [{ guildid := 1, guid := 1, tab := 1, slot := 1, itemTemplate := 100, count := 5,
                   maxStackSize := 20 }]
      bTabInfo := fun i => if i = 1 then { withdrawals := 1, minrank := 3 } else {}
      bLog := fun i =>
        if i = 1 then
          List.replicate n
            { player := 7, action := 0, tab := 1, item := 100, randomPropertyId := 0, count := 1,
              stamp := 1000000 }
        else [] }
  player := { guid := 7, rank := 3 }
  db := {}
  time := 1000000

def limitedWorld : World where
  bank _ := (limitedSession 0).bank
  players _ := (limitedSession 0).player
  db := {}

theorem first_withdrawal_within_limit :
    Along (step plainEnv) (World.EachHandler plainEnv (WithinLimit plainEnv)) limitedWorld
      [.message 7 1000000 10 true "WithdrawItem:1:1:0:0:5".toList] := by
  refine (weekly_limit_kept plainEnv plainEnv_calendar).1 limitedWorld _ ⟨fun _ => ?_, trivial⟩
  have only : handlers "WithdrawItem:1:1:0:0:5".toList = [.withdrawItem] := by decide +kernel
  rw [only]
  refine ⟨⟨⟨by decide, by decide⟩, fun a tab act source _ => .inl ?_⟩, trivial⟩
  obtain ⟨rfl, -⟩ := withdrawAction_access
    (s := limitedWorld.session 7 1000000 10)
    act source
  decide +kernel

/-- After 256 withdrawals in the week the limit of one lets the player through again. -/
theorem withdrawal_after_256 :
    (limitedSession 256).player.rank =
        ((limitedSession 256).bank.bTabInfo 1).minrank.toUInt32 ∧
      ((limitedSession 256).bank.bTabInfo 1).withdrawals = 1 ∧
      (limitedSession 256).entries plainEnv 1 = 256 ∧
      handlers "WithdrawItem:1:1:0:0:5".toList = [.withdrawItem] ∧
      dispatches true "WithdrawItem:1:1:0:0:5".toList (limitedSession 256) = true ∧
      (handleAddonMessages plainEnv true "WithdrawItem:1:1:0:0:5".toList
        (limitedSession 256)).granted =
          [{ player := 7, tab := 1, itemTemplate := 100, count := 5 }] := by
  decide +kernel

end TortoiseWow.GuildBank
