import TortoiseWow.GuildBank.Frame

/-!
Money. A deposit, a withdrawal and a paid tab go through `Player::ModifyMoney`,
which takes a signed delta and clamps the purse, while the bank's side is plain
`uint32` arithmetic. The law of conservation is stated for each handler a message
runs, in the state in which it runs, and holds exactly for the amounts that
`Player::ModifyMoney` really moves.
-/

namespace TortoiseWow.GuildBank

open Lib

def Session.held (s : Session) : Nat := s.player.money.toNat + s.bank.bMoney.toNat

def Session.SameMoney (s s' : Session) : Prop :=
  s'.player.money = s.player.money ∧ s'.bank.bMoney = s.bank.bMoney

def messageMoney (msg : CString) : Option UInt32 :=
  match tokenizer msg ':' with
  | [_, p1] => parseMoney p1
  | _ => none

/-- The amount of a deposit that passes every check. -/
def acceptedDeposit (s : Session) (msg : CString) : Option UInt32 :=
  (messageMoney msg).filter fun m => m ≤ 4294967295 - s.bank.bMoney ∧ m ≤ s.player.money

/-- The amount of a withdrawal that passes every check. -/
def acceptedWithdrawal (s : Session) (msg : CString) : Option UInt32 :=
  (messageMoney msg).filter fun m => s.player.rank ≤ 1 ∧ m ≤ s.bank.bMoney

/-- The account an `UnlockTab` draws on. -/
def tabFunds (s : Session) (moneySource : UInt8) : UInt32 :=
  if moneySource = 0 then s.bank.bMoney else s.player.money

def acceptedTab (s : Session) (msg : CString) : Option UInt8 :=
  if s.player.rank ≠ 0 then none
  else
    match tokenizer msg ':' with
    | [_, p1, p2] =>
        if 2 ≤ atoiUInt8 p1 ∧ atoiUInt8 p1 ≤ 5 ∧
            tabCost (atoiUInt8 p1) ≤ tabFunds s (atoiUInt8 p2) then
          some (atoiUInt8 p1)
        else none
    | _ => none

def MoneyLaw (env : Env) (msg : CString) (s : Session) (h : Handler) : Prop :=
  match h with
  | .depositMoney =>
      (handle env msg s h).held = s.held ∧
        (acceptedDeposit s msg = none → s.SameMoney (handle env msg s h))
  | .withdrawMoney =>
      (handle env msg s h).held = s.held ∧
        (acceptedWithdrawal s msg = none → s.SameMoney (handle env msg s h))
  | .unlockTab =>
      match acceptedTab s msg with
      | some tab => (handle env msg s h).held + (tabCost tab).toNat = s.held
      | none => s.SameMoney (handle env msg s h)
  | _ => True

/-- The amounts that arrive whole on both sides of the transfer. -/
def MoneyCovered (msg : CString) (s : Session) (h : Handler) : Prop :=
  match h with
  | .depositMoney =>
      ∀ m, acceptedDeposit s msg = some m →
        m.toNat ≤ 2147483649 ∧ (m.toNat = 0 → s.player.money.toNat ≤ 2147483646)
  | .withdrawMoney =>
      ∀ m, acceptedWithdrawal s msg = some m →
        s.player.money.toNat + m.toNat ≤ 2147483646 ∨
          m.toNat = 2147483647 ∧ s.player.money.toNat + m.toNat < 4294967296
  | _ => True

theorem Session.Answers.sameMoney {s s' : Session} (h : s.Answers s') : s.SameMoney s' := by
  obtain ⟨out, rfl⟩ := h
  exact ⟨rfl, rfl⟩

theorem held_of_sameMoney {s s' : Session} (h : s.SameMoney s') : s'.held = s.held := by
  unfold Session.held
  rw [h.1, h.2]

theorem depositMoney_eq (s : Session) (msg : CString) :
    depositMoney s msg =
      match messageMoney msg with
      | some m => depositMoneyFields s m
      | none => wrongSyntax s "DepositMoney" msg := by
  unfold depositMoney messageMoney
  rcases tokenizer msg ':' with _ | ⟨a, _ | ⟨b, _ | ⟨c, l⟩⟩⟩ <;> rfl

theorem withdrawMoney_eq (env : Env) (s : Session) (msg : CString) :
    withdrawMoney env s msg =
      match messageMoney msg with
      | some m => withdrawMoneyFields env s m
      | none => wrongSyntax s "WithdrawMoney" msg := by
  unfold withdrawMoney messageMoney
  rcases tokenizer msg ':' with _ | ⟨a, _ | ⟨b, _ | ⟨c, l⟩⟩⟩ <;> rfl

theorem depositMoney_refused {s : Session} {msg : CString} (h : acceptedDeposit s msg = none) :
    s.Answers (depositMoney s msg) := by
  rw [depositMoney_eq]
  unfold acceptedDeposit at h
  cases parsed : messageMoney msg with
  | none => exact answers_send s _
  | some m =>
      rw [parsed, Option.filter_some, ite_eq_right_iff] at h
      change s.Answers (depositMoneyFields s m)
      unfold depositMoneyFields
      by_cases full : m > 4294967295 - s.bank.bMoney
      · rw [if_pos full]
        exact answers_refuse s _
      · by_cases short : s.player.money < m
        · rw [if_neg full, if_pos short]
          exact (answers_send s _).trans (answers_send _ _)
        · have accepted := h (by simpa using ⟨UInt32.not_lt.mp full, UInt32.not_lt.mp short⟩)
          cases accepted

theorem depositMoneyFields_accepted {s : Session} {m : UInt32}
    (fits : ¬ m > 4294967295 - s.bank.bMoney) (funded : ¬ s.player.money < m) :
    (depositMoneyFields s m).player.money = modifyMoney s.player.money (-m.toInt32) ∧
      (depositMoneyFields s m).bank.bMoney = s.bank.bMoney + m := by
  unfold depositMoneyFields
  rw [if_neg fits, if_neg funded]
  constructor
  · simp only [saveToDB_player, modifyBank_player, send_player, logAction_player,
      setMoney_money]
  · simp only [saveToDB_bMoney, modifyBank_bank, send_bank, logAction_bMoney, setMoney_bank]

theorem room_of_le_sub {m b : UInt32} (room : m ≤ 4294967295 - b) :
    b.toNat + m.toNat < 4294967296 := by
  have := b.toNat_lt
  rw [UInt32.le_iff_toNat_le, UInt32.toNat_sub] at room
  simp only [UInt32.reduceToNat] at room
  omega

theorem depositMoney_accepted {s : Session} {msg : CString} {m : UInt32}
    (h : acceptedDeposit s msg = some m) :
    s.bank.bMoney.toNat + m.toNat < 4294967296 ∧ m.toNat ≤ s.player.money.toNat ∧
      (depositMoney s msg).player.money = modifyMoney s.player.money (-m.toInt32) ∧
      (depositMoney s msg).bank.bMoney = s.bank.bMoney + m := by
  obtain ⟨parsed, passed⟩ := Option.filter_eq_some_iff.mp h
  obtain ⟨room, covered⟩ := of_decide_eq_true passed
  have amount : depositMoney s msg = depositMoneyFields s m := by
    rw [depositMoney_eq, parsed]
  rw [amount]
  exact ⟨room_of_le_sub room, UInt32.le_iff_toNat_le.mp covered,
    depositMoneyFields_accepted (UInt32.not_lt.mpr room) (UInt32.not_lt.mpr covered)⟩

theorem canAccessTab_withdrawMoney (env : Env) (s : Session) (tab : UInt8) :
    canAccessTab env s tab .withdrawMoney = decide (s.player.rank ≤ 1) := by
  unfold canAccessTab
  rw [if_pos rfl]

theorem withdrawMoney_refused {env : Env} {s : Session} {msg : CString}
    (h : acceptedWithdrawal s msg = none) : s.Answers (withdrawMoney env s msg) := by
  rw [withdrawMoney_eq]
  unfold acceptedWithdrawal at h
  cases parsed : messageMoney msg with
  | none => exact answers_send s _
  | some m =>
      rw [parsed, Option.filter_some, ite_eq_right_iff] at h
      dsimp only
      unfold withdrawMoneyFields
      rw [canAccessTab_withdrawMoney]
      by_cases rank : s.player.rank ≤ 1
      · by_cases short : m > s.bank.bMoney
        · simp only [rank, short, decide_true, Bool.not_true, Bool.false_eq_true, if_false,
            if_true]
          exact answers_refuse s _
        · have accepted := h (decide_eq_true ⟨rank, UInt32.not_lt.mp short⟩)
          cases accepted
      · simp only [rank, decide_false, Bool.not_false, if_true]
        exact answers_refuse s _

theorem withdrawMoneyFields_accepted {env : Env} {s : Session} {m : UInt32}
    (rank : s.player.rank ≤ 1) (funded : ¬ m > s.bank.bMoney) :
    (withdrawMoneyFields env s m).player.money = modifyMoney s.player.money m.toInt32 ∧
      (withdrawMoneyFields env s m).bank.bMoney = s.bank.bMoney - m := by
  unfold withdrawMoneyFields
  rw [canAccessTab_withdrawMoney]
  simp only [rank, funded, decide_true, Bool.not_true, Bool.false_eq_true, if_false]
  constructor
  · simp only [saveToDB_player, modifyBank_player, send_player, logAction_player,
      setMoney_money]
  · simp only [saveToDB_bMoney, modifyBank_bank, send_bank, logAction_bMoney, setMoney_bank]

theorem withdrawMoney_accepted {env : Env} {s : Session} {msg : CString} {m : UInt32}
    (h : acceptedWithdrawal s msg = some m) :
    m.toNat ≤ s.bank.bMoney.toNat ∧
      (withdrawMoney env s msg).player.money = modifyMoney s.player.money m.toInt32 ∧
      (withdrawMoney env s msg).bank.bMoney = s.bank.bMoney - m := by
  obtain ⟨parsed, passed⟩ := Option.filter_eq_some_iff.mp h
  obtain ⟨rank, covered⟩ := of_decide_eq_true passed
  have amount : withdrawMoney env s msg = withdrawMoneyFields env s m := by
    rw [withdrawMoney_eq, parsed]
  rw [amount]
  exact ⟨UInt32.le_iff_toNat_le.mp covered,
    withdrawMoneyFields_accepted rank (UInt32.not_lt.mpr covered)⟩

theorem tabCost_bounds {tab : UInt8} (low : 2 ≤ tab) (high : tab ≤ 5) :
    0 < (tabCost tab).toNat ∧ (tabCost tab).toNat ≤ 20000000 := by
  unfold tabCost
  split_ifs with two three four five
  · decide
  · decide
  · decide
  · decide
  · rw [← UInt8.toNat_inj] at two three four five
    rw [UInt8.le_iff_toNat_le] at low high
    simp only [UInt8.reduceToNat] at two three four five low high
    omega

theorem unlockTabDone_spec (s : Session) (tab : UInt8) (cost : UInt32)
    (action : GuildBankAction) :
    s.SameMoney (unlockTabDone s tab cost action) ∧
      (unlockTabDone s tab cost action).bank.bTabs = tab.toUInt32 := by
  unfold unlockTabDone
  refine ⟨⟨?_, ?_⟩, ?_⟩
  · simp only [saveToDB_player, modifyBank_player, send_player, logAction_player]
  · simp only [saveToDB_bMoney, modifyBank_bank, send_bank, logAction_bMoney]
  · simp only [saveToDB_bTabs, modifyBank_bank, send_bank, logAction_bTabs]

theorem unlockTabFields_refused {s : Session} {tab moneySource : UInt8}
    (h : ¬ (2 ≤ tab ∧ tab ≤ 5 ∧ tabCost tab ≤ tabFunds s moneySource)) :
    s.Answers (unlockTabFields s tab moneySource) := by
  unfold unlockTabFields
  by_cases range : tab ≤ 1 ∨ tab > maxTabs.toUInt8
  · rw [if_pos range]
    exact answers_send s _
  · have low : 2 ≤ tab := by
      have := UInt8.not_le.mp (not_or.mp range).1
      rw [UInt8.lt_iff_toNat_lt] at this
      rw [UInt8.le_iff_toNat_le]
      exact this
    have high : tab ≤ 5 := UInt8.not_lt.mp (not_or.mp range).2
    have poor : ¬ tabCost tab ≤ tabFunds s moneySource := fun le => h ⟨low, high, le⟩
    have costs : tabCost tab ≠ 0 := by
      have := (tabCost_bounds low high).1
      rw [← UInt32.toNat_inj.ne]
      exact Nat.pos_iff_ne_zero.mp this
    simp only [if_neg range, if_neg costs]
    unfold tabFunds at poor
    by_cases source : moneySource = 0
    · rw [if_pos source] at poor
      rw [if_pos source, if_pos (UInt32.not_le.mp poor)]
      exact answers_refuse s _
    · rw [if_neg source] at poor
      rw [if_neg source, if_pos (UInt32.not_le.mp poor)]
      exact (answers_send s _).trans (answers_send _ _)

theorem unlockTabFields_accepted {s : Session} {tab moneySource : UInt8}
    (low : 2 ≤ tab) (high : tab ≤ 5) (funded : tabCost tab ≤ tabFunds s moneySource) :
    (unlockTabFields s tab moneySource).held + (tabCost tab).toNat = s.held ∧
      (unlockTabFields s tab moneySource).bank.bTabs = tab.toUInt32 := by
  obtain ⟨positive, small⟩ := tabCost_bounds low high
  have range : ¬ (tab ≤ 1 ∨ tab > maxTabs.toUInt8) := by
    refine not_or.mpr ⟨?_, UInt8.not_lt.mpr high⟩
    rw [UInt8.le_iff_toNat_le] at low ⊢
    simp only [UInt8.reduceToNat] at low ⊢
    omega
  have costs : tabCost tab ≠ 0 := by
    rw [← UInt32.toNat_inj.ne]
    exact Nat.pos_iff_ne_zero.mp positive
  unfold unlockTabFields
  simp only [if_neg range, if_neg costs]
  unfold tabFunds at funded
  by_cases source : moneySource = 0
  · rw [if_pos source] at funded
    rw [if_pos source, if_neg (UInt32.not_lt.mpr funded)]
    obtain ⟨⟨purse, bank⟩, tabs⟩ := unlockTabDone_spec
      (modifyBank s fun b => { b with bMoney := b.bMoney - tabCost tab, bMoneyChanged := true })
      tab (tabCost tab) .unlockTabGuildMoney
    refine ⟨?_, tabs⟩
    unfold Session.held
    rw [purse, bank]
    simp only [modifyBank_player, modifyBank_bank]
    rw [UInt32.toNat_sub_of_le _ _ funded]
    have := UInt32.le_iff_toNat_le.mp funded
    omega
  · rw [if_neg source] at funded
    rw [if_neg source, if_neg (UInt32.not_lt.mpr funded)]
    obtain ⟨⟨purse, bank⟩, tabs⟩ := unlockTabDone_spec
      (setMoney s (modifyMoney s.player.money (-(tabCost tab).toInt32)))
      tab (tabCost tab) .unlockTabPersonalMoney
    refine ⟨?_, tabs⟩
    have paid := modifyMoney_debit (UInt32.le_iff_toNat_le.mp funded) positive (by omega)
    unfold Session.held
    rw [purse, bank, setMoney_money, setMoney_bank]
    omega

theorem unlockTab_refused {s : Session} {msg : CString} (h : acceptedTab s msg = none) :
    s.Answers (unlockTab s msg) := by
  unfold acceptedTab at h
  unfold unlockTab
  by_cases rank : s.player.rank ≠ 0
  · rw [if_pos rank]
    exact answers_send s _
  · rw [if_neg rank] at h ⊢
    generalize tokenizer msg ':' = tokens at h ⊢
    rcases tokens with _ | ⟨a, _ | ⟨b, _ | ⟨c, _ | ⟨d, l⟩⟩⟩⟩
    · exact answers_send s _
    · exact answers_send s _
    · exact answers_send s _
    · refine unlockTabFields_refused fun pass => ?_
      dsimp only at h
      rw [if_pos pass] at h
      cases h
    · exact answers_send s _

theorem unlockTab_accepted {s : Session} {msg : CString} {tab : UInt8}
    (h : acceptedTab s msg = some tab) :
    2 ≤ tab ∧ tab ≤ 5 ∧ (unlockTab s msg).held + (tabCost tab).toNat = s.held ∧
      (unlockTab s msg).bank.bTabs = tab.toUInt32 := by
  unfold acceptedTab at h
  unfold unlockTab
  by_cases rank : s.player.rank ≠ 0
  · rw [if_pos rank] at h
    cases h
  · rw [if_neg rank] at h ⊢
    generalize tokenizer msg ':' = tokens at h ⊢
    rcases tokens with _ | ⟨a, _ | ⟨b, _ | ⟨c, _ | ⟨d, l⟩⟩⟩⟩
    · cases h
    · cases h
    · cases h
    · dsimp only at h
      by_cases pass : 2 ≤ atoiUInt8 b ∧ atoiUInt8 b ≤ 5 ∧
          tabCost (atoiUInt8 b) ≤ tabFunds s (atoiUInt8 c)
      · rw [if_pos pass, Option.some.injEq] at h
        subst h
        obtain ⟨low, high, funded⟩ := pass
        exact ⟨low, high, unlockTabFields_accepted low high funded⟩
      · rw [if_neg pass] at h
        cases h
    · cases h

theorem depositMoney_law_iff (env : Env) (msg : CString) (s : Session) :
    MoneyLaw env msg s .depositMoney ↔ MoneyCovered msg s .depositMoney := by
  change (depositMoney s msg).held = s.held ∧
    (acceptedDeposit s msg = none → s.SameMoney (depositMoney s msg)) ↔ _
  unfold MoneyCovered
  cases accepted : acceptedDeposit s msg with
  | none =>
      have same := (depositMoney_refused accepted).sameMoney
      simp [held_of_sameMoney same, same]
  | some m =>
      obtain ⟨room, covered, purse, bank⟩ := depositMoney_accepted accepted
      have sum : (s.bank.bMoney + m).toNat = s.bank.bMoney.toNat + m.toNat := by
        rw [UInt32.toNat_add]
        omega
      have moved := modifyMoney_debit_iff covered
      unfold Session.held
      rw [purse, bank, sum]
      simp only [reduceCtorEq, false_implies, and_true, Option.some.injEq, forall_eq', ← moved]
      omega

theorem withdrawMoney_law_iff (env : Env) (msg : CString) (s : Session) :
    MoneyLaw env msg s .withdrawMoney ↔ MoneyCovered msg s .withdrawMoney := by
  change (withdrawMoney env s msg).held = s.held ∧
    (acceptedWithdrawal s msg = none → s.SameMoney (withdrawMoney env s msg)) ↔ _
  unfold MoneyCovered
  cases accepted : acceptedWithdrawal s msg with
  | none =>
      have same := (@withdrawMoney_refused env _ _ accepted).sameMoney
      simp [held_of_sameMoney same, same]
  | some m =>
      obtain ⟨funded, purse, bank⟩ := withdrawMoney_accepted accepted
      have left : (s.bank.bMoney - m).toNat = s.bank.bMoney.toNat - m.toNat :=
        UInt32.toNat_sub_of_le _ _ (UInt32.le_iff_toNat_le.mpr funded)
      have moved := modifyMoney_credit_iff s.player.money m
      unfold Session.held
      rw [purse, bank, left]
      simp only [reduceCtorEq, false_implies, and_true, Option.some.injEq, forall_eq', ← moved]
      omega

theorem unlockTab_law (env : Env) (msg : CString) (s : Session) :
    MoneyLaw env msg s .unlockTab := by
  change match acceptedTab s msg with
    | some tab => (unlockTab s msg).held + (tabCost tab).toNat = s.held
    | none => s.SameMoney (unlockTab s msg)
  cases accepted : acceptedTab s msg with
  | none => exact (unlockTab_refused accepted).sameMoney
  | some tab => exact (unlockTab_accepted accepted).2.2.1

theorem moneyLaw_iff (env : Env) (msg : CString) (s : Session) (h : Handler) :
    MoneyLaw env msg s h ↔ MoneyCovered msg s h := by
  cases h with
  | depositMoney => exact depositMoney_law_iff env msg s
  | withdrawMoney => exact withdrawMoney_law_iff env msg s
  | unlockTab => exact iff_of_true (unlockTab_law env msg s) trivial
  | unlockTabCost | getBankInfo | getTabItems | getTabWithdrawalsLeft | getTabLog | getMoneyLog
  | depositItem | withdrawItem | moveItem | splitItem | updateTab => exact Iff.rfl

/-- In every run, every money command conserves the copper exactly when its amount is one
that both sides of the transfer can carry. -/
theorem money_conserved_iff (env : Env) (w : World) (es : List Event) :
    Along (step env) (World.EachHandler env (MoneyLaw env)) w es ↔
      Along (step env) (World.EachHandler env MoneyCovered) w es :=
  along_congr (eachHandler_congr (moneyLaw_iff env)) w es

/-- A guild master with a full purse at a bank that holds a hundred copper. -/
def fullPurse : Session where
  bank := { bInfernoBank := false, guildid := 1, bTabs := 1, bMoney := 100 }
  player := { guid := 7, rank := 0, money := 2147483646 }
  db := {}
  time := 1000000

/-- A withdrawal of one copper into a full purse: the bank pays and nobody receives. -/
theorem withdraw_into_full_purse :
    handlers "WithdrawMoney:1".toList = [.withdrawMoney] ∧
      dispatches true "WithdrawMoney:1".toList fullPurse = true ∧
      (handleAddonMessages plainEnv true "WithdrawMoney:1".toList fullPurse).held + 1 =
        fullPurse.held := by
  decide +kernel

end TortoiseWow.GuildBank
