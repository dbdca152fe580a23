import TortoiseWow.GuildBank.Worlds

/-!
What a guild has paid for its tabs. `UnlockTab` takes the price of the tab it names
and sets `b_tabs` to that tab, whatever it was; `UnlockGuildBank` takes its price and
sets `b_tabs` to 1, also for a bank that exists. The tabs are paid for once and none
is lost exactly in those runs that unlock the bank once and then tab after tab.
-/

namespace TortoiseWow.GuildBank

open Lib

def tabPrice (tab : Nat) : Nat :=
  if 2 ≤ tab ∧ tab ≤ 5 then (tabCost (UInt8.ofNat tab)).toNat else 0

def unlockPrice : Nat → Nat
  | 0 => 0
  | 1 => guildBankCost.toNat
  | n + 2 => unlockPrice (n + 1) + tabPrice (n + 2)

def handlerCharge (env : Env) (msg : CString) (s : Session) (h : Handler) : Nat :=
  if h = .unlockTab then s.held - (handle env msg s h).held else 0

def handlersCharge (env : Env) (msg : CString) : Session → List Handler → Nat
  | _, [] => 0
  | s, h :: hs => handlerCharge env msg s h + handlersCharge env msg (handle env msg s h) hs

def eventCharge (env : Env) (w : World) : Event → Nat
  | .message guid time ranksSize canUse msg =>
      let s := w.session guid time ranksSize
      if dispatches canUse msg s then handlersCharge env msg s (handlers msg)
      else if unlocks canUse msg s then
        s.player.money.toNat - (unlockGuildBank env s msg).player.money.toNat
      else 0
  | _ => 0

def charged (env : Env) (i : Bool) : World → List Event → Nat
  | _, [] => 0
  | w, e :: es =>
      (if e.acts w = some i then eventCharge env w e else 0) + charged env i (step env w e) es

def World.tabs (w : World) (i : Bool) : Nat := (w.bank i).bTabs.toNat

def World.PaidOnce (env : Env) (i : Bool) (w : World) (e : Event) : Prop :=
  w.tabs i ≤ (step env w e).tabs i ∧
    (if e.acts w = some i then eventCharge env w e else 0) + unlockPrice (w.tabs i) =
      unlockPrice ((step env w e).tabs i)

def World.InOrder (i : Bool) (w : World) : Event → Prop
  | .message guid time ranksSize canUse msg =>
      let s := w.session guid time ranksSize
      (w.players guid).isHC60 = i →
        (dispatches canUse msg s = true → .unlockTab ∈ handlers msg →
          ∀ tab, acceptedTab s msg = some tab → tab.toNat = s.bank.bTabs.toNat + 1) ∧
        (unlocks canUse msg s = true → acceptedUnlock s msg = true → s.bank.bTabs = 0)
  | _ => True

theorem tabPrice_of_accepted {tab : UInt8} (low : 2 ≤ tab) (high : tab ≤ 5) :
    tabPrice tab.toNat = (tabCost tab).toNat := by
  rw [UInt8.le_iff_toNat_le] at low high
  unfold tabPrice
  rw [if_pos ⟨low, high⟩, UInt8.ofNat_toNat]

theorem next_tab_iff {b t : Nat} (some_tab : 1 ≤ b) (low : 2 ≤ t) (high : t ≤ 5) :
    b ≤ t ∧ tabPrice t + unlockPrice b = unlockPrice t ↔ t = b + 1 := by
  by_cases le : b ≤ t
  · have : b ≤ 5 := by omega
    interval_cases t <;> interval_cases b <;> decide
  · refine iff_of_false (fun h => le h.1) (by omega)

theorem unlockPrice_eq_zero_iff (b : Nat) : unlockPrice b = 0 ↔ b = 0 := by
  induction b with
  | zero => exact iff_of_true rfl rfl
  | succ b ih =>
      refine iff_of_false ?_ (by omega)
      cases b with
      | zero => decide
      | succ b =>
          have : unlockPrice (b + 1) ≠ 0 := fun zero => by simpa using ih.mp zero
          simp only [unlockPrice]
          omega

theorem Edits.bTabs {env : Env} {T : Terms} {a b : Store} (h : Edits env T a b)
    (noTabs : ∀ n, ¬ T.tabs n) : b.1.bTabs = a.1.bTabs := by
  induction h with
  | refl => rfl
  | tail _ edit ih =>
      cases edit with
      | add | put | exchange | erase | forget => exact ih
      | tabs paid => exact absurd paid (noTabs _)
      | aside same => exact same.tabs.trans ih
      | save => exact (saveBank_bTabs ..).trans ih

theorem handle_bTabs {env : Env} {msg : CString} {s : Session} {h : Handler}
    (own : s.bank.Owned) (other : h ≠ .unlockTab) :
    (handle env msg s h).bank.bTabs = s.bank.bTabs := by
  have edits := @handle_edits env msg _ h own
  refine edits.bTabs fun n => ?_
  unfold handlerTerms
  cases itemAction env msg s h with
  | none => exact fun paid => other paid.1
  | some a => exact fun paid => paid

theorem run_without_unlockTab {env : Env} {msg : CString} {s : Session} {hs : List Handler}
    (holds : s.bank.Holds) (others : .unlockTab ∉ hs) :
    (run (handle env msg) s hs).bank.bTabs = s.bank.bTabs ∧ handlersCharge env msg s hs = 0 := by
  induction hs generalizing s with
  | nil => exact ⟨rfl, rfl⟩
  | cons h hs ih =>
      have other : h ≠ .unlockTab := fun same => others (by simp [same])
      have held := (@handle_edits env msg _ h holds.items).holds holds
      obtain ⟨tabs, none⟩ := ih held fun mem => others (List.mem_cons_of_mem _ mem)
      refine ⟨tabs.trans (handle_bTabs holds.items other), ?_⟩
      simp only [handlersCharge, handlerCharge, if_neg other, none]

theorem handlers_eq (msg : CString) :
    .unlockTab ∉ handlers msg ∨
      ∃ hs, handlers msg = .unlockTab :: hs ∧ .unlockTab ∉ hs := by
  have rest : ∀ p : Handler → Bool, .unlockTab ∉ allHandlers.tail.filter p := by
    intro p mem
    exact absurd (List.mem_filter.mp mem).1 (by decide)
  have split : allHandlers = .unlockTab :: allHandlers.tail := rfl
  unfold handlers
  rw [split, List.filter_cons]
  split_ifs
  · exact .inr ⟨_, rfl, rest _⟩
  · exact .inl (rest _)

theorem unlockTab_paid_iff {s : Session} {msg : CString} (unlocked : s.bank.bTabs ≠ 0) :
    s.bank.bTabs.toNat ≤ (unlockTab s msg).bank.bTabs.toNat ∧
        s.held - (unlockTab s msg).held + unlockPrice s.bank.bTabs.toNat =
          unlockPrice (unlockTab s msg).bank.bTabs.toNat ↔
      ∀ tab, acceptedTab s msg = some tab → tab.toNat = s.bank.bTabs.toNat + 1 := by
  cases accepted : acceptedTab s msg with
  | none =>
      obtain ⟨out, refused⟩ := unlockTab_refused accepted
      rw [refused]
      refine iff_of_true ⟨Nat.le_refl _, ?_⟩ fun tab h => by cases h
      change s.held - s.held + _ = _
      rw [Nat.sub_self, Nat.zero_add]
  | some tab =>
      obtain ⟨low, high, paid, tabs⟩ := unlockTab_accepted accepted
      have some_tab : 1 ≤ s.bank.bTabs.toNat :=
        Nat.pos_of_ne_zero fun zero => unlocked (UInt32.toNat_inj.mp zero)
      have cost : s.held - (unlockTab s msg).held = tabPrice tab.toNat := by
        rw [tabPrice_of_accepted low high]
        omega
      have bounds : 2 ≤ tab.toNat ∧ tab.toNat ≤ 5 :=
        ⟨UInt8.le_iff_toNat_le.mp low, UInt8.le_iff_toNat_le.mp high⟩
      rw [cost, tabs, UInt8.toNat_toUInt32, next_tab_iff some_tab bounds.1 bounds.2]
      simp only [Option.some.injEq, forall_eq']

theorem unlockGuildBank_paid_iff {env : Env} {s : Session} {msg : CString} :
    s.bank.bTabs.toNat ≤ (unlockGuildBank env s msg).bank.bTabs.toNat ∧
        s.player.money.toNat - (unlockGuildBank env s msg).player.money.toNat +
            unlockPrice s.bank.bTabs.toNat =
          unlockPrice (unlockGuildBank env s msg).bank.bTabs.toNat ↔
      (acceptedUnlock s msg = true → s.bank.bTabs = 0) := by
  obtain ⟨refused, out, done⟩ | ⟨accepted, loads⟩ := unlockGuildBank_cases env s msg
  · rw [done]
    refine iff_of_true ⟨Nat.le_refl _, ?_⟩ fun yes => ?_
    · change s.player.money.toNat - s.player.money.toNat + _ = _
      rw [Nat.sub_self, Nat.zero_add]
    · rw [refused] at yes
      cases yes
  · have funded : guildBankCost.toNat ≤ s.player.money.toNat := by
      unfold acceptedUnlock at accepted
      simp only [Bool.and_eq_true, decide_eq_true_eq] at accepted
      exact UInt32.le_iff_toNat_le.mp accepted.1.2
    have paid := modifyMoney_debit funded (by decide) (by decide)
    have price : unlockPrice (1 : UInt32).toNat = guildBankCost.toNat := by decide
    rw [loads.purse, loads.bTabs, price]
    have cost : s.player.money.toNat -
        (modifyMoney s.player.money (-guildBankCost.toInt32)).toNat = guildBankCost.toNat := by
      omega
    rw [cost]
    have zero_iff : s.bank.bTabs.toNat = 0 ↔ s.bank.bTabs = 0 :=
      ⟨fun zero => UInt32.toNat_inj.mp zero, fun zero => by rw [zero]; rfl⟩
    have free := unlockPrice_eq_zero_iff s.bank.bTabs.toNat
    constructor
    · rintro ⟨-, sum⟩ -
      exact zero_iff.mp (free.mp (by omega))
    · intro none
      have zero := none accepted
      rw [zero]
      exact ⟨by decide, by rfl⟩

theorem dispatched_paid_iff {env : Env} {msg : CString} {s : Session} (holds : s.bank.Holds)
    (unlocked : s.bank.bTabs ≠ 0) :
    s.bank.bTabs.toNat ≤ (run (handle env msg) s (handlers msg)).bank.bTabs.toNat ∧
        handlersCharge env msg s (handlers msg) + unlockPrice s.bank.bTabs.toNat =
          unlockPrice (run (handle env msg) s (handlers msg)).bank.bTabs.toNat ↔
      (.unlockTab ∈ handlers msg →
        ∀ tab, acceptedTab s msg = some tab → tab.toNat = s.bank.bTabs.toNat + 1) := by
  obtain absent | ⟨hs, first, rest⟩ := handlers_eq msg
  · obtain ⟨tabs, none⟩ := run_without_unlockTab holds absent
    rw [tabs, none, Nat.zero_add]
    exact iff_of_true ⟨Nat.le_refl _, rfl⟩ fun mem => absurd mem absent
  · have held := (@handle_edits env msg _ .unlockTab holds.items).holds
      holds
    obtain ⟨tabs, none⟩ := @run_without_unlockTab env msg _ _ held rest
    have charge : handlersCharge env msg s (.unlockTab :: hs) =
        s.held - (unlockTab s msg).held := by
      simp only [handlersCharge, none, Nat.add_zero, handlerCharge, if_true]
      rfl
    rw [first, run_cons, tabs, charge]
    change (_ ≤ (unlockTab s msg).bank.bTabs.toNat ∧ _ =
      unlockPrice (unlockTab s msg).bank.bTabs.toNat) ↔ _
    rw [unlockTab_paid_iff unlocked]
    exact ⟨fun h _ => h, fun h => h (by simp)⟩

theorem message_paid_iff {env : Env} {w : World} {guid : UInt32} {time : Int} {ranksSize : UInt32}
    {canUse : Bool} {msg : CString} (holds : (w.bank (w.players guid).isHC60).Holds) :
    w.PaidOnce env (w.players guid).isHC60 (.message guid time ranksSize canUse msg) ↔
      w.InOrder (w.players guid).isHC60 (.message guid time ranksSize canUse msg) := by
  have tabs : (step env w (.message guid time ranksSize canUse msg)).tabs
      (w.players guid).isHC60 =
      (handleAddonMessages env canUse msg (w.session guid time ranksSize)).bank.bTabs.toNat := by
    simp only [World.tabs, step, World.close, if_true]
  unfold World.PaidOnce World.InOrder eventCharge Event.acts
  rw [tabs, if_pos rfl]
  change ((w.session guid time ranksSize).bank.bTabs.toNat ≤ _ ∧
    _ + unlockPrice (w.session guid time ranksSize).bank.bTabs.toNat = _) ↔ _
  have held : (w.session guid time ranksSize).bank.Holds := holds
  dsimp only
  generalize w.session guid time ranksSize = s at held ⊢
  obtain ⟨goes, stays, done⟩ | ⟨goes, stays, done⟩ | ⟨stays, stays', done⟩ :=
    handleAddonMessages_cases env canUse msg s
  · have unlocked : s.bank.bTabs ≠ 0 := by
      unfold dispatches at goes
      simp only [Bool.and_eq_true, bne_iff_ne, ne_eq] at goes
      exact goes.2
    rw [done, if_pos goes, dispatched_paid_iff held unlocked]
    simp [goes, stays]
  · rw [done, if_neg (by simp [stays]), if_pos goes, unlockGuildBank_paid_iff]
    simp [goes, stays]
  · have same : (handleAddonMessages env canUse msg s).bank.bTabs = s.bank.bTabs := by
      obtain done | ⟨p, done⟩ := done
      · rw [done]
      · rw [done]
        rfl
    rw [same, if_neg (by simp [stays']), if_neg (by simp [stays])]
    simp [stays, stays']

theorem paidOnce_iff {env : Env} {guildid : UInt32} {w : World} (of : w.OfGuild guildid) (i : Bool)
    (e : Event) : w.PaidOnce env i e ↔ w.InOrder i e := by
  have elsewhere : e.acts w ≠ some i → w.PaidOnce env i e := by
    intro other
    unfold World.PaidOnce World.tabs
    rw [step_bank_of_ne other, if_neg other, Nat.zero_add]
    exact ⟨Nat.le_refl _, rfl⟩
  cases e with
  | message guid time ranksSize canUse msg =>
      by_cases here : (w.players guid).isHC60 = i
      · subst here
        exact message_paid_iff (of.holds _)
      · refine iff_of_true (elsewhere fun acts => here (by cases acts; rfl)) ?_
        exact fun same => absurd same here
  | save inferno =>
      refine iff_of_true ?_ trivial
      by_cases here : inferno = i
      · subst here
        have tabs : (step env w (.save inferno)).tabs inferno = w.tabs inferno := by
          simp only [World.tabs, step, if_true, saveBank_bTabs]
        unfold World.PaidOnce
        rw [tabs]
        exact ⟨Nat.le_refl _, by simp [eventCharge]⟩
      · exact elsewhere fun acts => here (by cases acts; rfl)
  | rankDeleted inferno rank =>
      refine iff_of_true ?_ trivial
      by_cases here : inferno = i
      · subst here
        have tabs : (step env w (.rankDeleted inferno rank)).tabs inferno = w.tabs inferno := by
          simp only [World.tabs, step, if_true, updateMinranks]
        unfold World.PaidOnce
        rw [tabs]
        exact ⟨Nat.le_refl _, by simp [eventCharge]⟩
      · exact elsewhere fun acts => here (by cases acts; rfl)
  | playerChanged guid player => exact iff_of_true (elsewhere (by simp [Event.acts])) trivial

/-- No tab is ever lost, and at every moment the guild has paid the price of the tabs it has got
since. -/
structure TabsPaid (env : Env) (i : Bool) (w : World) (es : List Event) : Prop where
  kept : ∀ pre e, pre ++ [e] <+: es →
    (run (step env) w pre).tabs i ≤ (run (step env) w (pre ++ [e])).tabs i
  paid : ∀ pre, pre <+: es →
    charged env i w pre + unlockPrice (w.tabs i) = unlockPrice ((run (step env) w pre).tabs i)

theorem TabsPaid.tail {env : Env} {i : Bool} {w : World} {e : Event} {es : List Event}
    (h : TabsPaid env i w (e :: es)) : w.PaidOnce env i e ∧ TabsPaid env i (step env w e) es := by
  have first : w.PaidOnce env i e := by
    refine ⟨h.kept [] e (by simp), ?_⟩
    have paid := h.paid [e] (by simp)
    simpa [charged] using paid
  refine ⟨first, fun pre e' more => ?_, fun pre before => ?_⟩
  · exact h.kept (e :: pre) e' (by simpa using more)
  · have paid := h.paid (e :: pre) (by simpa using before)
    have price := first.2
    rw [run_cons] at paid
    simp only [charged] at paid
    omega

theorem TabsPaid.cons {env : Env} {i : Bool} {w : World} {e : Event} {es : List Event}
    (first : w.PaidOnce env i e) (rest : TabsPaid env i (step env w e) es) :
    TabsPaid env i w (e :: es) := by
  constructor
  · intro pre e' more
    cases pre with
    | nil =>
        have same : e' = e := by simpa using more
        rw [same]
        exact first.1
    | cons a pre =>
        rw [List.cons_append, List.cons_prefix_cons] at more
        obtain ⟨rfl, more⟩ := more
        exact rest.kept pre e' more
  · intro pre before
    cases pre with
    | nil => exact Nat.zero_add _
    | cons a pre =>
        rw [List.cons_prefix_cons] at before
        obtain ⟨rfl, before⟩ := before
        have paid := rest.paid pre before
        have price := first.2
        rw [run_cons]
        simp only [charged]
        omega

theorem tabsPaid_iff_along {env : Env} {i : Bool} {w : World} {es : List Event} :
    TabsPaid env i w es ↔ Along (step env) (World.PaidOnce env i) w es := by
  induction es generalizing w with
  | nil =>
      refine iff_of_true ⟨fun pre e more => ?_, fun pre before => ?_⟩ trivial
      · simp at more
      · rw [List.prefix_nil.mp before]
        exact Nat.zero_add _
  | cons e es ih =>
      rw [along_cons, ← ih]
      exact ⟨TabsPaid.tail, fun h => .cons h.1 h.2⟩

/-- The tabs of a bank are kept and paid for once exactly in the runs that unlock the bank when
there is none and then tab after tab. -/
theorem tabs_paid_iff_in_order (env : Env) (guildid : UInt32) (i : Bool) (w : World)
    (es : List Event) (of : w.OfGuild guildid) :
    TabsPaid env i w es ↔ Along (step env) (World.InOrder i) w es := by
  rw [tabsPaid_iff_along]
  constructor
  · exact along_of_invariant (I := World.OfGuild guildid) (fun w e of _ => step_ofGuild e of)
      (fun w e of paid => (paidOnce_iff of i e).mp paid) of
  · exact along_of_invariant (I := World.OfGuild guildid) (fun w e of _ => step_ofGuild e of)
      (fun w e of order => (paidOnce_iff of i e).mpr order) of

/-- A guild without a bank, whose master buys one and its second tab. -/
def noBank : World := World.loaded plainEnv 1 guildMaster {} 1000000

def buyTwoTabs : List Event :=
  [.message 7 1000000 10 true "UnlockGuildBank:Ok".toList,
   .message 7 1000000 10 true "UnlockTab:2:1".toList]

theorem two_tabs_paid :
    (run (step plainEnv) noBank buyTwoTabs).tabs false = 2 ∧
      TabsPaid plainEnv false noBank buyTwoTabs := by
  refine ⟨by decide +kernel, (tabs_paid_iff_in_order plainEnv 1 false noBank buyTwoTabs
    (loaded_ofGuild _ _ _ _ _)).mpr ⟨fun _ => ⟨?_, ?_⟩, fun _ => ⟨?_, ?_⟩, trivial⟩⟩
  · exact fun goes => absurd goes (by decide +kernel)
  · exact fun _ _ => by decide +kernel
  · intro _ _ tab accepted
    have two : acceptedTab ((step plainEnv noBank (.message 7 1000000 10 true
        "UnlockGuildBank:Ok".toList)).session 7 1000000 10) "UnlockTab:2:1".toList = some 2 := by
      decide +kernel
    rw [two] at accepted
    cases accepted
    decide +kernel
  · exact fun goes => absurd goes (by decide +kernel)

/-- The fifth tab bought first and the second one after it: three tabs are lost. -/
theorem tabs_lost :
    (run (step plainEnv) noBank
        [.message 7 1000000 10 true "UnlockGuildBank:Ok".toList,
         .message 7 1000000 10 true "UnlockTab:5:1".toList]).tabs false = 5 ∧
      (run (step plainEnv) noBank
        [.message 7 1000000 10 true "UnlockGuildBank:Ok".toList,
         .message 7 1000000 10 true "UnlockTab:5:1".toList,
         .message 7 1000000 10 true "UnlockTab:2:1".toList]).tabs false = 2 ∧
      charged plainEnv false noBank
        [.message 7 1000000 10 true "UnlockGuildBank:Ok".toList,
         .message 7 1000000 10 true "UnlockTab:5:1".toList,
         .message 7 1000000 10 true "UnlockTab:2:1".toList] = 45000000 ∧
      unlockPrice 2 = 25000000 := by
  decide +kernel

end TortoiseWow.GuildBank
