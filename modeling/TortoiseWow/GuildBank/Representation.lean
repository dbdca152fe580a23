import TortoiseWow.GuildBank.Worlds

/-!
The representation of a bank in memory: no two items in one place, no two with one
guid, and every item on an unlocked tab, in one of its 98 slots and of a size its
template allows. A command keeps this when what it adds fits: the handlers compare
the tab with `MAX_TABS` and never ask for a positive count, `UnlockTab` sets any
number of tabs, and `UnlockGuildBank` appends the rows of the table to memory.
-/

namespace TortoiseWow.GuildBank

open Lib

def BankItem.place (x : BankItem) : UInt32 × UInt32 := (x.tab, x.slot)

structure Bank.Rep (env : Env) (b : Bank) : Prop where
  places : (b.bItems.map BankItem.place).Nodup
  guids : (b.bItems.map BankItem.guid).Nodup
  fits : ∀ x ∈ b.bItems, x.Fits env b.bTabs

theorem place_not_mem {b : Bank} {tab slot : UInt32} (free : getItem b tab slot = none) :
    (tab, slot) ∉ b.bItems.map BankItem.place := by
  intro mem
  obtain ⟨x, item, same⟩ := List.mem_map.mp mem
  have miss := findRef_eq_none.mp free x item
  simp only [BankItem.place, Prod.mk.injEq] at same
  simp [atSlot, same] at miss

/-- An object rewritten without its attribute, or with an attribute nobody has. -/
theorem nodup_map_set {α β : Type} {f : α → β} {l : List α} {i : Nat} {x y : α}
    (nodup : (l.map f).Nodup) (there : l[i]? = some y) (ok : f x = f y ∨ f x ∉ l.map f) :
    ((l.set i x).map f).Nodup := by
  rw [List.map_set]
  rcases ok with same | fresh
  · have there' : (l.map f)[i]? = some (f x) := by
      rw [List.getElem?_map, there, same]
      rfl
    obtain ⟨bound, get⟩ := List.getElem?_eq_some_iff.mp there'
    rw [← get, List.set_getElem_self]
    exact nodup
  · exact nodup.set fresh

theorem nodup_append_singleton {α : Type} {l : List α} {a : α} (nodup : l.Nodup)
    (fresh : a ∉ l) : (l ++ [a]).Nodup :=
  List.nodup_append.mpr ⟨nodup, by simp, fun x mem y mem' same =>
    fresh (List.mem_singleton.mp mem' ▸ same ▸ mem)⟩

theorem settled_rep {env : Env} {b : Bank} (db : CharacterDatabase) (rep : b.Rep env) :
    (saveBank b db).1.Rep env := by
  obtain same | saved := saveBank_eq b db
  · rw [same]
    exact rep
  have items : b.saved.bItems = b.bItems ∨ b.saved.bItems = b.bItems.map BankItem.settled := by
    unfold Bank.saved
    dsimp only
    split_ifs
    · exact .inl rfl
    · exact .inr rfl
  rw [saved]
  rcases items with same | settled
  · exact ⟨by rw [same]; exact rep.places, by rw [same]; exact rep.guids, fun x mem => by
      rw [same] at mem
      exact rep.fits x mem⟩
  · refine ⟨?_, ?_, fun x mem => ?_⟩
    · rw [settled, List.map_map]
      exact rep.places
    · rw [settled, List.map_map]
      exact rep.guids
    · rw [settled] at mem
      obtain ⟨y, old, rfl⟩ := List.mem_map.mp mem
      have fits := rep.fits y old
      exact ⟨fits.tab, fits.slot, fits.count, fits.limit⟩

theorem Bank.Aside.rep {env : Env} {b b' : Bank} (h : b.Aside b') (rep : b.Rep env) :
    b'.Rep env := by
  refine ⟨?_, ?_, fun x mem => ?_⟩
  · rw [h.items]
    exact rep.places
  · rw [h.items]
    exact rep.guids
  · rw [h.items] at mem
    rw [h.tabs]
    exact rep.fits x mem

theorem Edit.rep {env : Env} {T : Terms} {a b : Store} (h : Edit env T a b) (room : T.room)
    (sized : T.sized) (noTabs : ∀ n, ¬ T.tabs n) (rep : a.1.Rep env) : b.1.Rep env := by
  cases h with
  | @add b db x isNew own free fresh fits =>
      refine ⟨?_, ?_, fun y mem => ?_⟩
      · rw [List.map_append]
        exact nodup_append_singleton rep.places (place_not_mem free)
      · rw [List.map_append]
        refine nodup_append_singleton rep.guids fun mem => ?_
        obtain ⟨y, item, same⟩ := List.mem_map.mp mem
        exact fresh room y item same
      · rcases List.mem_append.mp mem with old | new
        · exact rep.fits y old
        · rw [List.mem_singleton.mp new]
          exact fits sized
  | @put b db i x y there changed own guid touched place fits =>
      refine ⟨nodup_map_set rep.places there ?_, nodup_map_set rep.guids there (.inl guid),
        fun z mem => ?_⟩
      · obtain ⟨tab, same | free⟩ := place
        · exact .inl (by simp only [BankItem.place, tab, same])
        · exact .inr (place_not_mem free)
      · rcases List.mem_or_eq_of_mem_set mem with old | rfl
        · exact rep.fits z old
        · exact fits sized
  | @exchange b db i k x y ne hx hy tx ty tab =>
      have hy' : (b.bItems.set i (x.moved y.slot))[k]? = some y := by
        rw [List.getElem?_set_ne ne]
        exact hy
      have fx := rep.fits x (List.mem_of_getElem? hx)
      have fy := rep.fits y (List.mem_of_getElem? hy)
      refine ⟨?_, ?_, fun z mem => ?_⟩
      · -- the two places are traded, so together they are the places that were there
        have px : (b.bItems.map BankItem.place)[i]? = some x.place := by
          rw [List.getElem?_map, hx]
          rfl
        have py : (b.bItems.map BankItem.place)[k]? = some y.place := by
          rw [List.getElem?_map, hy]
          rfl
        obtain ⟨bi, gi⟩ := List.getElem?_eq_some_iff.mp px
        obtain ⟨bk, gk⟩ := List.getElem?_eq_some_iff.mp py
        have first : (x.moved y.slot).place = (b.bItems.map BankItem.place)[k] := by
          rw [gk]
          exact congrArg (fun t => (t, y.slot)) tab
        have second : (y.moved x.slot).place = (b.bItems.map BankItem.place)[i] := by
          rw [gi]
          exact congrArg (fun t => (t, x.slot)) tab.symm
        rw [List.map_set, List.map_set, first, second]
        exact (List.set_set_perm bi bk).nodup_iff.mpr rep.places
      · exact nodup_map_set (nodup_map_set rep.guids hx (.inl rfl)) hy' (.inl rfl)
      · rcases List.mem_or_eq_of_mem_set mem with mem | rfl
        · rcases List.mem_or_eq_of_mem_set mem with old | rfl
          · exact rep.fits z old
          · exact moved_fits fx fy.slot
        · exact moved_fits fy fx.slot
  | erase there =>
      exact ⟨rep.places.sublist ((List.eraseIdx_sublist _ _).map _),
        rep.guids.sublist ((List.eraseIdx_sublist _ _).map _),
        fun x mem => rep.fits x (List.mem_of_mem_eraseIdx mem)⟩
  | forget removed own swaps => exact ⟨rep.places, rep.guids, rep.fits⟩
  | tabs paid => exact absurd paid (noTabs _)
  | aside same => exact same.rep rep
  | save => exact settled_rep _ rep

theorem Edits.rep {env : Env} {T : Terms} {a b : Store} (h : Edits env T a b) (room : T.room)
    (sized : T.sized) (noTabs : ∀ n, ¬ T.tabs n) (rep : a.1.Rep env) : b.1.Rep env := by
  induction h with
  | refl => exact rep
  | tail _ edit ih => exact edit.rep room sized noTabs ih

/-- A command that adds only what fits, a tab number no item lies beyond, and an unlocking that
finds no rows. -/
def representing (env : Env) : Conditions where
  handler msg s h :=
    (∀ a, itemAction env msg s h = some a →
      a.Fitting env s.bank.bTabs ∧ ∀ x ∈ s.bank.bItems, x.guid ≠ 4294967295) ∧
    (h = .unlockTab → ∀ tab, acceptedTab s msg = some tab →
      ∀ x ∈ s.bank.bItems, x.tab ≤ tab.toUInt32)
  unlock msg s :=
    acceptedUnlock s msg = true →
      s.bank.ownRows s.db.guildBank = [] ∧ ∀ x ∈ s.bank.bItems, x.tab ≤ 1
  save _ := True

theorem rep_of_tabs {env : Env} {b b' : Bank} (rep : b.Rep env) (items : b'.bItems = b.bItems)
    (low : ∀ x ∈ b.bItems, x.tab ≤ b'.bTabs) : b'.Rep env := by
  refine ⟨?_, ?_, fun x mem => ?_⟩
  · rw [items]
    exact rep.places
  · rw [items]
    exact rep.guids
  · rw [items] at mem
    have fits := rep.fits x mem
    exact ⟨⟨fits.tab.1, UInt32.le_iff_toNat_le.mp (low x mem)⟩, fits.slot, fits.count, fits.limit⟩

theorem Session.Quiet.rep {env : Env} {s s' : Session} (h : s.Quiet s') (rep : s.bank.Rep env) :
    s'.bank.Rep env := by
  obtain ⟨s₁, aside, done⟩ := h
  have same : s.bank.Aside s₁.bank :=
    ⟨aside.bItems, aside.queue, aside.guildid, aside.inferno, aside.saveLock, aside.bTabs⟩
  rcases done with rfl | rfl
  · exact same.rep rep
  · exact settled_rep _ (same.rep rep)

theorem unlockTab_rep {env : Env} {s : Session} {msg : CString} (rep : s.bank.Rep env)
    (low : ∀ tab, acceptedTab s msg = some tab → ∀ x ∈ s.bank.bItems, x.tab ≤ tab.toUInt32) :
    (unlockTab s msg).bank.Rep env := by
  cases accepted : acceptedTab s msg with
  | none =>
      obtain ⟨out, done⟩ := unlockTab_refused accepted
      rw [done]
      exact rep
  | some tab =>
      obtain ⟨tabs, quiet⟩ := unlockTab_quiet s msg
      have set : tab.toUInt32 = tabs :=
        (unlockTab_accepted accepted).2.2.2.symm.trans quiet.bTabs
      refine quiet.rep (rep_of_tabs rep rfl fun x mem => ?_)
      rw [← show tab.toUInt32 = (setTabs s tabs).bank.bTabs from set]
      exact low tab accepted x mem

theorem handle_rep {env : Env} {msg : CString} {s : Session} {h : Handler}
    (small : SmallLimits env) (own : s.bank.Owned) (rep : s.bank.Rep env)
    (ok : (representing env).handler msg s h) : (handle env msg s h).bank.Rep env := by
  by_cases tab : h = .unlockTab
  · subst tab
    exact unlockTab_rep rep (ok.2 rfl)
  · have edits := @handle_edits env msg _ h own
    unfold handlerTerms at edits
    cases act : itemAction env msg s h with
    | none =>
        rw [act] at edits
        exact edits.rep trivial trivial (fun n paid => tab paid.1) rep
    | some a =>
        rw [act] at edits
        obtain ⟨fitting, room⟩ := ok.1 a act
        exact edits.rep room ⟨small, rep.fits, fitting⟩ (fun n paid => paid) rep

theorem unlockGuildBank_rep {env : Env} {s : Session} {msg : CString} (rep : s.bank.Rep env)
    (ok : (representing env).unlock msg s) : (unlockGuildBank env s msg).bank.Rep env := by
  obtain ⟨-, out, done⟩ | ⟨accepted, loads⟩ := unlockGuildBank_cases env s msg
  · rw [done]
    exact rep
  · obtain ⟨noRows, low⟩ := ok accepted
    refine rep_of_tabs rep ?_ fun x mem => ?_
    · rw [loads.bItems, noRows, List.map_nil, List.append_nil]
    · rw [loads.bTabs]
      exact low x mem

theorem step_rep {env : Env} {guildid : UInt32} {w : World} {e : Event}
    (small : SmallLimits env) (of : w.OfGuild guildid) (rep : ∀ i, (w.bank i).Rep env)
    (meets : e.Meets env (representing env) w) (i : Bool) : ((step env w e).bank i).Rep env := by
  by_cases acts : e.acts w = some i
  · refine of.step_invariant (I := fun st => st.1.Rep env) ?_ ?_ ?_ ?_ meets acts (rep i)
    · intro msg s h st rep ok
      exact handle_rep small st.2.2.items rep ok
    · intro msg s _ rep ok
      exact unlockGuildBank_rep rep ok
    · intro st _ rep _
      exact settled_rep _ rep
    · intro b b' db aside rep
      exact aside.rep rep
  · rw [step_bank_of_ne acts]
    exact rep i

/-- In a run of commands that add only what fits, every bank is well represented in every state. -/
theorem bank_represented (env : Env) (small : SmallLimits env) (guildid : UInt32) (w : World)
    (es : List Event) (of : w.OfGuild guildid) (rep : ∀ i, (w.bank i).Rep env)
    (ok : Along (step env) (fun w e => e.Meets env (representing env) w) w es) :
    ∀ pre, pre <+: es → ∀ i, ((run (step env) w pre).bank i).Rep env := by
  intro pre before
  have reached := run_invariant_upto
    (I := fun w => w.OfGuild guildid ∧ ∀ i, (w.bank i).Rep env)
    (P := fun w e => e.Meets env (representing env) w) (by
      rintro w e ⟨of, rep⟩ meets
      exact ⟨step_ofGuild e of, step_rep small of rep meets⟩) ⟨of, rep⟩ ok before
  exact reached.2

theorem smallLimits_plainEnv : SmallLimits plainEnv := by
  intro entry
  have limit : stackLimit plainEnv entry = if entry < 1000 then 20 else 1 := by
    simp only [stackLimit, plainEnv, plainProto, Option.map_some, Option.getD_some,
      ItemPrototype.getMaxStackSize]
  rw [limit]
  split_ifs
  · decide
  · decide

instance (env : Env) (tabs : UInt32) (x : BankItem) : Decidable (x.Fits env tabs) :=
  decidable_of_iff
    ((1 ≤ x.tab.toNat ∧ x.tab.toNat ≤ tabs.toNat) ∧
      (1 ≤ x.slot.toNat ∧ x.slot.toNat ≤ 98) ∧
      (1 ≤ x.count.toNat ∧ x.count.toNat ≤ x.maxStackSize.toNat) ∧
      x.maxStackSize = stackLimit env x.itemTemplate)
    ⟨fun h => ⟨h.1, h.2.1, h.2.2.1, h.2.2.2⟩, fun h => ⟨h.tab, h.slot, h.count, h.limit⟩⟩

theorem guildWorld_rep (i : Bool) : (guildWorld.bank i).Rep plainEnv := by
  cases i with
  | false => exact ⟨by decide +kernel, by decide +kernel, by decide +kernel⟩
  | true => exact ⟨by decide +kernel, by decide +kernel, by decide +kernel⟩

def moveOnce : List Event := [.message 7 1000000 10 true "MoveItem:1:1:2".toList]

theorem moved_item_represented :
    ((run (step plainEnv) guildWorld moveOnce).bank false).Rep plainEnv := by
  refine bank_represented plainEnv smallLimits_plainEnv 1 guildWorld moveOnce
    (loaded_ofGuild _ _ _ _ _) guildWorld_rep ⟨⟨fun _ => ?_, fun unlocks => ?_⟩, trivial⟩ moveOnce
    List.prefix_rfl false
  · have only : handlers "MoveItem:1:1:2".toList = [.moveItem] := by decide +kernel
    rw [only]
    refine ⟨⟨fun a act => ⟨?_, by decide +kernel⟩, fun tab => by cases tab⟩, trivial⟩
    obtain ⟨_, _, _, _, _, _, rfl⟩ := itemAction_moveItem act
    trivial
  · exact absurd unlocks (by decide +kernel)

/-- Unlocking a bank that has an item: the item is in memory twice. -/
theorem unlocked_over_item :
    let w := step plainEnv guildWorld (.message 7 1000000 10 true "UnlockGuildBank:Ok".toList)
    (guildWorld.bank false).bTabs = 1 ∧
      (w.bank false).bItems.map BankItem.place = [(1, 1), (1, 1)] ∧
      (w.bank false).bItems.map BankItem.guid = [1, 1] := by
  decide +kernel

end TortoiseWow.GuildBank
