import Mathlib
import TortoiseWow.Lib.Run
import TortoiseWow.Shop.ShopMgr

/-!
Where the coins of an account are. A purchase that was charged is with the worker,
with a task, with a refund under way, stored or refunded, and in one of these places
only, as long as nothing comes between the statements of a purchase and none of them
fails after the charge.
-/

namespace TortoiseWow.Shop

open Lib

section Places

def inWorker : Worker → List Purchase
  | .insertLog p _ | .checkBalance p _ => [p]
  | .idle | .getBalance _ _ _ _ | .updateCoins _ _ => []

def refunding (pending : List AsyncStatement) : List Purchase :=
  pending.filterMap fun statement =>
    match statement with
    | .refund p => some p
    | .insertRow _ => none

theorem refunding_append (pending rest : List AsyncStatement) :
    refunding (pending ++ rest) = refunding pending ++ refunding rest :=
  List.filterMap_append

/-- The purchases that were delivered or are still being delivered. -/
def ShopMgr.outstanding (s : ShopMgr) : List Purchase :=
  inWorker s.worker ++ s.tasks ++ refunding s.pending ++ s.stored

def spent (purchases : List Purchase) (accountId : UInt32) : Int :=
  ((purchases.filter fun p => p.accountId = accountId).map (·.cost)).sum

theorem spent_perm {purchases others : List Purchase} (perm : purchases.Perm others)
    (accountId : UInt32) :
    spent purchases accountId = spent others accountId :=
  ((perm.filter _).map _).sum_eq

theorem spent_cons (p : Purchase) (purchases : List Purchase) (accountId : UInt32) :
    spent (p :: purchases) accountId =
      (if p.accountId = accountId then p.cost else 0) + spent purchases accountId := by
  rw [spent, List.filter_cons]
  by_cases mine : p.accountId = accountId
  · rw [if_pos (decide_eq_true mine), if_pos mine, List.map_cons, List.sum_cons, spent]
  · rw [if_neg (by simpa using mine), if_neg mine, Int.zero_add, spent]

theorem perm_eraseIdx {α : Type} {items : List α} {i : Nat} {item : α}
    (found : items[i]? = some item) :
    items.Perm (item :: items.eraseIdx i) := by
  obtain ⟨bound, rfl⟩ := List.getElem?_eq_some_iff.mp found
  exact (List.getElem_cons_eraseIdx_perm bound).symm

end Places

section Conservation

variable {initial : UInt32 → Int} {s : ShopMgr}

/-- The coins are what the account had, with its credits and without the price of what was
delivered or is being delivered; every purchase that was charged is in one place, and none of
those that were reported as failed was charged. -/
structure Conserved (initial : UInt32 → Int) (s : ShopMgr) : Prop where
  balance : ∀ accountId, (s.coins accountId).getD 0 =
    initial accountId + s.credits accountId - spent s.outstanding accountId
  once : s.charged.Perm (s.outstanding ++ s.refunded)
  distinct : (s.charged.map (·.shopId)).Nodup
  failed : ∀ p ∈ s.charged, p.shopId ∉ s.failed
  refundable : ∀ p ∈ s.tasks, s.entries p.shopId = some false

structure Uncharged (s : ShopMgr) (p : Purchase) : Prop where
  issued : p.shopId.toNat ≤ s.maxShopEntry.toNat
  fresh : ∀ other ∈ s.charged, other.shopId ≠ p.shopId
  row : ∃ coins, s.coins p.accountId = some coins

/-- What every step keeps, unless something comes between the statements of a purchase. -/
structure Kept (initial : UInt32 → Int) (s : ShopMgr) : Prop extends Conserved initial s where
  rows : ∀ p ∈ s.charged, ∃ coins, s.coins p.accountId = some coins
  issued : ∀ p ∈ s.charged, p.shopId.toNat ≤ s.maxShopEntry.toNat
  reported : ∀ shopId ∈ s.failed, shopId.toNat ≤ s.maxShopEntry.toNat
  charging : ∀ p newBalance, s.worker = .updateCoins p newBalance →
    Uncharged s p ∧ p.shopId ∉ s.failed

theorem Kept.move (h : Kept initial s) {s' : ShopMgr} (coins : s'.coins = s.coins)
    (credits : s'.credits = s.credits) (charged : s'.charged = s.charged)
    (refunded : s'.refunded = s.refunded) (failed : s'.failed = s.failed)
    (issued : s'.maxShopEntry = s.maxShopEntry) (places : s'.outstanding.Perm s.outstanding)
    (refundable : ∀ p ∈ s'.tasks, s'.entries p.shopId = some false)
    (charging : ∀ p newBalance, s'.worker = .updateCoins p newBalance →
      s.worker = .updateCoins p newBalance) : Kept initial s' where
  balance accountId := by
    rw [coins, credits, spent_perm places]
    exact h.balance accountId
  once := by
    rw [charged, refunded]
    exact h.once.trans (places.symm.append_right _)
  distinct := charged ▸ h.distinct
  failed := by
    rw [charged, failed]
    exact h.failed
  refundable := refundable
  rows := by
    rw [charged, coins]
    exact h.rows
  issued := by
    rw [charged, issued]
    exact h.issued
  reported := by
    rw [failed, issued]
    exact h.reported
  charging p newBalance there := by
    obtain ⟨uncharged, unreported⟩ := h.charging p newBalance (charging p newBalance there)
    refine ⟨⟨issued ▸ uncharged.issued, ?_, coins ▸ uncharged.row⟩, failed ▸ unreported⟩
    rw [charged]
    exact uncharged.fresh

/-- Without a purchase under way at the worker. -/
theorem Kept.idle (h : Kept initial s) (nobody : inWorker s.worker = []) {worker : Worker}
    (nobody' : inWorker worker = []) (waits : ∀ p newBalance, worker ≠ .updateCoins p newBalance) :
    Kept initial { s with worker := worker } := by
  refine h.move rfl rfl rfl rfl rfl rfl ?_ h.refundable fun p newBalance there =>
    absurd there (waits p newBalance)
  rw [ShopMgr.outstanding, ShopMgr.outstanding, nobody, nobody']

theorem getBalance_cases (s : ShopMgr) (accountId : UInt32) (ok : Bool) :
    ∃ pending, (s.getBalance accountId ok).2 = { s with pending := pending } ∧
      refunding pending = refunding s.pending := by
  have inserts : refunding (s.pending ++ [.insertRow accountId]) = refunding s.pending := by
    rw [refunding_append]
    exact List.append_nil _
  cases found : s.coins accountId with
  | none =>
      refine ⟨s.pending ++ [.insertRow accountId], ?_, inserts⟩
      simp only [ShopMgr.getBalance, found]
  | some coins =>
      cases ok with
      | true =>
          refine ⟨s.pending, ?_, rfl⟩
          simp only [ShopMgr.getBalance, found]
      | false =>
          refine ⟨s.pending ++ [.insertRow accountId], ?_, inserts⟩
          simp only [ShopMgr.getBalance, found]

theorem getBalance_none {accountId : UInt32} (absent : s.coins accountId = none) (ok : Bool) :
    (s.getBalance accountId ok).1 = 0 := by
  simp only [ShopMgr.getBalance, absent]

theorem Kept.getBalance (h : Kept initial s) (accountId : UInt32) (ok : Bool) :
    Kept initial (s.getBalance accountId ok).2 := by
  obtain ⟨pending, shape, same⟩ := getBalance_cases s accountId ok
  rw [shape]
  refine h.move rfl rfl rfl rfl rfl rfl ?_ h.refundable fun _ _ there => there
  rw [ShopMgr.outstanding, ShopMgr.outstanding, same]

theorem Kept.startPurchase (h : Kept initial s) (nobody : inWorker s.worker = [])
    (room : s.maxShopEntry.toNat + 1 < 2 ^ 32) (accountId guidLow itemId price : UInt32)
    (ok : Bool) : Kept initial (s.startPurchase accountId guidLow itemId price ok) := by
  have next : (s.maxShopEntry + 1).toNat = s.maxShopEntry.toNat + 1 := by
    rw [UInt32.toNat_add, UInt32.toNat_one]
    exact Nat.mod_eq_of_lt room
  have grows : s.maxShopEntry.toNat ≤ (s.maxShopEntry + 1).toNat := next ▸ Nat.le_succ _
  have read := h.getBalance accountId ok
  obtain ⟨pending, shape, -⟩ := getBalance_cases s accountId ok
  have absent := fun none => @getBalance_none s accountId none ok
  rw [ShopMgr.startPurchase]
  generalize s.getBalance accountId ok = result at read shape absent
  obtain ⟨coins, s'⟩ := result
  have shape : s' = { s with pending := pending } := shape
  rw [shape] at read ⊢
  have gives_up : Kept initial { { s with pending := pending } with worker := .idle } :=
    read.idle nobody rfl fun _ _ none => (nomatch none)
  simp only
  split
  · rename_i rich
    split
    · have row : ∃ coins, s.coins accountId = some coins := by
        cases found : s.coins accountId with
        | some coins => exact ⟨coins, rfl⟩
        | none =>
            have zero : coins = 0 := absent found
            exact absurd rich (zero ▸ Int.lt_irrefl 0)
      constructor
      · refine ⟨?_, ?_, h.distinct, h.failed, h.refundable⟩
        · intro other
          have same := read.balance other
          rw [ShopMgr.outstanding, nobody] at same
          exact same
        · have same := read.once
          rw [ShopMgr.outstanding, nobody] at same
          exact same
      · exact h.rows
      · exact fun p mem => (h.issued p mem).trans grows
      · exact fun shopId mem => (h.reported shopId mem).trans grows
      · intro p newBalance there
        cases there
        refine ⟨⟨Nat.le_refl _, ?_, row⟩, ?_⟩
        · intro other mem same
          have bound := h.issued other mem
          rw [same, next] at bound
          exact Nat.not_succ_le_self _ bound
        · intro reported
          have bound := h.reported _ reported
          rw [next] at bound
          exact Nat.not_succ_le_self _ bound
    · exact gives_up
  · exact gives_up

theorem updateCoins_coins (s : ShopMgr) (accountId : UInt32) (f : Int → Int) (other : UInt32) :
    (s.updateCoins accountId f).coins other =
      if other = accountId then (s.coins other).map f else s.coins other := rfl

theorem row_updateCoins {accountId other : UInt32} (f : Int → Int)
    (row : ∃ coins, s.coins other = some coins) :
    ∃ coins, (s.updateCoins accountId f).coins other = some coins := by
  obtain ⟨coins, found⟩ := row
  rw [updateCoins_coins, found]
  split
  · exact ⟨f coins, rfl⟩
  · exact ⟨coins, rfl⟩

theorem Kept.charge (h : Kept initial s) {p : Purchase} {newBalance : Int}
    (worker : s.worker = .updateCoins p newBalance)
    (untouched : s.coins p.accountId = some (newBalance + p.cost)) :
    Kept initial (s.charge p newBalance true) := by
  obtain ⟨uncharged, unreported⟩ := h.charging p newBalance worker
  have places : s.outstanding = s.tasks ++ refunding s.pending ++ s.stored := by
    rw [ShopMgr.outstanding, worker]
    rfl
  rw [ShopMgr.charge, if_pos rfl]
  constructor
  · constructor
    · intro accountId
      have balance := h.balance accountId
      have now : ShopMgr.outstanding
          { s.updateCoins p.accountId (fun _ => newBalance) with
            worker := .insertLog p newBalance, charged := s.charged ++ [p] } =
              p :: s.outstanding := by
        rw [places]
        rfl
      rw [now, spent_cons]
      rw [updateCoins_coins]
      by_cases mine : p.accountId = accountId
      · rw [← mine, untouched] at balance
        rw [if_pos mine.symm, if_pos mine, ← mine, untouched]
        change newBalance + p.cost = _ at balance
        change newBalance = initial p.accountId + s.credits p.accountId -
          (p.cost + spent s.outstanding p.accountId)
        omega
      · rw [if_neg fun same => mine same.symm, if_neg mine, Int.zero_add]
        exact balance
    · have now : ShopMgr.outstanding
          { s.updateCoins p.accountId (fun _ => newBalance) with
            worker := .insertLog p newBalance, charged := s.charged ++ [p] } =
              p :: s.outstanding := by
        rw [places]
        rfl
      rw [now]
      exact (List.perm_append_singleton p s.charged).trans (h.once.cons p)
    · rw [List.map_append]
      refine List.nodup_append.mpr ⟨h.distinct, List.nodup_singleton _, ?_⟩
      rintro shopId old other new rfl
      obtain ⟨q, mem, same⟩ := List.mem_map.mp old
      exact uncharged.fresh q mem (same.trans (List.mem_singleton.mp new))
    · intro q mem
      rcases List.mem_append.mp mem with old | new
      · exact h.failed q old
      · rw [List.mem_singleton.mp new]
        exact unreported
    · exact h.refundable
  · intro q mem
    rcases List.mem_append.mp mem with old | new
    · exact row_updateCoins _ (h.rows q old)
    · rw [List.mem_singleton.mp new]
      exact row_updateCoins _ uncharged.row
  · intro q mem
    rcases List.mem_append.mp mem with old | new
    · exact h.issued q old
    · rw [List.mem_singleton.mp new]
      exact uncharged.issued
  · exact h.reported
  · exact fun _ _ there => nomatch there

theorem Kept.fail (h : Kept initial s) {p : Purchase} {newBalance : Int}
    (worker : s.worker = .updateCoins p newBalance) : Kept initial (s.fail p) := by
  obtain ⟨uncharged, -⟩ := h.charging p newBalance worker
  have idle : Kept initial { s with worker := .idle } :=
    h.idle (congrArg inWorker worker) rfl fun _ _ none => (nomatch none)
  constructor
  · refine ⟨idle.balance, idle.once, h.distinct, ?_, h.refundable⟩
    intro q mem reported
    rcases List.mem_append.mp reported with old | new
    · exact h.failed q mem old
    · exact uncharged.fresh q mem (List.mem_singleton.mp new)
  · exact h.rows
  · exact h.issued
  · intro shopId reported
    rcases List.mem_append.mp reported with old | new
    · exact h.reported shopId old
    · rw [List.mem_singleton.mp new]
      exact uncharged.issued
  · exact fun _ _ there => nomatch there

theorem Kept.logPurchase (h : Kept initial s) {p : Purchase} {newBalance : Int}
    (worker : s.worker = .insertLog p newBalance) :
    Kept initial { s with worker := .checkBalance p newBalance } := by
  refine h.move rfl rfl rfl rfl rfl rfl ?_ h.refundable fun _ _ there => (nomatch there)
  rw [ShopMgr.outstanding, ShopMgr.outstanding, worker]
  exact List.Perm.refl _

theorem Kept.finishPurchase (h : Kept initial s) {p : Purchase} {newBalance : Int}
    (worker : s.worker = .checkBalance p newBalance) {ok : Bool}
    (untouched : (s.getBalance p.accountId ok).1 = newBalance) :
    Kept initial (s.finishPurchase p newBalance ok) := by
  have read := h.getBalance p.accountId ok
  obtain ⟨pending, shape, -⟩ := getBalance_cases s p.accountId ok
  rw [ShopMgr.finishPurchase]
  generalize s.getBalance p.accountId ok = result at read shape untouched
  obtain ⟨coins, s'⟩ := result
  have shape : s' = { s with pending := pending } := shape
  have untouched : coins = newBalance := untouched
  rw [shape] at read ⊢
  simp only
  rw [if_neg (not_not_intro untouched)]
  refine read.move rfl rfl rfl rfl rfl rfl ?_ ?_ fun _ _ there => (nomatch there)
  · rw [ShopMgr.outstanding, ShopMgr.outstanding]
    simp only [worker, inWorker, List.nil_append]
    exact ((List.perm_append_singleton p s.tasks).append_right _).append_right _
  · intro q mem
    simp only
    split
    · rfl
    · rename_i other
      rcases List.mem_append.mp mem with old | new
      · exact h.refundable q old
      · exact absurd (congrArg Purchase.shopId (List.mem_singleton.mp new)) other

theorem Kept.tasks_distinct (h : Kept initial s) : (s.tasks.map (·.shopId)).Nodup := by
  have places : ((s.outstanding ++ s.refunded).map (·.shopId)).Nodup :=
    (h.once.map _).nodup_iff.mp h.distinct
  refine places.sublist (List.Sublist.map _ ?_)
  rw [ShopMgr.outstanding]
  exact (((List.sublist_append_right _ _).trans (List.sublist_append_left _ _)).trans
    (List.sublist_append_left _ _)).trans (List.sublist_append_left _ _)

theorem Kept.sendItem (h : Kept initial s) (index : Nat) (stores : Bool) :
    Kept initial (s.sendItem index stores) := by
  cases found : s.tasks[index]? with
  | none =>
      simp only [ShopMgr.sendItem, found]
      exact h
  | some p =>
      have split := perm_eraseIdx found
      simp only [ShopMgr.sendItem, found]
      cases stores with
      | true =>
          rw [if_pos rfl]
          refine h.move rfl rfl rfl rfl rfl rfl ?_
            (fun q mem => h.refundable q (List.mem_of_mem_eraseIdx mem))
            fun _ _ there => there
          apply List.perm_iff_count.mpr
          intro q
          have counts := List.perm_iff_count.mp split q
          simp only [ShopMgr.outstanding, List.count_append, List.count_cons,
            List.count_nil] at counts ⊢
          omega
      | false =>
          rw [if_neg Bool.false_ne_true]
          split
          · refine h.move rfl rfl rfl rfl rfl rfl ?_ ?_ fun _ _ there => there
            · apply List.perm_iff_count.mpr
              intro q
              have counts := List.perm_iff_count.mp split q
              have more : refunding (s.pending ++ [.refund p]) = refunding s.pending ++ [p] :=
                refunding_append _ _
              simp only [ShopMgr.outstanding, more, List.count_append, List.count_cons,
                List.count_nil] at counts ⊢
              omega
            · intro q mem
              have ids := (split.map (·.shopId)).nodup_iff.mp h.tasks_distinct
              have other : q.shopId ≠ p.shopId := by
                intro same
                exact (List.nodup_cons.mp ids).1 (List.mem_map.mpr ⟨q, mem, same⟩)
              simp only
              rw [if_neg other]
              exact h.refundable q (List.mem_of_mem_eraseIdx mem)
          · exact h

theorem Kept.executeAsync (h : Kept initial s) (index : Nat) :
    Kept initial (s.executeAsync index) := by
  cases found : s.pending[index]? with
  | none =>
      simp only [ShopMgr.executeAsync, found]
      exact h
  | some statement =>
      have split : (refunding s.pending).Perm (refunding (statement :: s.pending.eraseIdx index)) :=
        (perm_eraseIdx found).filterMap _
      cases statement with
      | insertRow accountId =>
          have moved : Kept initial { s with pending := s.pending.eraseIdx index } := by
            refine h.move rfl rfl rfl rfl rfl rfl ?_ h.refundable fun _ _ there => there
            exact (split.symm.append_left _).append_right _
          have same (other : UInt32) :
              (if other = accountId then some ((s.coins other).getD 0) else s.coins other).getD 0 =
                (s.coins other).getD 0 := by
            split
            · rfl
            · rfl
          have row {other : UInt32} (there : ∃ coins, s.coins other = some coins) :
              ∃ coins,
                (if other = accountId then some ((s.coins other).getD 0) else s.coins other) =
                some coins := by
            split
            · exact ⟨_, rfl⟩
            · exact there
          simp only [ShopMgr.executeAsync, found]
          constructor
          · refine ⟨?_, moved.once, h.distinct, h.failed, h.refundable⟩
            intro other
            exact (same other).trans (moved.balance other)
          · exact fun p mem => row (h.rows p mem)
          · exact h.issued
          · exact h.reported
          · intro p newBalance there
            obtain ⟨uncharged, unreported⟩ := h.charging p newBalance there
            exact ⟨⟨uncharged.issued, uncharged.fresh, row uncharged.row⟩, unreported⟩
      | refund p =>
          have places : s.outstanding.Perm
              (p :: ShopMgr.outstanding { s with pending := s.pending.eraseIdx index }) := by
            apply List.perm_iff_count.mpr
            intro q
            have counts := List.perm_iff_count.mp split q
            have more : refunding (.refund p :: s.pending.eraseIdx index) =
                p :: refunding (s.pending.eraseIdx index) := rfl
            rw [more] at counts
            simp only [ShopMgr.outstanding, List.count_append, List.count_cons] at counts ⊢
            omega
          have mem : p ∈ s.charged :=
            h.once.mem_iff.mpr (List.mem_append_left _ (places.mem_iff.mpr List.mem_cons_self))
          obtain ⟨old, row⟩ := h.rows p mem
          simp only [ShopMgr.executeAsync, found]
          constructor
          · refine ⟨?_, ?_, h.distinct, h.failed, h.refundable⟩
            · intro other
              have balance := h.balance other
              rw [spent_perm places, spent_cons] at balance
              change ((s.updateCoins p.accountId (· + p.cost)).coins other).getD 0 =
                initial other + s.credits other -
                  spent (ShopMgr.outstanding { s with pending := s.pending.eraseIdx index }) other
              rw [updateCoins_coins]
              by_cases mine : other = p.accountId
              · rw [mine, row] at balance
                rw [if_pos rfl] at balance
                rw [if_pos mine, mine, row]
                change old = _ at balance
                change old + p.cost = _
                omega
              · rw [if_neg fun same => mine same.symm, Int.zero_add] at balance
                rw [if_neg mine]
                exact balance
            · apply List.perm_iff_count.mpr
              intro q
              have counts := List.perm_iff_count.mp (h.once.trans (places.append_right _)) q
              change s.charged.count q =
                (ShopMgr.outstanding { s with pending := s.pending.eraseIdx index } ++
                (s.refunded ++ [p])).count q
              simp only [List.count_append, List.count_cons, List.count_nil,
                List.cons_append] at counts ⊢
              omega
          · exact fun q there => row_updateCoins _ (h.rows q there)
          · exact h.issued
          · exact h.reported
          · intro q newBalance there
            obtain ⟨uncharged, unreported⟩ := h.charging q newBalance there
            exact ⟨⟨uncharged.issued, uncharged.fresh, row_updateCoins _ uncharged.row⟩, unreported⟩

theorem Kept.credit (h : Kept initial s) (accountId : UInt32) (x : Int) :
    Kept initial (s.credit accountId x) := by
  cases found : s.coins accountId with
  | none =>
      simp only [ShopMgr.credit, found]
      exact h
  | some coins =>
      simp only [ShopMgr.credit, found]
      constructor
      · refine ⟨?_, h.once, h.distinct, h.failed, h.refundable⟩
        intro other
        have balance := h.balance other
        change ((s.updateCoins accountId (· + x)).coins other).getD 0 = initial other +
          (if other = accountId then s.credits other + x else s.credits other) -
            spent s.outstanding other
        rw [updateCoins_coins]
        by_cases mine : other = accountId
        · rw [mine, found] at balance
          rw [if_pos mine, if_pos mine, mine, found]
          change coins = _ at balance
          change coins + x = _
          omega
        · rw [if_neg mine, if_neg mine]
          exact balance
      · exact fun p mem => row_updateCoins _ (h.rows p mem)
      · exact h.issued
      · exact h.reported
      · intro p newBalance there
        obtain ⟨uncharged, unreported⟩ := h.charging p newBalance there
        exact ⟨⟨uncharged.issued, uncharged.fresh, row_updateCoins _ uncharged.row⟩, unreported⟩

/-- What the statements of a purchase ask: the charge finds the coins that the balance was read
from, and after it nothing fails and the coins are still those that it has written. -/
def Undisturbed (s : ShopMgr) : Event → Prop
  | .next ok =>
      match s.worker with
      | .updateCoins p newBalance => ok = true → s.coins p.accountId = some (newBalance + p.cost)
      | .insertLog _ _ => ok = true
      | .checkBalance p newBalance => (s.getBalance p.accountId ok).1 = newBalance
      | .idle | .getBalance _ _ _ _ => True
  | .buyItem _ _ _ _ | .sendBalance _ _ | .sendItem _ _ | .executeAsync _ | .credit _ _ => True

instance (s : ShopMgr) (event : Event) : Decidable (Undisturbed s event) :=
  match event with
  | .next ok =>
      match worker : s.worker with
      | .updateCoins p newBalance =>
          decidable_of_iff (ok = true → s.coins p.accountId = some (newBalance + p.cost))
            (by simp only [Undisturbed, worker])
      | .insertLog _ _ => decidable_of_iff (ok = true) (by simp only [Undisturbed, worker])
      | .checkBalance p newBalance =>
          decidable_of_iff ((s.getBalance p.accountId ok).1 = newBalance)
            (by simp only [Undisturbed, worker])
      | .idle | .getBalance _ _ _ _ => .isTrue (by simp only [Undisturbed, worker])
  | .buyItem _ _ _ _ | .sendBalance _ _ | .sendItem _ _ | .executeAsync _ | .credit _ _ =>
      .isTrue trivial

/-- The last shop id that was given out, or the one that the worker is about to take. -/
def ShopMgr.issuing (s : ShopMgr) : Nat :=
  match s.worker with
  | .getBalance _ _ _ _ => s.maxShopEntry.toNat + 1
  | .idle | .updateCoins _ _ | .insertLog _ _ | .checkBalance _ _ => s.maxShopEntry.toNat

def Event.asks : Event → Nat
  | .buyItem _ _ _ _ => 1
  | .sendBalance _ _ | .next _ | .sendItem _ _ | .executeAsync _ | .credit _ _ => 0

def purchases (events : List Event) : Nat := (events.map Event.asks).sum

theorem le_issuing (s : ShopMgr) : s.maxShopEntry.toNat ≤ s.issuing := by
  rw [ShopMgr.issuing]
  split
  · exact Nat.le_succ _
  all_goals exact Nat.le_refl _

theorem issuing_getBalance (s : ShopMgr) (accountId : UInt32) (ok : Bool) :
    (s.getBalance accountId ok).2.issuing = s.issuing := by
  obtain ⟨pending, shape, -⟩ := getBalance_cases s accountId ok
  rw [shape]
  rfl

theorem issuing_startPurchase (s : ShopMgr) (accountId guidLow itemId price : UInt32) (ok : Bool) :
    (s.startPurchase accountId guidLow itemId price ok).issuing ≤ s.maxShopEntry.toNat + 1 := by
  obtain ⟨pending, shape, -⟩ := getBalance_cases s accountId ok
  rw [ShopMgr.startPurchase]
  generalize s.getBalance accountId ok = result at shape
  obtain ⟨coins, s'⟩ := result
  have shape : s' = { s with pending := pending } := shape
  rw [shape]
  simp only
  split
  · split
    · change (s.maxShopEntry + 1).toNat ≤ _
      rw [UInt32.toNat_add]
      exact Nat.mod_le _ _
    · exact Nat.le_succ _
  · exact Nat.le_succ _

theorem issuing_next (s : ShopMgr) (ok : Bool) : (s.step (.next ok)).issuing ≤ s.issuing := by
  cases worker : s.worker with
  | idle =>
      simp only [ShopMgr.step, worker]
      exact Nat.le_refl _
  | getBalance accountId guidLow itemId price =>
      simp only [ShopMgr.step, worker]
      refine (issuing_startPurchase s accountId guidLow itemId price ok).trans ?_
      rw [ShopMgr.issuing, worker]
  | updateCoins p newBalance =>
      refine Nat.le_trans ?_ (le_issuing s)
      simp only [ShopMgr.step, worker, ShopMgr.charge]
      split <;> exact Nat.le_refl _
  | insertLog p newBalance =>
      refine Nat.le_trans ?_ (le_issuing s)
      simp only [ShopMgr.step, worker, ShopMgr.logPurchase]
      split <;> exact Nat.le_refl _
  | checkBalance p newBalance =>
      obtain ⟨pending, shape, -⟩ := getBalance_cases s p.accountId ok
      refine Nat.le_trans ?_ (le_issuing s)
      simp only [ShopMgr.step, worker, ShopMgr.finishPurchase, shape]
      split <;> exact Nat.le_refl _

/-- A purchase takes one id. -/
theorem issuing_step (s : ShopMgr) (event : Event) :
    (s.step event).issuing ≤ s.issuing + event.asks := by
  cases event with
  | buyItem accountId guidLow itemId price =>
      simp only [ShopMgr.step]
      split
      · rename_i worker
        rw [ShopMgr.issuing.eq_def s, worker]
        exact Nat.le_refl _
      · exact Nat.le_succ _
  | sendBalance accountId ok =>
      simp only [ShopMgr.step]
      split
      · exact (issuing_getBalance s accountId ok).le
      · exact Nat.le_refl _
  | next ok => exact issuing_next s ok
  | sendItem index stores =>
      simp only [ShopMgr.step, ShopMgr.sendItem]
      repeat' split
      all_goals exact Nat.le_refl _
  | executeAsync index =>
      simp only [ShopMgr.step, ShopMgr.executeAsync]
      split
      all_goals exact Nat.le_refl _
  | credit accountId x =>
      simp only [ShopMgr.step, ShopMgr.credit]
      split
      all_goals exact Nat.le_refl _

theorem Kept.next (h : Kept initial s) (room : s.issuing < 2 ^ 32) {ok : Bool}
    (undisturbed : Undisturbed s (.next ok)) :
    Kept initial (s.step (.next ok)) := by
  cases worker : s.worker with
  | idle =>
      simp only [ShopMgr.step, worker]
      exact h
  | getBalance accountId guidLow itemId price =>
      simp only [ShopMgr.step, worker]
      rw [ShopMgr.issuing, worker] at room
      exact h.startPurchase (congrArg inWorker worker) room accountId guidLow itemId price ok
  | updateCoins p newBalance =>
      simp only [Undisturbed, worker] at undisturbed
      simp only [ShopMgr.step, worker]
      cases ok with
      | true => exact h.charge worker (undisturbed rfl)
      | false => exact h.fail worker
  | insertLog p newBalance =>
      simp only [Undisturbed, worker] at undisturbed
      simp only [ShopMgr.step, worker, ShopMgr.logPurchase, if_pos undisturbed]
      exact h.logPurchase worker
  | checkBalance p newBalance =>
      simp only [Undisturbed, worker] at undisturbed
      simp only [ShopMgr.step, worker]
      exact h.finishPurchase worker undisturbed

theorem Kept.step (h : Kept initial s) (room : s.issuing < 2 ^ 32) (event : Event)
    (undisturbed : Undisturbed s event) :
    Kept initial (s.step event) := by
  cases event with
  | buyItem accountId guidLow itemId price =>
      cases worker : s.worker with
      | idle =>
          cases price with
          | none =>
              simp only [ShopMgr.step, worker]
              exact h
          | some price =>
              simp only [ShopMgr.step, worker]
              exact h.idle (congrArg inWorker worker) rfl fun _ _ none => (nomatch none)
      | getBalance _ _ _ _ | updateCoins _ _ | insertLog _ _ | checkBalance _ _ =>
          simp only [ShopMgr.step, worker]
          exact h
  | sendBalance accountId ok =>
      simp only [ShopMgr.step]
      split
      · exact h.getBalance accountId ok
      · exact h
  | next ok => exact h.next room undisturbed
  | sendItem index stores => exact h.sendItem index stores
  | executeAsync index => exact h.executeAsync index
  | credit accountId x => exact h.credit accountId x

theorem Kept.fail_charged (h : Kept initial s) {p : Purchase} (working : p ∈ inWorker s.worker)
    {s' : ShopMgr}
    (charged : s'.charged = s.charged) : ¬ Conserved initial (s'.fail p) := by
  intro conserved
  have mem : p ∈ s.charged := by
    refine h.once.mem_iff.mpr (List.mem_append_left _ ?_)
    rw [ShopMgr.outstanding]
    exact List.mem_append_left _ (List.mem_append_left _ (List.mem_append_left _ working))
  have charged : (s'.fail p).charged = s.charged := charged
  exact conserved.failed p (charged ▸ mem) (List.mem_append_right _ List.mem_cons_self)

theorem Kept.charge_disturbed (h : Kept initial s) {p : Purchase} {newBalance : Int}
    (worker : s.worker = .updateCoins p newBalance)
    (disturbed : s.coins p.accountId ≠ some (newBalance + p.cost)) :
    ¬ Conserved initial (s.charge p newBalance true) := by
  intro conserved
  obtain ⟨coins, row⟩ := (h.charging p newBalance worker).1.row
  have before := h.balance p.accountId
  have after := conserved.balance p.accountId
  have places : ShopMgr.outstanding (s.charge p newBalance true) = p :: s.outstanding := by
    rw [ShopMgr.charge, if_pos rfl, ShopMgr.outstanding, ShopMgr.outstanding, worker]
    rfl
  rw [places, spent_cons, if_pos rfl] at after
  rw [ShopMgr.charge, if_pos rfl] at after
  change ((s.updateCoins p.accountId _).coins p.accountId).getD 0 =
    initial p.accountId + s.credits p.accountId - _ at after
  rw [updateCoins_coins, if_pos rfl, row] at after
  rw [row] at before
  change newBalance = _ at after
  change coins = _ at before
  apply disturbed
  rw [row]
  exact congrArg some (by omega)

theorem Kept.disturbed (h : Kept initial s) {event : Event} (disturbed : ¬ Undisturbed s event) :
    ¬ Conserved initial (s.step event) := by
  cases event with
  | buyItem _ _ _ _ | sendBalance _ _ | sendItem _ _ | executeAsync _ | credit _ _ =>
      exact absurd trivial disturbed
  | next ok =>
      cases worker : s.worker with
      | idle | getBalance _ _ _ _ =>
          simp only [Undisturbed, worker, not_true] at disturbed
      | updateCoins p newBalance =>
          simp only [Undisturbed, worker, Classical.not_imp] at disturbed
          simp only [ShopMgr.step, worker, disturbed.1]
          exact h.charge_disturbed worker disturbed.2
      | insertLog p newBalance =>
          simp only [Undisturbed, worker] at disturbed
          simp only [ShopMgr.step, worker, ShopMgr.logPurchase, if_neg disturbed]
          apply h.fail_charged
          · rw [worker]
            exact List.mem_cons_self
          · rfl
      | checkBalance p newBalance =>
          simp only [Undisturbed, worker] at disturbed
          obtain ⟨pending, shape, -⟩ := getBalance_cases s p.accountId ok
          simp only [ShopMgr.step, worker, ShopMgr.finishPurchase]
          rw [if_pos disturbed, shape]
          apply h.fail_charged
          · rw [worker]
            exact List.mem_cons_self
          · rfl

theorem kept_start (coins : UInt32 → Option Int) (maxShopEntry : UInt32) :
    Kept (fun accountId => (coins accountId).getD 0) (start coins maxShopEntry) where
  balance accountId := by
    change _ = _ + 0 - 0
    rw [Int.add_zero, Int.sub_zero]
    rfl
  once := List.Perm.refl _
  distinct := List.nodup_nil
  failed _ mem := absurd mem List.not_mem_nil
  refundable _ mem := absurd mem List.not_mem_nil
  rows _ mem := absurd mem List.not_mem_nil
  issued _ mem := absurd mem List.not_mem_nil
  reported _ mem := absurd mem List.not_mem_nil
  charging _ _ there := nomatch there

/-- Coins are conserved after every step exactly when every purchase is undisturbed, as long as
there are shop ids. -/
theorem coins_conserved_iff (coins : UInt32 → Option Int) (maxShopEntry : UInt32)
    (events : List Event) (few : maxShopEntry.toNat + purchases events < 2 ^ 32) :
    Along ShopMgr.step
        (fun s event => Conserved (fun accountId => (coins accountId).getD 0) (s.step event))
        (start coins maxShopEntry) events ↔
      Along ShopMgr.step Undisturbed (start coins maxShopEntry) events := by
  refine along_iff_rest (I := fun rest s => Kept (fun accountId => (coins accountId).getD 0) s ∧
    s.issuing + purchases rest < 2 ^ 32) ?_ ?_ ⟨kept_start coins maxShopEntry, few⟩
  · rintro s event rest ⟨h, room⟩
    constructor
    · intro conserved
      by_contra disturbed
      exact h.disturbed disturbed conserved
    · exact fun undisturbed =>
        (h.step (Nat.lt_of_le_of_lt (Nat.le_add_right _ _) room) event undisturbed).toConserved
  · rintro s event rest ⟨h, room⟩ undisturbed
    refine ⟨h.step (Nat.lt_of_le_of_lt (Nat.le_add_right _ _) room) event undisturbed, ?_⟩
    have grows := issuing_step s event
    rw [purchases, List.map_cons, List.sum_cons, ← purchases] at room
    omega

/-- Only the first account has coins. Its player buys two items, one of which finds no room and is
refunded after a credit, and a third for which there are not enough coins; the player of the second
account asks for his balance and buys nothing. -/
def shopping : List Event :=
  [.buyItem 1 7 9 (some 30), .next true, .next true, .next true, .next true,
    .buyItem 1 7 9 (some 60),
    .next true, .next true, .sendItem 0 true, .next true, .next true, .credit 1 50,
    .sendItem 0 false, .sendBalance 2 true, .executeAsync 0, .executeAsync 0, .credit 2 5,
    .buyItem 2 8 9 (some 30), .next true, .buyItem 1 7 9 (some 200), .next true]

theorem shopping_conserved :
    Along ShopMgr.step
      (fun s event =>
        Conserved (fun accountId => (if accountId = 1 then some (100 : Int) else none).getD 0)
        (s.step event))
      (start (fun accountId => if accountId = 1 then some 100 else none) 1000001) shopping :=
  (coins_conserved_iff _ 1000001 shopping (by decide)).mpr (by decide +kernel)

/-- 50 coins that are credited while the balance is read are overwritten by the charge. -/
theorem credit_overwritten :
    ¬ Along ShopMgr.step (fun s event => Conserved (fun _ => 100) (s.step event))
      (start (fun _ => some 100) 0)
      [.buyItem 1 7 9 (some 30), .next true, .credit 1 50, .next true] := by
  intro conserved
  have balance := (conserved.2.2.2.1).balance 1
  exact absurd balance (by decide)

end Conservation

end TortoiseWow.Shop
