import Mathlib
import TortoiseWow.Lib.Run

/-!
The honor and the conquest points that a player can spend, with the honor of the week, and a
ledger of what the operations report. A balance is off by 2^32 for each credit that is more than
it can hold, and nothing ever makes up for that. Rank points are left out.
-/

namespace TortoiseWow.HonorCurrency

structure HonorMgr where
  spendableHonor : UInt32 := 0
  conquestPoints : UInt32 := 0
  weeklySpendableHonor : UInt32 := 0
  currencyWeekBeginDay : UInt32 := 0
  deriving Repr, DecidableEq

structure CurrencyRow where
  honor : UInt32
  conquest : UInt32
  weeklyHonor : UInt32
  weekBeginDay : UInt32
  deriving Repr, DecidableEq

/-- What the maintenancer and the world say about the day. -/
structure Calendar where
  weekBeginDay : UInt32
  gameDay : UInt32
  deriving Repr, DecidableEq

/-- As long as there was no maintenance each day is a week of its own. -/
def Calendar.week (calendar : Calendar) : UInt32 :=
  if calendar.weekBeginDay = 0 then calendar.gameDay else calendar.weekBeginDay

namespace HonorMgr

variable (mgr : HonorMgr)

def resetCurrencyWeekIfNeeded (calendar : Calendar) : HonorMgr :=
  if mgr.currencyWeekBeginDay ≠ calendar.week then
    { mgr with weeklySpendableHonor := 0, currencyWeekBeginDay := calendar.week }
  else mgr

def loadCurrency (calendar : Calendar) (result : Option CurrencyRow) : HonorMgr :=
  let mgr : HonorMgr :=
    match result with
    | none => { currencyWeekBeginDay := calendar.weekBeginDay }
    | some row =>
        { spendableHonor := row.honor
          conquestPoints := row.conquest
          weeklySpendableHonor := row.weeklyHonor
          currencyWeekBeginDay := row.weekBeginDay }
  mgr.resetCurrencyWeekIfNeeded calendar

def saveCurrency (calendar : Calendar) : CurrencyRow × HonorMgr :=
  let mgr := mgr.resetCurrencyWeekIfNeeded calendar
  (⟨mgr.spendableHonor, mgr.conquestPoints, mgr.weeklySpendableHonor, mgr.currencyWeekBeginDay⟩,
    mgr)

def addSpendableHonor (calendar : Calendar) (weeklyHonorCap amount : UInt32) : UInt32 × HonorMgr :=
  if amount = 0 then (0, mgr)
  else
    let mgr := mgr.resetCurrencyWeekIfNeeded calendar
    if weeklyHonorCap ≤ mgr.weeklySpendableHonor then (0, mgr)
    else
      let amountToAdd := min amount (weeklyHonorCap - mgr.weeklySpendableHonor)
      (amountToAdd, { mgr with
        spendableHonor := mgr.spendableHonor + amountToAdd
        weeklySpendableHonor := mgr.weeklySpendableHonor + amountToAdd })

def modifySpendableHonor (calendar : Calendar) (amount : Int32) : UInt32 × HonorMgr :=
  let mgr := mgr.resetCurrencyWeekIfNeeded calendar
  if 0 < amount.toInt then
    let amountToAdd := UInt32.ofNat (min amount.toInt.toNat (4294967295 - mgr.spendableHonor).toNat)
    (amountToAdd, { mgr with spendableHonor := mgr.spendableHonor + amountToAdd })
  else if amount.toInt = 0 then (0, mgr)
  else
    let amountToRemove := UInt32.ofNat (min mgr.spendableHonor.toNat (-amount.toInt).toNat)
    (amountToRemove, { mgr with spendableHonor := mgr.spendableHonor - amountToRemove })

def spendSpendableHonor (calendar : Calendar) (amount : UInt32) : Bool × HonorMgr :=
  let mgr := mgr.resetCurrencyWeekIfNeeded calendar
  if mgr.spendableHonor < amount then (false, mgr)
  else (true, { mgr with spendableHonor := mgr.spendableHonor - amount })

def addConquestPoints (amount : UInt32) : Bool × HonorMgr :=
  if amount = 0 then (false, mgr)
  else (true, { mgr with conquestPoints := mgr.conquestPoints + amount })

def spendConquestPoints (amount : UInt32) : Bool × HonorMgr :=
  if mgr.conquestPoints < amount then (false, mgr)
  else (true, { mgr with conquestPoints := mgr.conquestPoints - amount })

end HonorMgr

/-- What the operations have reported, and what was credited since the honor week began. -/
structure Ledger where
  honorIn : Nat := 0
  honorOut : Nat := 0
  conquestIn : Nat := 0
  conquestOut : Nat := 0
  weekIn : Nat := 0
  deriving Repr, DecidableEq

structure Account where
  mgr : HonorMgr
  calendar : Calendar
  row : Option CurrencyRow := none
  ledger : Ledger := {}
  deriving Repr, DecidableEq

inductive CurrencyEvent where
  | addSpendableHonor (amount : UInt32)
  | modifySpendableHonor (amount : Int32)
  | spendSpendableHonor (amount : UInt32)
  | addConquestPoints (amount : UInt32)
  | spendConquestPoints (amount : UInt32)
  | newDay (calendar : Calendar)
  | save
  /-- The player logs out, and in again on a day of this calendar. -/
  | relog (calendar : Calendar)
  deriving Repr, DecidableEq

namespace Account

variable (account : Account)

def setCalendar (calendar : Calendar) : Account :=
  { account with
    calendar
    ledger := if calendar.week = account.calendar.week then account.ledger
      else { account.ledger with weekIn := 0 } }

def saved : Account :=
  let (row, mgr) := account.mgr.saveCurrency account.calendar
  { account with mgr, row := some row }

def loaded : Account :=
  { account with mgr := HonorMgr.loadCurrency account.calendar account.row }

def step (weeklyHonorCap : UInt32) : CurrencyEvent → Account
  | .addSpendableHonor amount =>
      let (credited, mgr) := account.mgr.addSpendableHonor account.calendar weeklyHonorCap amount
      { account with
        mgr
        ledger := { account.ledger with
          honorIn := account.ledger.honorIn + credited.toNat
          weekIn := account.ledger.weekIn + credited.toNat } }
  | .modifySpendableHonor amount =>
      let (changed, mgr) := account.mgr.modifySpendableHonor account.calendar amount
      { account with
        mgr
        ledger :=
          if 0 < amount.toInt then
            { account.ledger with honorIn := account.ledger.honorIn + changed.toNat }
          else { account.ledger with honorOut := account.ledger.honorOut + changed.toNat } }
  | .spendSpendableHonor amount =>
      let (spent, mgr) := account.mgr.spendSpendableHonor account.calendar amount
      { account with
        mgr
        ledger := { account.ledger with
          honorOut := account.ledger.honorOut + if spent then amount.toNat else 0 } }
  | .addConquestPoints amount =>
      let (added, mgr) := account.mgr.addConquestPoints amount
      { account with
        mgr
        ledger := { account.ledger with
          conquestIn := account.ledger.conquestIn + if added then amount.toNat else 0 } }
  | .spendConquestPoints amount =>
      let (spent, mgr) := account.mgr.spendConquestPoints amount
      { account with
        mgr
        ledger := { account.ledger with
          conquestOut := account.ledger.conquestOut + if spent then amount.toNat else 0 } }
  | .newDay calendar => account.setCalendar calendar
  | .save => account.saved
  | .relog calendar => (account.saved.setCalendar calendar).loaded

end Account

/-- The account of a player who begins with this. -/
def opened (mgr : HonorMgr) (calendar : Calendar) (row : Option CurrencyRow) : Account :=
  { mgr, calendar, row }

def run (weeklyHonorCap : UInt32) (account : Account) (events : List CurrencyEvent) : Account :=
  Lib.run (Account.step · weeklyHonorCap) account events

structure Balanced (weeklyHonorCap : UInt32) (start : HonorMgr) (account : Account) : Prop where
  honor : account.mgr.spendableHonor.toNat + account.ledger.honorOut =
    start.spendableHonor.toNat + account.ledger.honorIn
  conquest : account.mgr.conquestPoints.toNat + account.ledger.conquestOut =
    start.conquestPoints.toNat + account.ledger.conquestIn
  week : account.ledger.weekIn ≤ weeklyHonorCap.toNat

/-- The balance can hold what is left of the week's honor, or what is asked for if that is less;
and the conquest points can hold the points that are added. -/
def Holds (weeklyHonorCap : UInt32) (account : Account) : CurrencyEvent → Prop
  | .addSpendableHonor amount =>
      account.mgr.spendableHonor.toNat + min amount.toNat (weeklyHonorCap.toNat -
        (account.mgr.resetCurrencyWeekIfNeeded account.calendar).weeklySpendableHonor.toNat) <
          2 ^ 32
  | .addConquestPoints amount => account.mgr.conquestPoints.toNat + amount.toNat < 2 ^ 32
  | .modifySpendableHonor _ | .spendSpendableHonor _ | .spendConquestPoints _ | .newDay _ | .save
  | .relog _ => True

theorem toNat_min (a b : UInt32) : (min a b).toNat = min a.toNat b.toNat := by
  change (if a ≤ b then a else b).toNat = _
  split
  · next le => exact (Nat.min_eq_left (UInt32.le_iff_toNat_le.mp le)).symm
  · next less =>
      have below := UInt32.lt_iff_toNat_lt.mp (UInt32.not_le.mp less)
      exact (Nat.min_eq_right (Nat.le_of_lt below)).symm

namespace HonorMgr

variable (mgr : HonorMgr) (calendar : Calendar)

@[simp] theorem reset_spendableHonor :
    (mgr.resetCurrencyWeekIfNeeded calendar).spendableHonor = mgr.spendableHonor := by
  unfold resetCurrencyWeekIfNeeded
  split <;> rfl

@[simp] theorem reset_conquestPoints :
    (mgr.resetCurrencyWeekIfNeeded calendar).conquestPoints = mgr.conquestPoints := by
  unfold resetCurrencyWeekIfNeeded
  split <;> rfl

theorem reset_week :
    (mgr.resetCurrencyWeekIfNeeded calendar).currencyWeekBeginDay = calendar.week := by
  unfold resetCurrencyWeekIfNeeded
  split
  · rfl
  · next same => exact not_not.mp same

theorem reset_of_week (same : mgr.currencyWeekBeginDay = calendar.week) :
    mgr.resetCurrencyWeekIfNeeded calendar = mgr :=
  if_neg (not_not.mpr same)

theorem addSpendableHonor_credited (weeklyHonorCap amount : UInt32) :
    (mgr.addSpendableHonor calendar weeklyHonorCap amount).1.toNat = min amount.toNat
      (weeklyHonorCap.toNat -
        (mgr.resetCurrencyWeekIfNeeded calendar).weeklySpendableHonor.toNat) := by
  unfold addSpendableHonor
  by_cases zero : amount = 0
  · subst zero
    simp
  · simp only [zero, if_false]
    by_cases full : weeklyHonorCap ≤ (mgr.resetCurrencyWeekIfNeeded calendar).weeklySpendableHonor
    · have none_left := UInt32.le_iff_toNat_le.mp full
      rw [if_pos full, Nat.sub_eq_zero_of_le none_left]
      simp
    · have left := UInt32.le_iff_toNat_le.mp (UInt32.le_of_lt (UInt32.not_le.mp full))
      rw [if_neg full, ← UInt32.toNat_sub_of_le _ _ (UInt32.le_iff_toNat_le.mpr left)]
      exact toNat_min _ _

theorem addSpendableHonor_balances (weeklyHonorCap amount : UInt32) :
    let credited := mgr.addSpendableHonor calendar weeklyHonorCap amount
    credited.2.spendableHonor = mgr.spendableHonor + credited.1 ∧
      credited.2.conquestPoints = mgr.conquestPoints := by
  unfold addSpendableHonor
  by_cases zero : amount = 0
  · simp [zero]
  · simp only [zero, if_false]
    split
    · simp
    · simp

theorem modifySpendableHonor_raised {amount : Int32} (raise : 0 < amount.toInt) :
    let changed := mgr.modifySpendableHonor calendar amount
    changed.2.spendableHonor.toNat = mgr.spendableHonor.toNat + changed.1.toNat ∧
      changed.2.conquestPoints = mgr.conquestPoints := by
  simp only [modifySpendableHonor, raise, if_true, reset_spendableHonor, reset_conquestPoints,
    and_true]
  have room : (4294967295 - mgr.spendableHonor).toNat = 4294967295 - mgr.spendableHonor.toNat :=
    UInt32.toNat_sub_of_le _ _ (UInt32.le_iff_toNat_le.mpr
      (Nat.le_of_lt_succ mgr.spendableHonor.toNat_lt))
  have bound := mgr.spendableHonor.toNat_lt
  rw [UInt32.toNat_add, UInt32.toNat_ofNat', room]
  omega

theorem modifySpendableHonor_lowered {amount : Int32} (lower : ¬ 0 < amount.toInt) :
    let changed := mgr.modifySpendableHonor calendar amount
    changed.2.spendableHonor.toNat + changed.1.toNat = mgr.spendableHonor.toNat ∧
      changed.2.conquestPoints = mgr.conquestPoints := by
  simp only [modifySpendableHonor, lower, if_false]
  split
  · simp
  · simp only [reset_spendableHonor, reset_conquestPoints, and_true]
    have bound := mgr.spendableHonor.toNat_lt
    rw [UInt32.toNat_sub, UInt32.toNat_ofNat']
    omega

theorem spendSpendableHonor_balances (amount : UInt32) :
    let spent := mgr.spendSpendableHonor calendar amount
    (spent.2.spendableHonor.toNat + if spent.1 then amount.toNat else 0) =
        mgr.spendableHonor.toNat ∧
      spent.2.conquestPoints = mgr.conquestPoints := by
  simp only [spendSpendableHonor, reset_spendableHonor]
  split
  · simp
  · next enough =>
      simp only [if_true, reset_conquestPoints, and_true]
      rw [UInt32.toNat_sub_of_le _ _ (UInt32.not_lt.mp enough)]
      exact Nat.sub_add_cancel (UInt32.le_iff_toNat_le.mp (UInt32.not_lt.mp enough))

theorem addConquestPoints_balances (amount : UInt32) :
    let added := mgr.addConquestPoints amount
    added.2.conquestPoints = mgr.conquestPoints + amount ∧
      (if added.1 then amount.toNat else 0) = amount.toNat ∧
        added.2.spendableHonor = mgr.spendableHonor := by
  unfold addConquestPoints
  by_cases zero : amount = 0
  · simp [zero]
  · simp [zero]

theorem spendConquestPoints_balances (amount : UInt32) :
    let spent := mgr.spendConquestPoints amount
    (spent.2.conquestPoints.toNat + if spent.1 then amount.toNat else 0) =
        mgr.conquestPoints.toNat ∧
      spent.2.spendableHonor = mgr.spendableHonor := by
  unfold spendConquestPoints
  split
  · simp
  · next enough =>
      simp only [if_true, and_true]
      rw [UInt32.toNat_sub_of_le _ _ (UInt32.not_lt.mp enough)]
      exact Nat.sub_add_cancel (UInt32.le_iff_toNat_le.mp (UInt32.not_lt.mp enough))

end HonorMgr

theorem raised_eq_iff (balance credited : UInt32) :
    ((balance + credited).toNat ≤ balance.toNat + credited.toNat) ∧
      ((balance + credited).toNat = balance.toNat + credited.toNat ↔
        balance.toNat + credited.toNat < 2 ^ 32) := by
  rw [UInt32.toNat_add]
  omega

namespace Account

variable (account : Account) (weeklyHonorCap : UInt32)

def honorMissing : Int :=
  account.ledger.honorIn - account.ledger.honorOut - account.mgr.spendableHonor.toNat

def conquestMissing : Int :=
  account.ledger.conquestIn - account.ledger.conquestOut - account.mgr.conquestPoints.toNat

structure MissesNoMore (before after : Account) : Prop where
  honor : after.honorMissing = before.honorMissing
  conquest : after.conquestMissing = before.conquestMissing

structure MissesAtLeast (before after : Account) : Prop where
  honor : before.honorMissing ≤ after.honorMissing
  conquest : before.conquestMissing ≤ after.conquestMissing

theorem MissesNoMore.misses {before after : Account} (h : before.MissesNoMore after) :
    before.MissesAtLeast after := ⟨h.honor.ge, h.conquest.ge⟩

/-- A step that changes neither a balance nor the totals of the ledger. -/
theorem missesNoMore_of_same {after : Account}
    (honor : after.mgr.spendableHonor = account.mgr.spendableHonor)
    (conquest : after.mgr.conquestPoints = account.mgr.conquestPoints)
    (honorIn : after.ledger.honorIn = account.ledger.honorIn)
    (honorOut : after.ledger.honorOut = account.ledger.honorOut)
    (conquestIn : after.ledger.conquestIn = account.ledger.conquestIn)
    (conquestOut : after.ledger.conquestOut = account.ledger.conquestOut) :
    account.MissesNoMore after := by
  constructor
  · rw [honorMissing, honorMissing, honor, honorIn, honorOut]
  · rw [conquestMissing, conquestMissing, conquest, conquestIn, conquestOut]

theorem setCalendar_missesNoMore (calendar : Calendar) :
    account.MissesNoMore (account.setCalendar calendar) := by
  unfold setCalendar
  split
  · exact ⟨rfl, rfl⟩
  · exact ⟨rfl, rfl⟩

theorem saved_missesNoMore : account.MissesNoMore account.saved :=
  account.missesNoMore_of_same (account.mgr.reset_spendableHonor _)
    (account.mgr.reset_conquestPoints _) rfl rfl rfl rfl

theorem relog_missesNoMore (calendar : Calendar) :
    account.MissesNoMore (account.saved.setCalendar calendar).loaded := by
  have same : (account.saved.setCalendar calendar).loaded.mgr =
      (account.mgr.resetCurrencyWeekIfNeeded account.calendar).resetCurrencyWeekIfNeeded calendar :=
    rfl
  have kept := account.saved.setCalendar_missesNoMore calendar
  have before := account.saved_missesNoMore
  have after : (account.saved.setCalendar calendar).MissesNoMore
      (account.saved.setCalendar calendar).loaded := by
    refine missesNoMore_of_same _ ?_ ?_ rfl rfl rfl rfl
    · rw [same, HonorMgr.reset_spendableHonor]
      rfl
    · rw [same, HonorMgr.reset_conquestPoints]
      rfl
  exact ⟨after.honor.trans (kept.honor.trans before.honor),
    after.conquest.trans (kept.conquest.trans before.conquest)⟩

/-- All that a step can do to the balances: what it credits may be lost, and is lost exactly where
the balance cannot hold it. -/
theorem step_misses (event : CurrencyEvent) :
    account.MissesAtLeast (account.step weeklyHonorCap event) ∧
      (account.MissesNoMore (account.step weeklyHonorCap event) ↔
        Holds weeklyHonorCap account event) := by
  have always : ∀ {after : Account}, account.MissesNoMore after →
      account.MissesAtLeast after ∧ (account.MissesNoMore after ↔ True) :=
    fun kept => ⟨kept.misses, iff_true_intro kept⟩
  cases event with
  | addSpendableHonor amount =>
      obtain ⟨honor, conquest⟩ :=
        account.mgr.addSpendableHonor_balances account.calendar weeklyHonorCap amount
      have credited :=
        account.mgr.addSpendableHonor_credited account.calendar weeklyHonorCap amount
      have raised := raised_eq_iff account.mgr.spendableHonor
        (account.mgr.addSpendableHonor account.calendar weeklyHonorCap amount).1
      rw [← honor] at raised
      simp only [Holds, ← credited, ← raised.2]
      have same : (account.step weeklyHonorCap (.addSpendableHonor amount)).conquestMissing =
          account.conquestMissing := by
        simp only [conquestMissing, step, conquest]
      refine ⟨⟨?_, same.ge⟩, fun kept => ?_, fun held => ⟨?_, same⟩⟩
      · simp only [honorMissing, step]
        omega
      · have honor := kept.honor
        simp only [honorMissing, step] at honor
        omega
      · simp only [honorMissing, step]
        omega
  | modifySpendableHonor amount =>
      refine always ?_
      by_cases raise : 0 < amount.toInt
      · obtain ⟨honor, conquest⟩ := account.mgr.modifySpendableHonor_raised account.calendar raise
        constructor
        · simp only [honorMissing, step, raise, if_true]
          omega
        · simp only [conquestMissing, step, raise, if_true, conquest]
      · obtain ⟨honor, conquest⟩ := account.mgr.modifySpendableHonor_lowered account.calendar raise
        constructor
        · simp only [honorMissing, step, raise, if_false]
          omega
        · simp only [conquestMissing, step, raise, if_false, conquest]
  | spendSpendableHonor amount =>
      obtain ⟨honor, conquest⟩ := account.mgr.spendSpendableHonor_balances account.calendar amount
      refine always ⟨?_, ?_⟩
      · simp only [honorMissing, step]
        omega
      · simp only [conquestMissing, step, conquest]
  | addConquestPoints amount =>
      obtain ⟨conquest, reported, honor⟩ := account.mgr.addConquestPoints_balances amount
      have raised := raised_eq_iff account.mgr.conquestPoints amount
      rw [← conquest] at raised
      simp only [Holds, ← raised.2]
      have same : (account.step weeklyHonorCap (.addConquestPoints amount)).honorMissing =
          account.honorMissing := by
        simp only [honorMissing, step, honor]
      refine ⟨⟨same.ge, ?_⟩, fun kept => ?_, fun held => ⟨same, ?_⟩⟩
      · simp only [conquestMissing, step, reported]
        omega
      · have conquest := kept.conquest
        simp only [conquestMissing, step, reported] at conquest
        omega
      · simp only [conquestMissing, step, reported]
        omega
  | spendConquestPoints amount =>
      obtain ⟨conquest, honor⟩ := account.mgr.spendConquestPoints_balances amount
      refine always ⟨?_, ?_⟩
      · simp only [honorMissing, step, honor]
      · simp only [conquestMissing, step]
        omega
  | newDay calendar => exact always (account.setCalendar_missesNoMore calendar)
  | save => exact always account.saved_missesNoMore
  | relog calendar => exact always (account.relog_missesNoMore calendar)

/-- A loss is never made up for, so a run keeps the balances exactly where each step does. -/
theorem run_misses (events : List CurrencyEvent) :
    account.MissesAtLeast (run weeklyHonorCap account events) ∧
      (account.MissesNoMore (run weeklyHonorCap account events) ↔
        Lib.Along (Account.step · weeklyHonorCap) (Holds weeklyHonorCap) account events) := by
  induction events generalizing account with
  | nil => exact ⟨⟨le_refl _, le_refl _⟩, iff_of_true ⟨rfl, rfl⟩ trivial⟩
  | cons event events ih =>
      obtain ⟨first, exact_first⟩ := account.step_misses weeklyHonorCap event
      obtain ⟨rest, exact_rest⟩ := ih (account.step weeklyHonorCap event)
      rw [Lib.along_cons, ← exact_first, ← exact_rest]
      refine ⟨⟨first.honor.trans rest.honor, first.conquest.trans rest.conquest⟩, ?_, ?_⟩
      · intro kept
        have honor := le_antisymm (rest.honor.trans_eq kept.honor) first.honor
        have conquest := le_antisymm (rest.conquest.trans_eq kept.conquest) first.conquest
        exact ⟨⟨honor, conquest⟩, kept.honor.trans honor.symm, kept.conquest.trans conquest.symm⟩
      · rintro ⟨kept, kept'⟩
        exact ⟨kept'.honor.trans kept.honor, kept'.conquest.trans kept.conquest⟩

structure WithinCap : Prop where
  cap : account.ledger.weekIn ≤ weeklyHonorCap.toNat
  counted : account.ledger.weekIn ≤
    (account.mgr.resetCurrencyWeekIfNeeded account.calendar).weeklySpendableHonor.toNat

variable {account weeklyHonorCap}

/-- A step that credits nothing for the week, and looks at the week before it changes anything. -/
theorem WithinCap.of_reset (h : account.WithinCap weeklyHonorCap) {after : Account}
    (weekIn : after.ledger.weekIn = account.ledger.weekIn)
    (counter : (after.mgr.resetCurrencyWeekIfNeeded after.calendar).weeklySpendableHonor =
      (account.mgr.resetCurrencyWeekIfNeeded account.calendar).weeklySpendableHonor) :
    after.WithinCap weeklyHonorCap := by
  constructor
  · exact weekIn ▸ h.cap
  · rw [weekIn, counter]
    exact h.counted

theorem WithinCap.of_looked (h : account.WithinCap weeklyHonorCap) {after : Account}
    (weekIn : after.ledger.weekIn = account.ledger.weekIn)
    (calendar : after.calendar = account.calendar)
    (week : after.mgr.currencyWeekBeginDay = account.calendar.week)
    (counter : after.mgr.weeklySpendableHonor =
      (account.mgr.resetCurrencyWeekIfNeeded account.calendar).weeklySpendableHonor) :
    after.WithinCap weeklyHonorCap := by
  refine h.of_reset weekIn ?_
  rw [calendar, HonorMgr.reset_of_week _ _ week, counter]

theorem WithinCap.addSpendableHonor (h : account.WithinCap weeklyHonorCap) (amount : UInt32) :
    (account.step weeklyHonorCap (.addSpendableHonor amount)).WithinCap weeklyHonorCap := by
  have credited :=
    account.mgr.addSpendableHonor_credited account.calendar weeklyHonorCap amount
  have counter : ((account.mgr.addSpendableHonor account.calendar weeklyHonorCap
        amount).2.resetCurrencyWeekIfNeeded account.calendar).weeklySpendableHonor =
      (account.mgr.resetCurrencyWeekIfNeeded account.calendar).weeklySpendableHonor +
        (account.mgr.addSpendableHonor account.calendar weeklyHonorCap amount).1 := by
    unfold HonorMgr.addSpendableHonor
    by_cases zero : amount = 0
    · simp [zero]
    · simp only [zero, if_false]
      split
      · rw [HonorMgr.reset_of_week _ _ (HonorMgr.reset_week _ _), UInt32.add_zero]
      · rw [HonorMgr.reset_of_week]
        exact account.mgr.reset_week account.calendar
  have cap := h.cap
  have counted := h.counted
  have bound := weeklyHonorCap.toNat_lt
  have sum : ((account.mgr.resetCurrencyWeekIfNeeded account.calendar).weeklySpendableHonor +
      (account.mgr.addSpendableHonor account.calendar weeklyHonorCap amount).1).toNat =
        (account.mgr.resetCurrencyWeekIfNeeded account.calendar).weeklySpendableHonor.toNat +
          (account.mgr.addSpendableHonor account.calendar weeklyHonorCap amount).1.toNat := by
    rw [(raised_eq_iff _ _).2, credited]
    have below := (account.mgr.resetCurrencyWeekIfNeeded
      account.calendar).weeklySpendableHonor.toNat_lt
    omega
  constructor
  · simp only [step]
    omega
  · simp only [step]
    rw [counter, sum]
    omega

theorem WithinCap.setCalendar (h : account.WithinCap weeklyHonorCap) (calendar : Calendar) :
    (account.setCalendar calendar).WithinCap weeklyHonorCap := by
  by_cases same : calendar.week = account.calendar.week
  · refine h.of_reset ?_ ?_
    · simp [Account.setCalendar, same]
    · simp only [Account.setCalendar, HonorMgr.resetCurrencyWeekIfNeeded, same]
  · constructor
    · simp [Account.setCalendar, same]
    · simp [Account.setCalendar, same]

theorem reset_reset (mgr : HonorMgr) (calendar : Calendar) :
    (mgr.resetCurrencyWeekIfNeeded calendar).resetCurrencyWeekIfNeeded calendar =
      mgr.resetCurrencyWeekIfNeeded calendar :=
  HonorMgr.reset_of_week _ _ (mgr.reset_week calendar)

theorem WithinCap.saved (h : account.WithinCap weeklyHonorCap) :
    account.saved.WithinCap weeklyHonorCap :=
  h.of_reset rfl (congrArg _ (reset_reset account.mgr account.calendar))

theorem WithinCap.step (h : account.WithinCap weeklyHonorCap) (event : CurrencyEvent) :
    (account.step weeklyHonorCap event).WithinCap weeklyHonorCap := by
  cases event with
  | addSpendableHonor amount => exact h.addSpendableHonor amount
  | modifySpendableHonor amount =>
      have looked :
        (account.mgr.modifySpendableHonor account.calendar amount).2.currencyWeekBeginDay =
            account.calendar.week ∧
          (account.mgr.modifySpendableHonor account.calendar amount).2.weeklySpendableHonor =
            (account.mgr.resetCurrencyWeekIfNeeded account.calendar).weeklySpendableHonor := by
        simp only [HonorMgr.modifySpendableHonor]
        split
        · exact ⟨account.mgr.reset_week account.calendar, rfl⟩
        · split
          · exact ⟨account.mgr.reset_week account.calendar, rfl⟩
          · exact ⟨account.mgr.reset_week account.calendar, rfl⟩
      refine h.of_looked ?_ rfl looked.1 looked.2
      simp only [Account.step]
      split <;> rfl
  | spendSpendableHonor amount =>
      have looked :
        (account.mgr.spendSpendableHonor account.calendar amount).2.currencyWeekBeginDay =
            account.calendar.week ∧
          (account.mgr.spendSpendableHonor account.calendar amount).2.weeklySpendableHonor =
            (account.mgr.resetCurrencyWeekIfNeeded account.calendar).weeklySpendableHonor := by
        simp only [HonorMgr.spendSpendableHonor]
        split
        · exact ⟨account.mgr.reset_week account.calendar, rfl⟩
        · exact ⟨account.mgr.reset_week account.calendar, rfl⟩
      exact h.of_looked rfl rfl looked.1 looked.2
  | addConquestPoints amount =>
      refine h.of_reset rfl ?_
      simp only [Account.step, HonorMgr.addConquestPoints, HonorMgr.resetCurrencyWeekIfNeeded]
      split <;> split <;> rfl
  | spendConquestPoints amount =>
      refine h.of_reset rfl ?_
      simp only [Account.step, HonorMgr.spendConquestPoints, HonorMgr.resetCurrencyWeekIfNeeded]
      split <;> split <;> rfl
  | newDay calendar => exact h.setCalendar calendar
  | save => exact h.saved
  | relog calendar =>
      exact (h.saved.setCalendar calendar).of_reset rfl
        (congrArg _ (reset_reset (account.mgr.resetCurrencyWeekIfNeeded account.calendar) calendar))

end Account

/-- In every run the week is within its cap, and the balances are what the ledger says exactly
where no credit is more than its balance can hold. -/
theorem balanced_iff (weeklyHonorCap : UInt32) (mgr : HonorMgr) (calendar : Calendar)
    (row : Option CurrencyRow) (events : List CurrencyEvent) :
    Balanced weeklyHonorCap mgr (run weeklyHonorCap (opened mgr calendar row) events) ↔
      Lib.Along (Account.step · weeklyHonorCap) (Holds weeklyHonorCap) (opened mgr calendar row)
        events := by
  have capped : (run weeklyHonorCap (opened mgr calendar row) events).WithinCap weeklyHonorCap :=
    Lib.run_always (I := (Account.WithinCap · weeklyHonorCap)) (fun _ event h => h.step event)
      ⟨Nat.zero_le _, Nat.zero_le _⟩ events
  rw [← ((opened mgr calendar row).run_misses weeklyHonorCap events).2]
  have start : (opened mgr calendar row).honorMissing = -mgr.spendableHonor.toNat ∧
      (opened mgr calendar row).conquestMissing = -mgr.conquestPoints.toNat := by
    simp [Account.honorMissing, Account.conquestMissing, opened]
  constructor
  · rintro ⟨honor, conquest, -⟩
    constructor
    · rw [start.1, Account.honorMissing]
      omega
    · rw [start.2, Account.conquestMissing]
      omega
  · rintro ⟨honor, conquest⟩
    rw [start.1, Account.honorMissing] at honor
    rw [start.2, Account.conquestMissing] at conquest
    exact ⟨by omega, by omega, capped.cap⟩

/-- Ten points more than there is room for six. -/
theorem honor_wrapped : ¬ Balanced 20000 { spendableHonor := 4294967290 }
    (run 20000 (opened { spendableHonor := 4294967290 } ⟨7, 9⟩ none) [.addSpendableHonor 10]) := by
  intro balanced
  have honor := balanced.honor
  exact absurd honor (by decide)

end TortoiseWow.HonorCurrency
