import TortoiseWow.Lib.Run
import TortoiseWow.Lib.UnorderedMap

/-!
Honor kills of the players: entries in memory, rows of `character_honor_cp`, the stored
counters of `characters`, and the weekly maintenance that folds rows into the counters. Days
are numbers; of the honor points only whether `Add` accepts them is kept. `added` is the
record of all entries that were ever added.
-/

namespace TortoiseWow.Honor

def honorable : UInt8 := 1

def dishonorable : UInt8 := 2

inductive HonorState where
  | new
  | unchanged
  deriving Repr, DecidableEq

structure HonorCP where
  date : Nat
  type : UInt8
  state : HonorState
  deriving Repr, DecidableEq

structure KillCounts where
  todayHK : UInt32 := 0
  todayDK : UInt32 := 0
  yesterdayKills : UInt32 := 0
  thisWeekKills : UInt32 := 0
  totalHK : UInt32 := 0
  totalDK : UInt32 := 0
  deriving Repr, DecidableEq

structure HonorMgr where
  honorCP : List HonorCP := []
  storedHK : UInt32 := 0
  storedDK : UInt32 := 0
  counts : KillCounts := {}
  deriving Repr, DecidableEq

def countEntry (today thisWeekBegin : Nat) (c : KillCounts) (e : HonorCP) : KillCounts :=
  if e.type = honorable then
    { c with
      todayHK := if e.date = today then c.todayHK + 1 else c.todayHK
      yesterdayKills := if e.date + 1 = today then c.yesterdayKills + 1 else c.yesterdayKills
      thisWeekKills := if thisWeekBegin ≤ e.date then c.thisWeekKills + 1 else c.thisWeekKills
      totalHK := if thisWeekBegin ≤ e.date then c.totalHK + 1 else c.totalHK }
  else if e.type = dishonorable then
    { c with
      todayDK := if e.date = today then c.todayDK + 1 else c.todayDK
      totalDK := c.totalDK + 1 }
  else c

def HonorMgr.update (m : HonorMgr) (today thisWeekBegin : Nat) : HonorMgr :=
  { m with
    counts := m.honorCP.foldl (countEntry today thisWeekBegin)
      { totalHK := m.storedHK, totalDK := m.storedDK } }

structure HonorRow where
  guid : UInt32
  date : Nat
  type : UInt8
  deriving Repr, DecidableEq

structure WeeklyScore where
  guid : UInt32
  hk : Nat
  dk : Nat
  deriving Repr, DecidableEq

structure World where
  today : Nat
  lastMaintenanceDay : Nat
  nextMaintenanceDay : Nat
  markerToStart : Bool := false
  rows : List HonorRow := []
  honorStoredHK : UInt32 → Nat := fun _ => 0
  honorStoredDK : UInt32 → Nat := fun _ => 0
  online : Lib.UnorderedMap UInt32 HonorMgr := .empty
  added : List (UInt32 × UInt8) := []

namespace World

def weekBeginDay (w : World) : Nat := w.lastMaintenanceDay

def weekEndDay (w : World) : Nat := w.lastMaintenanceDay + 6

def rowsOf (w : World) (guid : UInt32) : List HonorRow := w.rows.filter (·.guid = guid)

/-- `Load` into the manager of a player who logs in. -/
def load (w : World) (guid : UInt32) : HonorMgr where
  honorCP := (w.rowsOf guid).map fun r => HonorCP.mk r.date r.type .unchanged
  storedHK := UInt32.ofNat (w.honorStoredHK guid)
  storedDK := UInt32.ofNat (w.honorStoredDK guid)

/-- `Save`: the new entries become rows, and the stored counters go to `characters`. -/
def save (w : World) (guid : UInt32) (m : HonorMgr) : World :=
  { w with
    rows := w.rows ++ (m.honorCP.filter (·.state = .new)).map fun e =>
      HonorRow.mk guid e.date e.type
    honorStoredHK := fun other => if other = guid then m.storedHK.toNat else w.honorStoredHK other
    honorStoredDK := fun other => if other = guid then m.storedDK.toNat else w.honorStoredDK other
    online := w.online.assign guid
      { m with honorCP := m.honorCP.map fun e => { e with state := .unchanged } } }

def add (w : World) (guid : UInt32) (m : HonorMgr) (type : UInt8) (accepted : Bool) : World :=
  if accepted = false then w
  else
    let m := { m with honorCP := m.honorCP ++ [HonorCP.mk w.today type .new] }
    { w with
      online := w.online.assign guid (m.update w.today w.weekBeginDay)
      added := w.added ++ [(guid, type)] }

def inWeek (w : World) (r : HonorRow) : Bool := w.weekBeginDay ≤ r.date ∧ r.date ≤ w.weekEndDay

def loadWeeklyScores (w : World) : List WeeklyScore :=
  ((w.rows.filter w.inWeek).map (·.guid)).dedup.map fun guid =>
    { guid := guid
      hk := (w.rowsOf guid).countP fun r => r.type = honorable ∧ w.inWeek r
      dk := (w.rowsOf guid).countP fun r => r.type = dishonorable ∧ w.inWeek r }

def flushScore (w : World) (score : WeeklyScore) : World :=
  { w with
    honorStoredHK := fun guid =>
      if guid = score.guid then w.honorStoredHK guid + score.hk else w.honorStoredHK guid
    honorStoredDK := fun guid =>
      if guid = score.guid then w.honorStoredDK guid + score.dk else w.honorStoredDK guid }

def flushRankPoints (w : World) (scores : List WeeklyScore) : World :=
  let w := scores.foldl flushScore w
  -- the last day of the week stays, for the group "Yesterday" of the honor tab
  { w with rows := w.rows.filter fun r => ¬ r.date < w.weekEndDay }

def checkMaintenanceDay (w : World) : World :=
  if w.nextMaintenanceDay ≤ w.today ∧ w.markerToStart = false then { w with markerToStart := true }
  else w

def doMaintenance (w : World) : World :=
  if w.markerToStart = false then w
  else
    let w := w.flushRankPoints w.loadWeeklyScores
    { w with
      markerToStart := false
      lastMaintenanceDay := w.nextMaintenanceDay
      nextMaintenanceDay := w.nextMaintenanceDay + 7 }

end World

inductive HonorEvent where
  | newDay
  | login (guid : UInt32)
  | save (guid : UInt32)
  | logout (guid : UInt32)
  | add (guid : UInt32) (type : UInt8) (accepted : Bool)
  | update (guid : UInt32)
  | checkMaintenanceDay
  | doMaintenance
  deriving Repr, DecidableEq

def World.step (w : World) : HonorEvent → World
  | .newDay => { w with today := w.today + 1 }
  | .login guid =>
      match w.online.find? guid with
      | none => { w with online := w.online.assign guid (w.load guid) }
      | some _ => w
  | .save guid =>
      match w.online.find? guid with
      | none => w
      | some m => w.save guid m
  | .logout guid =>
      match w.online.find? guid with
      | none => w
      | some m =>
          let w := w.save guid m
          { w with online := w.online.erase guid }
  | .add guid type accepted =>
      match w.online.find? guid with
      | none => w
      | some m => w.add guid m type accepted
  | .update guid =>
      match w.online.find? guid with
      | none => w
      | some m => { w with online := w.online.assign guid (m.update w.today w.weekBeginDay) }
  | .checkMaintenanceDay => w.checkMaintenanceDay
  | .doMaintenance => w.doMaintenance

def start (lastMaintenanceDay days : Nat) : World where
  today := lastMaintenanceDay + days
  lastMaintenanceDay := lastMaintenanceDay
  nextMaintenanceDay := lastMaintenanceDay + 7

end TortoiseWow.Honor
