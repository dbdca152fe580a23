import Mathlib
import TortoiseWow.Lib.Run

/-!
The weekly honor maintenance as the sequence of statements that DoMaintenance
executes at the start of the server, with a stop after any of them. Statements are
executed at once there, for asynchronous ones are allowed only later. Rank points
and honor points are floating point numbers, on which the calculations are given.
-/

namespace TortoiseWow.HonorMaintenance

def honorable : UInt8 := 1

def dishonorable : UInt8 := 2

structure Character (P : Type) where
  guid : UInt32
  level : UInt8
  race : UInt8
  honorRankPoints : P
  honorHighestRank : UInt8
  honorStanding : Nat
  honorLastWeekHK : Nat
  honorStoredHK : Nat
  honorStoredDK : Nat
  honorLastWeekCP : P
  cityProtector : Bool

structure HonorCP (P : Type) where
  guid : UInt32
  cp : P
  date : Nat
  type : UInt8

/-- The tables, with the row of `saved_variables`. -/
structure Database (P : Type) where
  characters : List (Character P)
  honorCP : List (HonorCP P)
  lastHonorMaintenanceDay : Nat
  nextHonorMaintenanceDay : Nat
  honorMaintenanceMarker : Bool

structure WeeklyScore (P : Type) where
  guid : UInt32
  level : UInt8
  highestRank : UInt8
  oldRp : P
  hk : Nat
  dk : Nat
  cp : P

/-- The calculations with floating point numbers, and the order of an unordered map. -/
structure Rules (P : Type) where
  isPositive : P → Bool
  sum : List P → P
  /-- `CalculateRpDecay(0.0f, score)`, at most `MaximumRpAtLevel`. -/
  decayed : WeeklyScore P → P
  /-- The better one of the highest rank and `CalculateRank(newRp)`. -/
  highestRank : UInt8 → P → UInt8
  order : List (WeeklyScore P) → List (WeeklyScore P)
  order_perm : ∀ scores, (order scores).Perm scores

inductive Statement (P : Type) where
  | resetStanding
  | flushScore (score : WeeklyScore P) (newRp : P) (highestRank : UInt8)
  | deleteHonorCP (before : Nat)
  | resetCityProtectors
  | setCityProtector (guid : UInt32)
  /-- On `character_queststatus`, which is not among the tables. -/
  | deleteDailyQuests
  | setMarker (marker : Bool)
  | setMaintenanceDays (last next : Nat)

variable {P : Type}

namespace Database

def updateCharacter (db : Database P) (guid : UInt32) (f : Character P → Character P) :
    Database P :=
  { db with characters := db.characters.map fun c => if c.guid = guid then f c else c }

def execute (db : Database P) : Statement P → Database P
  | .resetStanding =>
      { db with characters := db.characters.map fun c => { c with honorStanding := 0 } }
  | .flushScore score newRp highestRank =>
      db.updateCharacter score.guid fun c =>
        { c with
          honorHighestRank := highestRank
          honorRankPoints := newRp
          honorStanding := 0
          honorLastWeekHK := score.hk
          honorStoredHK := c.honorStoredHK + score.hk
          honorStoredDK := c.honorStoredDK + score.dk
          honorLastWeekCP := score.cp }
  | .deleteHonorCP before =>
      { db with honorCP := db.honorCP.filter fun row => !decide (row.date < before) }
  | .resetCityProtectors =>
      { db with characters := db.characters.map fun c => { c with cityProtector := false } }
  | .setCityProtector guid => db.updateCharacter guid fun c => { c with cityProtector := true }
  | .deleteDailyQuests => db
  | .setMarker marker => { db with honorMaintenanceMarker := marker }
  | .setMaintenanceDays last next =>
      { db with lastHonorMaintenanceDay := last, nextHonorMaintenanceDay := next }

def executeAll (db : Database P) (statements : List (Statement P)) : Database P :=
  statements.foldl execute db

end Database

def inWeek (weekBeginDay : Nat) (row : HonorCP P) : Bool :=
  decide (weekBeginDay ≤ row.date ∧ row.date ≤ weekBeginDay + 6)

section Maintenance

variable (rules : Rules P)

def weekOf (db : Database P) (weekBeginDay : Nat) (guid : UInt32) : List (HonorCP P) :=
  db.honorCP.filter fun row => decide (row.guid = guid) && inWeek weekBeginDay row

def isScored (db : Database P) (weekBeginDay : Nat) (c : Character P) : Bool :=
  rules.isPositive c.honorRankPoints || !(weekOf db weekBeginDay c.guid).isEmpty

def weeklyScore (db : Database P) (weekBeginDay : Nat) (c : Character P) : WeeklyScore P :=
  let rows := weekOf db weekBeginDay c.guid
  { guid := c.guid
    level := c.level
    highestRank := c.honorHighestRank
    oldRp := c.honorRankPoints
    hk := rows.countP fun row => row.type = honorable
    dk := rows.countP fun row => row.type = dishonorable
    cp := rules.sum ((rows.filter fun row => row.type ≠ dishonorable).map (·.cp)) }

def loadWeeklyScores (db : Database P) (weekBeginDay : Nat) : List (WeeklyScore P) :=
  (db.characters.filter (isScored rules db weekBeginDay)).map (weeklyScore rules db weekBeginDay)

def flushScore (score : WeeklyScore P) : Statement P :=
  .flushScore score (rules.decayed score)
    (rules.highestRank score.highestRank (rules.decayed score))

def flushRankPoints (weekBeginDay : Nat) (scores : List (WeeklyScore P)) : List (Statement P) :=
  .resetStanding :: scores.map (flushScore rules) ++ [.deleteHonorCP (weekBeginDay + 6)]

def races : List UInt8 := (List.range 10).map fun i => UInt8.ofNat (i + 1)

def mostKills (db : Database P) (race : UInt8) : Option (Character P) :=
  (db.characters.filter fun c => decide (0 < c.honorLastWeekHK) && decide (c.race = race)).foldl
    (fun best c =>
      match best with
      | none => some c
      | some other => if other.honorLastWeekHK < c.honorLastWeekHK then some c else some other)
    none

def setCityRanks (db : Database P) : List (Statement P) :=
  .resetCityProtectors ::
    (races.filterMap (mostKills db)).filterMap fun c =>
      if 0 < c.guid then some (.setCityProtector c.guid) else none

/-- The members that are read from `saved_variables`. -/
structure HonorMaintenancer where
  lastMaintenanceDay : Nat
  nextMaintenanceDay : Nat
  markerToStart : Bool

/-- `Initialize`, the row being there. -/
def Database.maintenancer (db : Database P) : HonorMaintenancer :=
  ⟨db.lastHonorMaintenanceDay, db.nextHonorMaintenanceDay, db.honorMaintenanceMarker⟩

namespace HonorMaintenancer

def doMaintenance (m : HonorMaintenancer) (db : Database P) : List (Statement P) :=
  if m.markerToStart = false then []
  else
    let flush := flushRankPoints rules m.lastMaintenanceDay
      (rules.order (loadWeeklyScores rules db m.lastMaintenanceDay))
    flush ++ setCityRanks (db.executeAll flush) ++
      [.deleteDailyQuests, .setMarker !m.markerToStart,
        .setMaintenanceDays m.nextMaintenanceDay (m.nextMaintenanceDay + 7)]

/-- What `DoMaintenance` leaves in the members. -/
def maintained (m : HonorMaintenancer) : HonorMaintenancer :=
  if m.markerToStart = false then m
  else ⟨m.nextMaintenanceDay, m.nextMaintenanceDay + 7, !m.markerToStart⟩

end HonorMaintenancer

end Maintenance

/-- The server and its database. `saved` records all rows ever saved; `due` the characters with rank
points when a maintenance of a week began, and `applied` those that a statement updated, each with
the first day of the week; `finished` counts the maintenances that executed all statements. -/
structure Server (P : Type) where
  db : Database P
  maintenancer : HonorMaintenancer
  running : Bool
  upSince : Nat
  today : Nat
  saved : List (HonorCP P)
  due : List (Nat × UInt32)
  applied : List (Nat × UInt32)
  finished : Nat

/-- A restart runs the maintenance and stops after `cut` of its statements, or goes on. While the
server runs, rows are saved with the day of the kill, and the rest of the honor of a character. -/
inductive Event (P : Type) where
  | newDay
  | createCharacter (guid : UInt32) (level race : UInt8) (rankPoints lastWeekCP : P)
  | saveHonorCP (row : HonorCP P)
  | saveStoredData (guid : UInt32) (level : UInt8) (rankPoints : P) (standing : Nat)
      (highestRank : UInt8) (lastWeekHK : Nat) (lastWeekCP : P)
  | checkMaintenanceDay
  | restart (cut : Option Nat)

def updatedBy (statements : List (Statement P)) : List UInt32 :=
  statements.filterMap fun statement =>
    match statement with
    | .flushScore score _ _ => some score.guid
    | _ => none

namespace Server

variable (rules : Rules P) (s : Server P)

def statements : List (Statement P) := s.db.maintenancer.doMaintenance rules s.db

def executed (cut : Option Nat) : List (Statement P) :=
  match cut with
  | none => s.statements rules
  | some n => (s.statements rules).take n

def withRankPoints (db : Database P) : List UInt32 :=
  (db.characters.filter fun c => rules.isPositive c.honorRankPoints).map (·.guid)

def restart (cut : Option Nat) : Server P :=
  let week := s.db.lastHonorMaintenanceDay
  { s with
    db := s.db.executeAll (s.executed rules cut)
    maintenancer := s.db.maintenancer.maintained
    running := cut.isNone
    upSince := s.today
    due :=
      if s.db.honorMaintenanceMarker
        then s.due ++ (withRankPoints rules s.db).map (week, ·) else s.due
    applied := s.applied ++ (updatedBy (s.executed rules cut)).map (week, ·)
    finished :=
      if s.db.honorMaintenanceMarker ∧ (s.executed rules cut).length =
        (s.statements rules).length then
        s.finished + 1
      else s.finished }

def step (s : Server P) : Event P → Server P
  | .newDay => { s with today := s.today + 1 }
  | .createCharacter guid level race rankPoints lastWeekCP =>
      if s.running ∧ guid ∉ s.db.characters.map (·.guid) then
        { s with
          db := { s.db with
            characters := s.db.characters ++
              [⟨guid, level, race, rankPoints, 0, 0, 0, 0, 0, lastWeekCP, false⟩] } }
      else s
  | .saveHonorCP row =>
      if s.running ∧ row.guid ∈ s.db.characters.map (·.guid) ∧ s.upSince ≤ row.date ∧
          row.date ≤ s.today then
        { s with db := { s.db with honorCP := s.db.honorCP ++ [row] }, saved := s.saved ++ [row] }
      else s
  | .saveStoredData guid level rankPoints standing highestRank lastWeekHK lastWeekCP =>
      if s.running then
        { s with
          db := s.db.updateCharacter guid fun c =>
            { c with
              level := level
              honorRankPoints := rankPoints
              honorStanding := standing
              honorHighestRank := highestRank
              honorLastWeekHK := lastWeekHK
              honorLastWeekCP := lastWeekCP } }
      else s
  | .checkMaintenanceDay =>
      if s.running ∧ s.maintenancer.nextMaintenanceDay ≤ s.today ∧
          s.maintenancer.markerToStart = false then
        { s with
          db := s.db.execute (.setMarker true)
          maintenancer := { s.maintenancer with markerToStart := true } }
      else s
  | .restart cut => s.restart rules cut

end Server

/-- A server that runs for the first time, its days set. -/
def start (last days : Nat) : Server P where
  db := ⟨[], [], last, last + 7, false⟩
  maintenancer := ⟨last, last + 7, false⟩
  running := true
  upSince := last + days
  today := last + days
  saved := []
  due := []
  applied := []
  finished := 0

end TortoiseWow.HonorMaintenance
