import Mathlib
import TortoiseWow.Lib.FixedWidth
import TortoiseWow.Lib.OrderedMap
import TortoiseWow.Lib.Run
import TortoiseWow.Lib.UnorderedMap

/-!
The reputations of one character as ReputationMgr.cpp keeps, saves and loads
them. The faction table, the spillover templates, the masks of the character and
the script hook are the data of the world. Standings are integers: the sums of
the source are taken not to overflow.
-/

namespace TortoiseWow.Reputation

open Lib

inductive ReputationRank where
  | hated
  | hostile
  | unfriendly
  | neutral
  | friendly
  | honored
  | revered
  | exalted
  deriving DecidableEq

def ReputationRank.value : ReputationRank → Nat
  | .hated => 0
  | .hostile => 1
  | .unfriendly => 2
  | .neutral => 3
  | .friendly => 4
  | .honored => 5
  | .revered => 6
  | .exalted => 7

def pointsInRank : ReputationRank → Int
  | .hated => 36000
  | .hostile => 3000
  | .unfriendly => 3000
  | .neutral => 3000
  | .friendly => 6000
  | .honored => 12000
  | .revered => 21000
  | .exalted => 1000

def reputationCap : Int := 42999
def reputationBottom : Int := -42000

/-- The loop from the highest rank down. -/
def rankFrom (standing limit : Int) : List ReputationRank → ReputationRank
  | [] => .hated
  | rank :: lower =>
      if standing ≥ limit - pointsInRank rank then rank
      else rankFrom standing (limit - pointsInRank rank) lower

def reputationToRank (standing : Int) : ReputationRank :=
  rankFrom standing (reputationCap + 1)
    [.exalted, .revered, .honored, .friendly, .neutral, .unfriendly, .hostile, .hated]

def factionFlagVisible : UInt32 := 0x01
def factionFlagAtWar : UInt32 := 0x02
def factionFlagHidden : UInt32 := 0x04
def factionFlagInvisibleForced : UInt32 := 0x08
def factionFlagPeaceForced : UInt32 := 0x10
def factionFlagInactive : UInt32 := 0x20

def hasAny (flags mask : UInt32) : Bool := flags &&& mask != 0

def concealed (flags : UInt32) : Bool :=
  hasAny flags (factionFlagInvisibleForced ||| factionFlagHidden)

structure FactionEntry where
  reputationListID : Int32
  baseRepRaceMask : Fin 4 → UInt32
  baseRepClassMask : Fin 4 → UInt32
  baseRepValue : Fin 4 → Int
  reputationFlags : Fin 4 → UInt32

namespace FactionEntry

def getIndexFitTo (entry : FactionEntry) (raceMask classMask : UInt32) : Option (Fin 4) :=
  (List.finRange 4).find? fun i =>
    (entry.baseRepRaceMask i == 0 || hasAny (entry.baseRepRaceMask i) raceMask) &&
      (entry.baseRepClassMask i == 0 || hasAny (entry.baseRepClassMask i) classMask)

def canHaveReputation (entry : FactionEntry) : Bool := decide (0 ≤ entry.reputationListID)

def repListID (entry : FactionEntry) : UInt32 := entry.reputationListID.toUInt32

end FactionEntry

structure Spillover where
  faction : UInt32
  rate : Int → Int
  rank : UInt32

structure World where
  factionMap : OrderedMap UInt32 FactionEntry
  repSpilloverTemplate : UInt32 → Option (List Spillover)
  raceMask : UInt32
  classMask : UInt32
  onReputationChange : UInt32 → Int → Int

namespace World

variable (world : World)

def getBaseReputation (entry : FactionEntry) : Int :=
  match entry.getIndexFitTo world.raceMask world.classMask with
  | some i => entry.baseRepValue i
  | none => 0

def getDefaultStateFlags (entry : FactionEntry) : UInt32 :=
  match entry.getIndexFitTo world.raceMask world.classMask with
  | some i => entry.reputationFlags i
  | none => 0

end World

structure FactionState where
  id : UInt32
  flags : UInt32
  standing : Int
  needSave : Bool

namespace FactionState

variable (faction : FactionState)

def setVisible : FactionState :=
  if concealed faction.flags then faction
  else if hasAny faction.flags factionFlagVisible then faction
  else { faction with flags := faction.flags ||| factionFlagVisible, needSave := true }

def setAtWar (atWar : Bool) : FactionState :=
  if hasAny faction.flags factionFlagAtWar && atWar then faction
  else if atWar && hasAny faction.flags factionFlagPeaceForced &&
      decide ((reputationToRank faction.standing).value > ReputationRank.hated.value) then faction
  else
    { faction with
      flags :=
        if atWar then faction.flags ||| factionFlagAtWar else faction.flags &&& ~~~factionFlagAtWar
      needSave := true }

def setInactive (inactive : Bool) : FactionState :=
  if inactive && (concealed faction.flags ||
      !hasAny faction.flags factionFlagVisible) then faction
  else if hasAny faction.flags factionFlagInactive == inactive then faction
  else
    { faction with
      flags :=
        if inactive then faction.flags ||| factionFlagInactive
        else faction.flags &&& ~~~factionFlagInactive
      needSave := true }

end FactionState

structure ReputationMgr where
  factions : OrderedMap UInt32 FactionState
  rows : UnorderedMap UInt32 (Int × UInt32)

namespace ReputationMgr

variable (world : World) (mgr : ReputationMgr)

/-- The entry a faction has in the list before anything is loaded. -/
def newFaction (id : UInt32) (entry : FactionEntry) : FactionState :=
  ⟨id, world.getDefaultStateFlags entry, 0, true⟩

def initialFactions : OrderedMap UInt32 FactionState :=
  world.factionMap.entries.foldl
    (fun factions faction =>
      if faction.2.canHaveReputation then
        factions.assign faction.2.repListID (newFaction world faction.1 faction.2)
      else factions)
    OrderedMap.empty

def modify (repListID : UInt32) (f : FactionState → FactionState) : ReputationMgr :=
  match mgr.factions.find? repListID with
  | none => mgr
  | some faction => { mgr with factions := mgr.factions.assign repListID (f faction) }

def getState (entry : FactionEntry) : Option FactionState :=
  if entry.canHaveReputation then mgr.factions.find? entry.repListID else none

def getReputation (entry : FactionEntry) : Int :=
  match mgr.getState entry with
  | some state => world.getBaseReputation entry + state.standing
  | none => 0

def getRank (entry : FactionEntry) : ReputationRank :=
  reputationToRank (mgr.getReputation world entry)

def clamp (standing : Int) : Int :=
  if standing > reputationCap then reputationCap
  else if standing < reputationBottom then reputationBottom
  else standing

def setAtWarChecked (on : Bool) (faction : FactionState) : FactionState :=
  if concealed faction.flags then faction
  else faction.setAtWar on

def setOneFactionReputation (id : UInt32) (entry : FactionEntry) (standing : Int)
    (incremental noBase : Bool) : Bool × ReputationMgr :=
  match mgr.factions.find? entry.repListID with
  | none => (false, mgr)
  | some faction =>
      let baseRep := world.getBaseReputation entry
      let standing := if incremental then standing + (faction.standing + baseRep) else standing
      let standing := clamp (world.onReputationChange id standing)
      let rankOld := (reputationToRank (faction.standing + baseRep)).value
      let rankNew := (reputationToRank standing).value
      let faction := { faction with
        standing := if noBase then standing else standing - baseRep
        needSave := true }
      let faction := faction.setVisible
      let faction :=
        if rankNew ≠ rankOld then
          if rankNew < ReputationRank.unfriendly.value ∧ rankNew < rankOld ∧
              rankOld > ReputationRank.hostile.value then
            faction.setAtWar true
          else if rankNew > ReputationRank.unfriendly.value ∧ rankNew > rankOld ∧
              rankOld < ReputationRank.neutral.value then
            setAtWarChecked false faction
          else faction
        else faction
      (decide (rankNew > rankOld),
        { mgr with factions := mgr.factions.assign entry.repListID faction })

/-- The factions a template names, with what is left of the standing for them. -/
def spill (standing : Int) (incremental noBase : Bool) (mgr : ReputationMgr) (column : Spillover) :
    ReputationMgr :=
  if column.faction = 0 then mgr
  else
    match world.factionMap.find? column.faction with
    | none => mgr
    | some entry =>
        if (mgr.getRank world entry).value ≤ column.rank.toNat then
          (mgr.setOneFactionReputation world column.faction entry (column.rate standing) incremental
            noBase).2
        else mgr

def setReputation (id : UInt32) (standing : Int) (incremental noSpillover noBase : Bool) :
    ReputationMgr :=
  match world.factionMap.find? id with
  | none => mgr
  | some entry =>
      let columns := if noSpillover then [] else (world.repSpilloverTemplate id).getD []
      let mgr := columns.foldl (spill world standing incremental noBase) mgr
      (mgr.setOneFactionReputation world id entry standing incremental noBase).2

def setVisible (id : UInt32) : ReputationMgr :=
  match world.factionMap.find? id with
  | none => mgr
  | some entry =>
      if entry.canHaveReputation then mgr.modify entry.repListID FactionState.setVisible else mgr

def setAtWar (repListID : UInt32) (on : Bool) : ReputationMgr :=
  mgr.modify repListID (setAtWarChecked on)

def setInactive (repListID : UInt32) (on : Bool) : ReputationMgr :=
  mgr.modify repListID (·.setInactive on)

/-- `DELETE` and `INSERT` of the states that have changed. -/
def saveRow (rows : UnorderedMap UInt32 (Int × UInt32)) (faction : FactionState) :
    UnorderedMap UInt32 (Int × UInt32) :=
  if faction.needSave then
    (rows.erase faction.id).assign faction.id (faction.standing, faction.flags)
  else rows

def saveToDB : ReputationMgr where
  factions := mgr.factions.filterMap fun faction => some { faction with needSave := false }
  rows := (mgr.factions.entries.map (·.2)).foldl saveRow mgr.rows

/-- Is the character hostile to the faction, by a forced reaction or by its standing? -/
def isHostile (forced : UInt32 → Option ReputationRank) (id : UInt32) (reputation : Int) : Bool :=
  match forced id with
  | some rank => decide (rank.value ≤ ReputationRank.hostile.value)
  | none => decide ((reputationToRank reputation).value ≤ ReputationRank.hostile.value)

def replay (forced : UInt32 → Option ReputationRank) (id : UInt32) (entry : FactionEntry)
    (standing : Int) (dbFactionFlags : UInt32) (faction : FactionState) : FactionState :=
  let faction := { faction with standing := standing }
  let faction :=
    if hasAny dbFactionFlags factionFlagVisible then faction.setVisible else faction
  let faction :=
    if hasAny dbFactionFlags factionFlagInactive then faction.setInactive true else faction
  let faction :=
    if hasAny dbFactionFlags factionFlagAtWar then faction.setAtWar true
    else if hasAny faction.flags factionFlagVisible then faction.setAtWar false
    else faction
  let faction :=
    if isHostile forced id (world.getBaseReputation entry + standing) then faction.setAtWar true
    else faction
  if faction.flags = dbFactionFlags then { faction with needSave := false } else faction

def emptyFaction : FactionState := ⟨0, 0, 0, false⟩

def loadRow (forced : UInt32 → Option ReputationRank) (factions : OrderedMap UInt32 FactionState)
    (row : UInt32 × Int × UInt32) : OrderedMap UInt32 FactionState :=
  match world.factionMap.find? row.1 with
  | none => factions
  | some entry =>
      if entry.canHaveReputation then
        factions.assign entry.repListID
          (replay world forced row.1 entry row.2.1 row.2.2
            ((factions.find? entry.repListID).getD emptyFaction))
      else factions

def loadFromDB (forced : UInt32 → Option ReputationRank) (result : List (UInt32 × Int × UInt32)) :
    ReputationMgr :=
  { mgr with factions := result.foldl (loadRow world forced) (initialFactions world) }

end ReputationMgr

/-- The calls that change reputations, and the save and load of a logout and a login. A load
carries the rows in the order of the query and the forced reactions of the moment. -/
inductive Event where
  | setReputation (id : UInt32) (standing : Int)
  | setSingleReputation (id : UInt32) (standing : Int)
  | modifyReputation (id : UInt32) (standing : Int) (noSpillover : Bool)
  | setVisible (id : UInt32)
  | setAtWar (repListID : UInt32) (on : Bool)
  | setInactive (repListID : UInt32) (on : Bool)
  | saveToDB
  | loadFromDB (forced : UInt32 → Option ReputationRank) (result : List (UInt32 × Int × UInt32))

namespace ReputationMgr

def step (world : World) (mgr : ReputationMgr) : Event → ReputationMgr
  | .setReputation id standing => mgr.setReputation world id standing false false false
  | .setSingleReputation id standing => mgr.setReputation world id standing false true false
  | .modifyReputation id standing noSpillover =>
      mgr.setReputation world id standing true noSpillover false
  | .setVisible id => mgr.setVisible world id
  | .setAtWar repListID on => mgr.setAtWar repListID on
  | .setInactive repListID on => mgr.setInactive repListID on
  | .saveToDB => mgr.saveToDB
  | .loadFromDB forced result =>
      if result.isPerm mgr.rows.entries then mgr.loadFromDB world forced result else mgr

/-- A new character, whose rows are still to be written. -/
def create (world : World) : ReputationMgr := ⟨initialFactions world, UnorderedMap.empty⟩

end ReputationMgr

end TortoiseWow.Reputation
