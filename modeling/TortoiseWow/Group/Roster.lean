import TortoiseWow.Lib.Run

/-!
One group with its members, its subgroup counters and its leader, beside the players with
their two references to groups: the current one, and the original one while they are in a
battleground raid. References are changed only while their player is in the world, so a
reference can be older than the slot.
-/

namespace TortoiseWow.Groups

def maxGroupSize : Nat := 5

def maxRaidSize : Nat := 40

def maxRaidSubgroups : Nat := 8

inductive GroupType where
  | normal
  | raid
  deriving Repr, DecidableEq

/-- The group that is modelled, or another one. -/
inductive GroupId where
  | this
  | other (id : Nat)
  deriving Repr, DecidableEq

structure GroupReference where
  target : Option GroupId := none
  subGroup : UInt8 := 0
  deriving Repr, DecidableEq

structure Player where
  inWorld : Bool := true
  hasSession : Bool := true
  group : GroupReference := {}
  originalGroup : GroupReference := {}
  deriving Repr, DecidableEq

/-- `link` with `setSubGroup`, or `unlink`, which leaves the number. -/
def GroupReference.set (r : GroupReference) (group : Option GroupId) (subGroup : UInt8) :
    GroupReference :=
  match group with
  | none => { r with target := none }
  | some group => ⟨some group, subGroup⟩

namespace Player

def setGroup (p : Player) (group : Option GroupId) (subGroup : UInt8) : Player :=
  { p with group := p.group.set group subGroup }

def setOriginalGroup (p : Player) (group : Option GroupId) (subGroup : UInt8) : Player :=
  { p with originalGroup := p.originalGroup.set group subGroup }

def setBattleGroundRaid (p : Player) (group : GroupId) (subGroup : UInt8) : Player :=
  (p.setOriginalGroup p.group.target p.group.subGroup).setGroup (some group) subGroup

def removeFromBattleGroundRaid (p : Player) : Player :=
  let left := p.setGroup none 0
  let back :=
    match p.originalGroup.target with
    | none => left
    | some group => left.setGroup (some group) p.originalGroup.subGroup
  back.setOriginalGroup none 0

/-- The reference that is current for the modelled group gets the number. -/
def renumber (p : Player) (subGroup : UInt8) : Player :=
  if p.group.target = some .this then { p with group := { p.group with subGroup := subGroup } }
  else { p with originalGroup := { p.originalGroup with subGroup := subGroup } }

end Player

structure MemberSlot where
  guid : UInt64
  group : UInt8
  assistant : Bool
  deriving Repr, DecidableEq

abbrev SubGroupsCounts := Vector UInt8 maxRaidSubgroups

structure Group where
  members : List MemberSlot := []
  leaderGuid : UInt64 := 0
  groupType : GroupType := .normal
  bgGroup : Bool := false
  subGroupsCounts : Option SubGroupsCounts := none
  deriving Repr, DecidableEq

def count (counts : SubGroupsCounts) (subgroup : Nat) : UInt8 := (counts[subgroup]?).getD 0

def subGroupCounterIncrease (counts : SubGroupsCounts) (subgroup : UInt8) : SubGroupsCounts :=
  counts.setIfInBounds subgroup.toNat (count counts subgroup.toNat + 1)

def subGroupCounterDecrease (counts : SubGroupsCounts) (subgroup : UInt8) : SubGroupsCounts :=
  counts.setIfInBounds subgroup.toNat (count counts subgroup.toNat - 1)

def initRaidSubGroupsCounter (members : List MemberSlot) : SubGroupsCounts :=
  members.foldl (fun counts m => subGroupCounterIncrease counts m.group) (Vector.replicate _ 0)

def changeSlot (guid : UInt64) (f : MemberSlot → MemberSlot) : List MemberSlot → List MemberSlot
  | [] => []
  | m :: rest => if m.guid = guid then f m :: rest else m :: changeSlot guid f rest

namespace Group

def isFull (g : Group) : Bool :=
  if g.groupType = .normal then maxGroupSize ≤ g.members.length
  else maxRaidSize ≤ g.members.length

def membersMinCount (g : Group) : Nat := if g.bgGroup then 1 else 2

def slot? (g : Group) (guid : UInt64) : Option MemberSlot := g.members.find? (·.guid = guid)

def memberGroup (g : Group) (guid : UInt64) : UInt8 :=
  match g.slot? guid with
  | none => 9
  | some m => m.group

def isSubGroupFull (g : Group) (subgroup : UInt8) : Bool :=
  match g.subGroupsCounts with
  | none => false
  | some counts => maxGroupSize ≤ (count counts subgroup.toNat).toNat

def convertToRaid (g : Group) : Group :=
  { g with groupType := .raid, subGroupsCounts := some (initRaidSubGroupsCounter g.members) }

def setMembersGroup (g : Group) (guid : UInt64) (group : UInt8) : Option Group :=
  match g.slot? guid with
  | none => none
  | some _ =>
      some { g with
        members := changeSlot guid (fun m => { m with group := group }) g.members
        subGroupsCounts := g.subGroupsCounts.map (subGroupCounterIncrease · group) }

def eraseSlot (g : Group) (guid : UInt64) : Group :=
  match g.slot? guid with
  | none => g
  | some slot =>
      { g with
        members := g.members.eraseP (·.guid = guid)
        subGroupsCounts := g.subGroupsCounts.map (subGroupCounterDecrease · slot.group) }

def swapSlots (g : Group) (guid swapGuid : UInt64) : Option Group :=
  match g.slot? guid, g.slot? swapGuid with
  | some slot, some swapSlot =>
      some { g with
        members := changeSlot guid (fun m => { m with group := swapSlot.group })
          (changeSlot swapGuid (fun m => { m with group := slot.group }) g.members) }
  | _, _ => none

def setLeader (g : Group) (guid : UInt64) : Group :=
  match g.slot? guid with
  | none => g
  | some m => { g with leaderGuid := m.guid }

def setAssistant (g : Group) (guid : UInt64) (state : Bool) : Group :=
  if g.groupType ≠ .raid then g
  else { g with members := changeSlot guid (fun m => { m with assistant := state }) g.members }

end Group

structure World where
  group : Group
  players : UInt64 → Option Player

namespace World

def getPlayer (w : World) (guid : UInt64) : Option Player :=
  if guid = 0 then none else (w.players guid).filter (·.inWorld)

def setPlayer (w : World) (guid : UInt64) (p : Player) : World :=
  { w with players := fun other => if other = guid then some p else w.players other }

def withPlayer (w : World) (guid : UInt64) (f : Player → Player) : World :=
  match w.getPlayer guid with
  | none => w
  | some p => w.setPlayer guid (f p)

def joined (bgGroup : Bool) (group : UInt8) (p : Player) : Player :=
  if p.group.target.isSome ∧ bgGroup then p.setBattleGroundRaid .this group
  else if p.group.target.isSome then p.setOriginalGroup (some .this) group
  else p.setGroup (some .this) group

def parted (bgGroup : Bool) (p : Player) : Player :=
  if bgGroup then p.removeFromBattleGroundRaid
  else if p.originalGroup.target = some .this then p.setOriginalGroup none 0
  else p.setGroup none 0

def addMemberTo (w : World) (guid : UInt64) (isAssistant : Bool) (group : UInt8) : Bool × World :=
  if w.group.isFull then (false, w)
  else if guid = 0 then (false, w)
  else
    let g := { w.group with
      members := w.group.members ++ [⟨guid, group, isAssistant⟩]
      subGroupsCounts := w.group.subGroupsCounts.map (subGroupCounterIncrease · group) }
    (true, { w with group := g }.withPlayer guid (joined g.bgGroup group))

/-- The first subgroup that is not full. -/
def freeSubGroup (counts : SubGroupsCounts) : Option Nat :=
  (List.range maxRaidSubgroups).find? fun g => (count counts g).toNat < maxGroupSize

def addMember (w : World) (guid : UInt64) : Bool × World :=
  match w.group.subGroupsCounts with
  | none => w.addMemberTo guid false 0
  | some counts =>
      match freeSubGroup counts with
      | none => (false, w)
      | some group => w.addMemberTo guid false (UInt8.ofNat group)

def create (w : World) (guid : UInt64) : Bool × World :=
  let g := { w.group with
    leaderGuid := guid
    groupType := if w.group.bgGroup then .raid else .normal
    subGroupsCounts :=
      if w.group.bgGroup then some (initRaidSubGroupsCounter w.group.members)
      else w.group.subGroupsCounts }
  { w with group := g }.addMember guid

def candidates (w : World) : List MemberSlot :=
  w.group.members.filter fun m => m.guid ≠ w.group.leaderGuid ∧
    (w.getPlayer m.guid).any fun p => p.hasSession ∧ p.group.target = some .this

def chosen (w : World) : Option MemberSlot :=
  ((w.candidates.find? fun m => ¬(w.group.groupType = .raid ∧ m.assistant = false)).or
    w.candidates.head?).or w.group.members.head?

def chooseLeader (w : World) : World :=
  if w.group.members.length < w.group.membersMinCount then w
  else
    match w.chosen with
    | none => w
    | some m => { w with group := w.group.setLeader m.guid }

def dropMember (w : World) (guid : UInt64) : World :=
  let w := w.withPlayer guid (parted w.group.bgGroup)
  let w := { w with group := w.group.eraseSlot guid }
  if w.group.leaderGuid = guid then w.chooseLeader else w

def disband (w : World) : World :=
  let w := w.group.members.foldl (fun w m => w.withPlayer m.guid (parted w.group.bgGroup)) w
  { w with group := { w.group with members := [], leaderGuid := 0 } }

def removeMember (w : World) (guid : UInt64) : World :=
  if w.group.membersMinCount < w.group.members.length then w.dropMember guid else w.disband

def changePlayersGroup (w : World) (guid : UInt64) (p : Player) (group : UInt8) : World :=
  if w.group.groupType ≠ .raid ∨ maxRaidSubgroups ≤ group.toNat then w
  else
    let prevSubGroup := w.group.memberGroup guid
    if prevSubGroup = group ∨ maxRaidSubgroups ≤ prevSubGroup.toNat then w
    else if w.group.isSubGroupFull group then w
    else
      match w.group.setMembersGroup guid group with
      | none => w
      | some g =>
          let prevSubGroup :=
            if p.group.target = some .this then prevSubGroup else p.originalGroup.subGroup
          { w with group := { g with
              subGroupsCounts := g.subGroupsCounts.map (subGroupCounterDecrease · prevSubGroup) }
          }.setPlayer guid (p.renumber group)

def changeMembersGroup (w : World) (guid : UInt64) (group : UInt8) : World :=
  if w.group.groupType ≠ .raid ∨ maxRaidSubgroups ≤ group.toNat then w
  else if w.group.isSubGroupFull group then w
  else
    match w.getPlayer guid with
    | some p => w.changePlayersGroup guid p group
    | none =>
        let prevSubGroup := w.group.memberGroup guid
        if prevSubGroup = group then w
        else
          match w.group.setMembersGroup guid group with
          | none => w
          | some g =>
              { w with group := { g with
                  subGroupsCounts :=
                    g.subGroupsCounts.map (subGroupCounterDecrease · prevSubGroup) } }

/-- Both overloads: those of the two players who are in the world get their references set. -/
def swapMembersGroup (w : World) (guid swapGuid : UInt64) : World :=
  if w.group.groupType ≠ .raid then w
  else
    let group := w.group.memberGroup guid
    let swapGroup := w.group.memberGroup swapGuid
    if group = swapGroup ∨ maxRaidSubgroups ≤ group.toNat ∨ maxRaidSubgroups ≤ swapGroup.toNat
      then w
    else
      match w.group.swapSlots guid swapGuid with
      | none => w
      | some g =>
          ({ w with group := g }.withPlayer guid (·.renumber swapGroup)).withPlayer swapGuid
            (·.renumber group)

end World

/-- What the rest of the server does with a player. Other groups are named by their number. -/
inductive PlayerChange where
  | login (inThis : Bool) (other : Option Nat) (subGroup : UInt8) (hasSession : Bool)
  | logout
  | enterWorld
  | leaveWorld
  | setGroup (other : Option Nat) (subGroup : UInt8)
  | setOriginalGroup (other : Option Nat) (subGroup : UInt8)
  | setBattleGroundRaid (other : Nat) (subGroup : UInt8)
  | rejoinBattleGroundRaid
  | removeFromBattleGroundRaid
  | renumber (subGroup : UInt8)
  deriving Repr, DecidableEq

namespace World

/-- A login loads the group of the character's row, with the subgroup of its slot there. -/
def loadGroup (w : World) (guid : UInt64) (inThis : Bool) (other : Option Nat) (subGroup : UInt8)
    (hasSession : Bool) : Player :=
  let p : Player := { inWorld := false, hasSession := hasSession }
  if inThis then p.setGroup (some .this) (w.group.memberGroup guid)
  else p.setGroup (other.map .other) subGroup

def change (w : World) (guid : UInt64) (c : PlayerChange) : Option Player :=
  match c, w.players guid with
  | .login inThis other subGroup hasSession, none =>
      some (w.loadGroup guid inThis other subGroup hasSession)
  | .login .., some p => some p
  | .logout, _ => none
  | _, none => none
  | .enterWorld, some p => some { p with inWorld := true }
  | .leaveWorld, some p => some { p with inWorld := false }
  | .setGroup other subGroup, some p => some (p.setGroup (other.map .other) subGroup)
  | .setOriginalGroup other subGroup, some p =>
      some (p.setOriginalGroup (other.map .other) subGroup)
  | .setBattleGroundRaid other subGroup, some p =>
      some (p.setBattleGroundRaid (.other other) subGroup)
  | .rejoinBattleGroundRaid, some p =>
      some (p.setBattleGroundRaid .this (w.group.memberGroup guid))
  | .removeFromBattleGroundRaid, some p => some p.removeFromBattleGroundRaid
  | .renumber subGroup, some p =>
      some <| match p.group.target with
        | some (.other _) => { p with group := { p.group with subGroup := subGroup } }
        | _ => p

end World

inductive GroupEvent where
  | create (guid : UInt64)
  | addMember (guid : UInt64)
  | removeMember (guid : UInt64)
  | changeMembersGroup (guid : UInt64) (group : UInt8)
  | changePlayersGroup (guid : UInt64) (group : UInt8)
  | swapMembersGroup (guid swapGuid : UInt64)
  | convertToRaid
  | setAssistant (guid : UInt64) (state : Bool)
  | changeLeader (guid : UInt64)
  | disband
  | player (guid : UInt64) (change : PlayerChange)
  deriving Repr, DecidableEq

def World.step (w : World) : GroupEvent → World
  | .create guid => (w.create guid).2
  | .addMember guid => (w.addMember guid).2
  | .removeMember guid => w.removeMember guid
  | .changeMembersGroup guid group => w.changeMembersGroup guid group
  | .changePlayersGroup guid group =>
      match w.getPlayer guid with
      | none => w
      | some p => w.changePlayersGroup guid p group
  | .swapMembersGroup guid swapGuid => w.swapMembersGroup guid swapGuid
  | .convertToRaid => { w with group := w.group.convertToRaid }
  | .setAssistant guid state => { w with group := w.group.setAssistant guid state }
  | .changeLeader guid => { w with group := w.group.setLeader guid }
  | .disband => w.disband
  | .player guid c =>
      { w with players := fun other => if other = guid then w.change guid c else w.players other }

def start (bgGroup : Bool) (players : UInt64 → Option Player) : World :=
  ⟨{ bgGroup := bgGroup }, players⟩

end TortoiseWow.Groups
