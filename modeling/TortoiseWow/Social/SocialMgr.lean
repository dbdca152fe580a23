import Mathlib
import TortoiseWow.Lib.Run
import TortoiseWow.Lib.Table
import TortoiseWow.Lib.UnorderedMap

/-!
The friend and ignore lists of SocialMgr.cpp with the table `character_social`.
One entry of a character's map holds the flags of both lists. Player guids are
their counters, since the high part of a player guid is zero, and an entry is
the `Flags` of its `FriendInfo`. `known` are the characters that the cache of
ObjectMgr finds an account for.
-/

namespace TortoiseWow.Social

open Lib

inductive SocialFlag where
  | friend
  | ignored
  deriving DecidableEq

def SocialFlag.value : SocialFlag → UInt32
  | .friend => 0x01
  | .ignored => 0x02

def socialMgrFriendLimit : Nat := 50

def socialMgrIgnoreLimit : Nat := 25

def SocialFlag.limit : SocialFlag → Nat
  | .friend => socialMgrFriendLimit
  | .ignored => socialMgrIgnoreLimit

def hasFlag (flags : UInt32) (flag : SocialFlag) : Bool := flags &&& flag.value != 0

abbrev PlayerSocialMap := UnorderedMap UInt32 UInt32

/-- A row of `character_social`, whose primary key is all three columns. -/
structure SocialRow where
  guid : UInt32
  friendGuid : UInt32
  flags : UInt32
  deriving DecidableEq

section Statements

def isRowOf (guid friendGuid : UInt32) (row : SocialRow) : Bool :=
  row.guid == guid && row.friendGuid == friendGuid

def insertSocial (guid friendGuid flags : UInt32) (table : List SocialRow) : List SocialRow :=
  (insertRow id ⟨guid, friendGuid, flags⟩ table).getD table

def updateSocial (guid friendGuid flags : UInt32) (table : List SocialRow) : List SocialRow :=
  (updateRows id (isRowOf guid friendGuid) (fun row => { row with flags := flags }) table).getD
    table

def deleteSocial (guid friendGuid : UInt32) (table : List SocialRow) : List SocialRow :=
  deleteRows (isRowOf guid friendGuid) table

def selectSocial (guid : UInt32) (table : List SocialRow) : List (UInt32 × UInt32) :=
  table.filterMap fun row => if row.guid = guid then some (row.friendGuid, row.flags) else none

end Statements

namespace PlayerSocial

def getNumberOfSocialsWithFlag (social : PlayerSocialMap) (flag : SocialFlag) : Nat :=
  social.entries.countP fun entry => hasFlag entry.2 flag

def addToSocialList (guid friendGuid : UInt32) (flag : SocialFlag) (social : PlayerSocialMap)
    (table : List SocialRow) : Bool × PlayerSocialMap × List SocialRow :=
  if getNumberOfSocialsWithFlag social flag ≥ flag.limit then (false, social, table)
  else
    match social.find? friendGuid with
    | some flags =>
        (true, social.assign friendGuid (flags ||| flag.value),
          updateSocial guid friendGuid flag.value table)
    | none =>
        (true, social.assign friendGuid (0 ||| flag.value),
          insertSocial guid friendGuid flag.value table)

def removeFromSocialList (guid friendGuid : UInt32) (flag : SocialFlag) (social : PlayerSocialMap)
    (table : List SocialRow) : PlayerSocialMap × List SocialRow :=
  match social.find? friendGuid with
  | none => (social, table)
  | some flags =>
      if flags &&& ~~~flag.value = 0 then
        (social.erase friendGuid, deleteSocial guid friendGuid table)
      else
        (social.assign friendGuid (flags &&& ~~~flag.value),
          updateSocial guid friendGuid flag.value table)

end PlayerSocial

section Loading

variable (known : UInt32 → Bool)

/-- The map under construction and the counters of `LoadFromDB`. -/
structure Loading where
  social : PlayerSocialMap
  friendCounter : Nat
  ignoreCounter : Nat

def loadRow (loading : Loading) (row : UInt32 × UInt32) : Loading :=
  if hasFlag row.2 .ignored ∧ loading.ignoreCounter ≥ socialMgrIgnoreLimit then loading
  else if hasFlag row.2 .friend ∧ loading.friendCounter ≥ socialMgrFriendLimit then loading
  else if ¬known row.1 then loading
  else
    -- the constructor of FriendInfo takes a uint8
    let social := loading.social.assign row.1 row.2.toUInt8.toUInt32
    if hasFlag row.2 .ignored then
      { loading with social := social, ignoreCounter := loading.ignoreCounter + 1 }
    else { loading with social := social, friendCounter := loading.friendCounter + 1 }

def loadFromDB (result : List (UInt32 × UInt32)) : PlayerSocialMap :=
  (result.foldl (loadRow known) ⟨UnorderedMap.empty, 0, 0⟩).social

end Loading

structure SocialMgr where
  socialMap : UInt32 → Option PlayerSocialMap
  table : List SocialRow
  left : UInt32 → PlayerSocialMap

/-- The login carries the rows in the order in which the query returned them. -/
inductive Event where
  | addToSocialList (guid friendGuid : UInt32) (flag : SocialFlag)
  | removeFromSocialList (guid friendGuid : UInt32) (flag : SocialFlag)
  | logout (guid : UInt32)
  | login (guid : UInt32) (result : List (UInt32 × UInt32))

namespace SocialMgr

def initial : SocialMgr := ⟨fun _ => none, [], fun _ => UnorderedMap.empty⟩

def put (mgr : SocialMgr) (guid : UInt32) (social : Option PlayerSocialMap) : SocialMgr :=
  { mgr with socialMap := Function.update mgr.socialMap guid social }

def step (known : UInt32 → Bool) (mgr : SocialMgr) : Event → SocialMgr
  | .addToSocialList guid friendGuid flag =>
      match mgr.socialMap guid with
      | none => mgr
      | some social =>
          -- the handlers find the character by name in the cache
          if known friendGuid then
            let added := PlayerSocial.addToSocialList guid friendGuid flag social mgr.table
            { mgr.put guid (some added.2.1) with table := added.2.2 }
          else mgr
  | .removeFromSocialList guid friendGuid flag =>
      match mgr.socialMap guid with
      | none => mgr
      | some social =>
          let removed := PlayerSocial.removeFromSocialList guid friendGuid flag social mgr.table
          { mgr.put guid (some removed.1) with table := removed.2 }
  | .logout guid =>
      match mgr.socialMap guid with
      | none => mgr
      | some social =>
          { mgr.put guid none with left := Function.update mgr.left guid social }
  | .login guid result =>
      match mgr.socialMap guid with
      -- a character that is in the world is taken over by the session, not loaded
      | some _ => mgr
      | none =>
          if result.isPerm (selectSocial guid mgr.table) then
            mgr.put guid (some (loadFromDB known (result.take 255)))
          else mgr

/-- The lists a character has, or had when it logged out. -/
def had (mgr : SocialMgr) (guid : UInt32) : PlayerSocialMap :=
  (mgr.socialMap guid).getD (mgr.left guid)

end SocialMgr

end TortoiseWow.Social
