import Mathlib
import TortoiseWow.Lib.Run
import TortoiseWow.Lib.Table
import TortoiseWow.Lib.UnorderedMap

/-!
The limit on whisper targets of Chat/WhisperTargetLimits.cpp for one account:
the targets of the session, the rows of `whisper_targets` for the account, the
statements the database has not executed yet and the callbacks that wait for the
world thread. The sizes of `max_targets_` and `decay_` are those of the settings.
-/

namespace TortoiseWow.Chat

open Lib

/-- `targets_`, from the guid of a target to the time it was added. -/
abbrev Targets := UnorderedMap UInt32 UInt64

structure WhisperTargetLimits where
  maxTargets : UInt32
  bypassLevel : UInt32
  decay : UInt32

namespace WhisperTargetLimits

variable (limits : WhisperTargetLimits)

def targetDecay (time : UInt64) (targets : Targets) : Targets where
  entries := targets.entries.filter fun entry => !decide (time - entry.2 ≥ limits.decay.toUInt64)
  nodup := targets.nodup.sublist (List.filter_sublist.map _)

def size (targets : Targets) : Nat := targets.entries.length

def canWhisper (time : UInt64) (targets : Targets) (targetGuid level : UInt32) : Bool × Targets :=
  if level ≥ limits.bypassLevel ∨ limits.maxTargets = 0 then (true, targets)
  else if (targets.find? targetGuid).isSome then (true, targets)
  else
    let targets :=
      if size targets ≥ limits.maxTargets.toNat then limits.targetDecay time targets else targets
    if size targets ≥ limits.maxTargets.toNat then (false, targets)
    else (true, targets.assign targetGuid time)

end WhisperTargetLimits

/-- A row of the account, unique by its target. The column `time` has 32 bits. -/
abbrev TargetRow := UInt32 × UInt32

def loadTargets (rows : List TargetRow) : Targets :=
  rows.foldl (fun targets row => targets.assign row.1 row.2.toUInt64) UnorderedMap.empty

/-- What the session and the callback give to the database. The deletion carries the callback. -/
inductive Statement where
  | delete
  | insert (targetGuid time : UInt32)

structure World where
  now : UInt64
  session : Option Targets
  table : List TargetRow
  statements : List Statement
  callbacks : Nat
  /-- the targets that were added, the last one first -/
  added : List (UInt32 × UInt64)

inductive Event where
  | clock (time : UInt64)
  | canWhisper (targetGuid level : UInt32)
  | login
  | logout
  | executeStatement
  | runCallback

namespace World

def initial : World := ⟨0, none, [], [], 0, []⟩

/-- `WHERE account = ...`: the rows of the model are those of the account. -/
def executeStatement (w : World) : World :=
  match w.statements with
  | [] => w
  | .delete :: rest => { w with table := [], statements := rest, callbacks := w.callbacks + 1 }
  | .insert targetGuid time :: rest =>
      { w with
        table := (insertRow Prod.fst (targetGuid, time) w.table).getD w.table
        statements := rest }

/-- `FindSession` finds the session of the account that is there now, whoever was saved. -/
def runCallback (w : World) : World :=
  if w.callbacks = 0 then w
  else
    { w with
      callbacks := w.callbacks - 1
      statements := w.statements ++
        match w.session with
        | none => []
        | some targets => targets.entries.map fun target => .insert target.1 target.2.toUInt32 }

def step (limits : WhisperTargetLimits) (w : World) : Event → World
  | .clock time => if w.now ≤ time then { w with now := time } else w
  | .canWhisper targetGuid level =>
      match w.session with
      | none => w
      | some targets =>
          let answer := limits.canWhisper w.now targets targetGuid level
          { w with
            session := some answer.2
            added :=
              if targets.find? targetGuid = none ∧ (answer.2.find? targetGuid).isSome then
                (targetGuid, w.now) :: w.added
              else w.added }
  | .login =>
      match w.session with
      | some _ => w
      | none => { w with session := some (loadTargets w.table) }
  | .logout =>
      match w.session with
      | none => w
      | some _ => { w with session := none, statements := w.statements ++ [.delete] }
  | .executeStatement => w.executeStatement
  | .runCallback => w.runCallback

end World

end TortoiseWow.Chat
