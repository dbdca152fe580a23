import TortoiseWow.Lib.OrderedMap
import TortoiseWow.Lib.Run

/-!
The queue of timed events of an object. The loops of Update and KillAllEvents go round by
round, and what the handler of an event does in its round comes with the round: it creates
events, adds them and schedules aborts. Events are numbered by their creation.
-/

namespace TortoiseWow.Utilities

inductive AbortState where
  | running
  | abortScheduled
  | aborted
  deriving Repr, DecidableEq

/-- What a handler, or anybody between two calls, does. An event is added at an offset from
CalculateTime. -/
inductive HandlerAction where
  | create
  | addEvent (event offset : Nat)
  | scheduleAbort (event : Nat)
  deriving Repr, DecidableEq

/-- The round of an event: what its handler does, what Execute returns and what IsDeletable
returns. -/
structure Answer where
  actions : List HandlerAction := []
  finished : Bool := true
  deletable : Bool := true
  deriving Repr, DecidableEq

/-- `passed` are the entries before the iterator; the entry at the iterator is the first of
`events`. -/
inductive Loop where
  | idle
  | updating
  | killing (force final : Bool) (passed : List (Nat × Nat))
  | destroyed
  deriving Repr, DecidableEq

structure Execution where
  event : Nat
  execTime : Nat
  time : Nat
  finished : Bool
  deriving Repr, DecidableEq

/-- `events` are the entries of the multimap, `states` the abort states of all events ever
created. The last three fields list what was executed, aborted and deleted. -/
structure EventProcessor where
  time : Nat := 0
  events : List (Nat × Nat) := []
  states : List AbortState := []
  loop : Loop := .idle
  executed : List Execution := []
  aborted : List Nat := []
  deleted : List Nat := []
  deriving Repr, DecidableEq

namespace EventProcessor

def calculateTime (s : EventProcessor) (offset : Nat) : Nat := (s.time + offset) % 2 ^ 64

def setState (s : EventProcessor) (event : Nat) (state : AbortState) : EventProcessor :=
  { s with states := s.states.set event state }

def delete (s : EventProcessor) (event : Nat) : EventProcessor :=
  { s with deleted := s.deleted ++ [event] }

/-- The new entry follows those with the same time. While KillAllEvents runs, its place may
be before the iterator or after it. -/
def addEvent (s : EventProcessor) (event execTime : Nat) : EventProcessor :=
  match s.loop, s.events with
  | .killing force final passed, current :: rest =>
      if execTime < current.1 then
        { s with loop := .killing force final (Lib.MultiMap.emplaceEntries execTime event passed) }
      else { s with events := current :: Lib.MultiMap.emplaceEntries execTime event rest }
  | _, events => { s with events := Lib.MultiMap.emplaceEntries execTime event events }

def act (s : EventProcessor) : HandlerAction → Bool × EventProcessor
  | .create => (true, { s with states := s.states ++ [.running] })
  | .addEvent event offset => (true, s.addEvent event (s.calculateTime offset))
  | .scheduleAbort event =>
      if s.states[event]? = some .running then (true, s.setState event .abortScheduled)
      else (false, s)

def actAll (s : EventProcessor) : List HandlerAction → Bool × EventProcessor
  | [] => (true, s)
  | action :: actions =>
      let (returned, s) := s.act action
      if returned then actAll s actions else (false, s)

/-- An event that is not deletable is checked again at the next update. -/
def discard (s : EventProcessor) (event : Nat) (deletable : Bool) : EventProcessor :=
  if deletable then s.delete event else s.addEvent event (s.calculateTime 1)

def updateRound (s : EventProcessor) (answer : Answer) : EventProcessor :=
  match s.events with
  | [] => { s with loop := .idle }
  | (execTime, event) :: rest =>
      if execTime ≤ s.time then
        let s := { s with events := rest }
        match s.states[event]? with
        | some .running =>
            let (returned, s) := s.actAll answer.actions
            let s := { s with
              executed := s.executed ++
                [{ event, execTime, time := s.time, finished := returned && answer.finished }] }
            if !returned then { s with loop := .idle }
            else if answer.finished then s.delete event
            else s
        | some .abortScheduled =>
            let (returned, s) := s.actAll answer.actions
            let s := { s with aborted := s.aborted ++ [event] }
            if !returned then { s with loop := .idle }
            else (s.setState event .aborted).discard event answer.deletable
        | _ => s.discard event answer.deletable
      else { s with loop := .idle }

/-- The iterator leaves the entry it is at. When the events are killed by force, the entry
stays in the container, although its event is deleted. -/
def pass (s : EventProcessor) (deletable : Bool) : EventProcessor :=
  match s.loop, s.events with
  | .killing force final passed, current :: rest =>
      if !force && !deletable then
        { s with loop := .killing force final (passed ++ [current]), events := rest }
      else if force then
        { s.delete current.2 with
          loop := .killing force final (passed ++ [current])
          events := rest }
      else { s.delete current.2 with events := rest }
  | _, _ => s

def leaveKilling (s : EventProcessor) (clear final : Bool) (passed : List (Nat × Nat)) :
    EventProcessor :=
  { s with
    events := if clear then [] else passed ++ s.events
    loop := if final then .destroyed else .idle }

def killRound (s : EventProcessor) (force final : Bool) (passed : List (Nat × Nat))
    (answer : Answer) : EventProcessor :=
  match s.events with
  | [] => s.leaveKilling force final passed
  | (_, event) :: _ =>
      if s.states[event]? = some .aborted then s.pass answer.deletable
      else
        let (returned, s) := { s.setState event .aborted with
          aborted := s.aborted ++ [event] }.actAll answer.actions
        if returned then s.pass answer.deletable
        else
          match s.loop with
          | .killing _ final passed => s.leaveKilling false final passed
          | _ => s

end EventProcessor

/-- What happens to the processor: somebody acts between two calls, a call begins, or the
loop of the call goes round. -/
inductive ProcessorEvent where
  | act (action : HandlerAction)
  | update (pTime : Nat)
  | killAllEvents (force : Bool)
  | destroy
  | round (answer : Answer)
  deriving Repr, DecidableEq

namespace EventProcessor

def step (s : EventProcessor) (e : ProcessorEvent) : EventProcessor :=
  match s.loop, e with
  | .idle, .act action => (s.act action).2
  | .idle, .update pTime => { s with time := (s.time + pTime) % 2 ^ 64, loop := .updating }
  | .idle, .killAllEvents force => { s with loop := .killing force false [] }
  | .idle, .destroy => { s with loop := .killing true true [] }
  | .updating, .round answer => s.updateRound answer
  | .killing force final passed, .round answer => s.killRound force final passed answer
  | _, _ => s

def run (s : EventProcessor) (events : List ProcessorEvent) : EventProcessor :=
  Lib.run step s events

end EventProcessor

end TortoiseWow.Utilities
