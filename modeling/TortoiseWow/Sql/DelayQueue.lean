import Mathlib.Data.List.Basic
import Mathlib.Logic.Function.Basic
import TortoiseWow.Lib.Run

/-!
The asynchronous side of a database: submitting threads put operations into the
queues of the delay threads, and each delay thread walks its queues in passes.
Every step here is one access to one queue or one executed operation, so a list
of events is any interleaving of the submitting threads and the delay threads.
-/

namespace TortoiseWow.Sql

/-- A queued operation. Its ticket is its place in the order of submission. -/
structure SqlOperation (β : Type) where
  ticket : Nat
  serialId : UInt32
  readOnly : Bool
  body : β
  deriving Repr, DecidableEq

/-- Where a delay thread stands in ProcessRequests, with the operations counted
in the loop it is in. `priorityOther` is between the two queues of the first
loop's condition. -/
inductive Phase where
  | idle
  | priority (processed : Nat)
  | priorityOther (processed : Nat)
  | normal (processed : Nat)
  | serial (processed : Nat)
  deriving Repr, DecidableEq

structure SqlDelayThread (β : Type) where
  priorityQueue : List (SqlOperation β) := []
  serialDelayQueue : List (SqlOperation β) := []
  prioritySerialDelayQueue : List (SqlOperation β) := []
  phase : Phase := .idle
  /-- Taken from a queue and not yet executed. -/
  current : Option (SqlOperation β) := none

/-- `submitted` and `executed` record what went in and what was carried out. -/
structure Database (β : Type) where
  numAsyncWorkers : UInt32
  delayQueue : List (SqlOperation β) := []
  threadsBodies : Nat → SqlDelayThread β := fun _ => {}
  submitted : List (SqlOperation β) := []
  executed : List (SqlOperation β) := []

namespace Database

variable {β : Type}

def setWorker (db : Database β) (i : Nat) (worker : SqlDelayThread β) : Database β :=
  { db with threadsBodies := Function.update db.threadsBodies i worker }

def addSerialOperation (db : Database β) (i : Nat) (op : SqlOperation β) : Database β :=
  let worker := db.threadsBodies i
  db.setWorker i { worker with serialDelayQueue := worker.serialDelayQueue ++ [op] }

def addPriorityOperation (db : Database β) (i : Nat) (op : SqlOperation β) : Database β :=
  let worker := db.threadsBodies i
  db.setWorker i { worker with priorityQueue := worker.priorityQueue ++ [op] }

def addPrioritySerialOperation (db : Database β) (i : Nat) (op : SqlOperation β) : Database β :=
  let worker := db.threadsBodies i
  db.setWorker i
    { worker with prioritySerialDelayQueue := worker.prioritySerialDelayQueue ++ [op] }

def addToDelayQueue (db : Database β) (op : SqlOperation β) : Database β :=
  if db.numAsyncWorkers ≠ 0 ∧ op.readOnly = false then db.addSerialOperation 0 op
  else { db with delayQueue := db.delayQueue ++ [op] }

def addToPriorityDelayQueue (db : Database β) (op : SqlOperation β) : Database β :=
  if db.numAsyncWorkers ≠ 0 then db.addPriorityOperation 0 op
  else db.addToDelayQueue op

def worker (db : Database β) (serialId : UInt32) : Nat :=
  (serialId % db.numAsyncWorkers).toNat

def addToSerialDelayQueue (db : Database β) (op : SqlOperation β) : Database β :=
  if op.serialId = 0 ∨ db.numAsyncWorkers = 0 then db.addToDelayQueue op
  else db.addSerialOperation (db.worker op.serialId) op

def addToPrioritySerialDelayQueue (db : Database β) (op : SqlOperation β) : Database β :=
  if op.serialId = 0 ∨ db.numAsyncWorkers = 0 then db.addToPriorityDelayQueue op
  else db.addPrioritySerialOperation (db.worker op.serialId) op

end Database

/-- What a thread can submit: a statement outside a transaction, an asynchronous
query, a transaction, or a query holder. -/
inductive Request (β : Type) where
  | execute (body : β)
  | asyncQuery (body : β) (highPriority : Bool)
  | commitTransaction (serialId : UInt32) (body : β)
  | queryHolder (serialId : UInt32) (body : β) (highPriority : Bool)
  deriving Repr, DecidableEq

namespace Request

variable {β : Type}

def operation (ticket : Nat) : Request β → SqlOperation β
  | execute body => { ticket, serialId := 0, readOnly := false, body }
  | asyncQuery body _ => { ticket, serialId := 0, readOnly := true, body }
  | commitTransaction serialId body => { ticket, serialId, readOnly := false, body }
  | queryHolder serialId body _ => { ticket, serialId, readOnly := true, body }

end Request

namespace Database

variable {β : Type}

def enqueue (db : Database β) (request : Request β) (op : SqlOperation β) : Database β :=
  match request with
  | .execute _ => db.addToDelayQueue op
  | .asyncQuery _ highPriority =>
      if highPriority then db.addToPriorityDelayQueue op else db.addToDelayQueue op
  | .commitTransaction serialId _ =>
      if 0 < serialId then db.addToSerialDelayQueue op else db.addToDelayQueue op
  | .queryHolder _ _ highPriority =>
      if highPriority then db.addToPrioritySerialDelayQueue op
      else db.addToSerialDelayQueue op

def submit (db : Database β) (request : Request β) : Database β :=
  let op := request.operation db.submitted.length
  { db.enqueue request op with submitted := db.submitted ++ [op] }

def work (db : Database β) (i : Nat) : Database β :=
  let worker := db.threadsBodies i
  match worker.current with
  | some op =>
      { db.setWorker i { worker with current := none } with executed := db.executed ++ [op] }
  | none =>
      match worker.phase with
      | .idle => db.setWorker i { worker with phase := .priority 0 }
      | .priority processed =>
          if processed < 32 then
            match worker.prioritySerialDelayQueue with
            | op :: rest =>
                db.setWorker i { worker with
                  prioritySerialDelayQueue := rest
                  phase := .priority (processed + 1)
                  current := some op }
            | [] => db.setWorker i { worker with phase := .priorityOther processed }
          else db.setWorker i { worker with phase := .normal 0 }
      | .priorityOther processed =>
          match worker.priorityQueue with
          | op :: rest =>
              db.setWorker i { worker with
                priorityQueue := rest
                phase := .priority (processed + 1)
                current := some op }
          | [] => db.setWorker i { worker with phase := .normal 0 }
      | .normal processed =>
          if processed < 64 then
            match db.delayQueue with
            | op :: rest =>
                { db.setWorker i { worker with
                    phase := .normal (processed + 1)
                    current := some op } with delayQueue := rest }
            | [] => db.setWorker i { worker with phase := .serial 0 }
          else db.setWorker i { worker with phase := .serial 0 }
      | .serial processed =>
          if processed < 64 then
            match worker.serialDelayQueue with
            | op :: rest =>
                db.setWorker i { worker with
                  serialDelayQueue := rest
                  phase := .serial (processed + 1)
                  current := some op }
            | [] => db.setWorker i { worker with phase := .idle }
          else db.setWorker i { worker with phase := .idle }

end Database

inductive Event (β : Type) where
  | submit (request : Request β)
  | work (worker : Nat)
  deriving Repr, DecidableEq

def Database.step {β : Type} (db : Database β) : Event β → Database β
  | .submit request => db.submit request
  | .work i => if i < db.numAsyncWorkers.toNat then db.work i else db

def Database.run {β : Type} (db : Database β) (events : List (Event β)) : Database β :=
  Lib.run Database.step db events

end TortoiseWow.Sql
