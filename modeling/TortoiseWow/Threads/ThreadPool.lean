import TortoiseWow.Lib.ListRef
import TortoiseWow.Lib.Run

/-!
A pool of worker threads that executes batches of tasks. Publishing a batch starts a new
generation; as many workers as there are tasks, at most all, take part in it, and the
last to leave makes its future ready. What happens under the mutex, and every access to
an atomic, is one step. Any callable may throw when it is executed.
-/

namespace TortoiseWow.Threads

inductive ClearMode where
  | never
  | upponCompletion
  | atNextWorkload
  deriving Repr, DecidableEq

inductive ErrorHandling where
  | none
  | ignore
  | log
  | terminate
  deriving Repr, DecidableEq

/-- An error makes the workers leave the rest of the batch. -/
def ErrorHandling.stops : ErrorHandling → Bool
  | none | terminate => true
  | ignore | log => false

inductive PoolStatus where
  | stopped
  | ready
  | processing
  | terminating
  deriving Repr, DecidableEq

/-- The callable that is executed. -/
inductive Site where
  | pre
  | task (index : Nat)
  | post
  deriving Repr, DecidableEq

/-- Where RunWorker stands. `test` is the condition of the loop, `next` the end of its
body, and `flag` comes between recording an error and setting `failed`. -/
inductive PoolPhase where
  | checking
  | waiting
  | pre
  | fetch
  | test (index : Nat)
  | run (index : Nat)
  | next (index : Nat)
  | flag (site : Site)
  | post
  | leave
  | exited
  deriving Repr, DecidableEq

structure PoolWorker where
  id : Nat
  phase : PoolPhase := .checking
  seen : Nat := 0
  deriving Repr, DecidableEq

/-- What a ready future holds, the error being none for a value. -/
structure Completion where
  generation : Nat
  size : Nat
  error : Option Site
  deriving Repr, DecidableEq

/-- `executed` and `thrown` list what was executed and what threw, with the generation;
`completed` lists the futures that became ready. -/
structure ThreadPool (τ : Type) where
  size : Nat
  multi : Bool
  clearMode : ClearMode
  errorHandling : ErrorHandling
  workers : List PoolWorker
  status : PoolStatus
  workload : List τ := []
  errors : List Site := []
  failed : Bool := false
  index : Nat := 0
  generation : Nat := 0
  active : Nat := 0
  participants : Nat := 0
  dirty : Bool := false
  stopping : Bool := false
  executed : List (Nat × Nat) := []
  thrown : List (Nat × Site) := []
  completed : List Completion := []

namespace ThreadPool

variable {τ : Type}

def start (τ : Type) (size : Nat) (multi : Bool) (clearMode : ClearMode)
    (errorHandling : ErrorHandling) : ThreadPool τ where
  size := size
  multi := multi
  clearMode := clearMode
  errorHandling := errorHandling
  workers := (List.range size).map fun id => { id }
  status := if size = 0 then .stopped else .ready

def idle (s : ThreadPool τ) : Bool := s.active == 0 && !s.stopping

def notifyAll (workers : List PoolWorker) : List PoolWorker :=
  workers.map fun w => if w.phase = .waiting then { w with phase := .checking } else w

def publish (s : ThreadPool τ) : ThreadPool τ :=
  if s.status ≠ .ready ∨ s.workload = [] then s
  else
    let participants := min s.size s.workload.length
    { s with
      errors := []
      failed := false
      index := 0
      participants
      active := participants
      dirty := true
      generation := s.generation + 1
      status := .processing
      workers := notifyAll s.workers }

def processWorkload (s : ThreadPool τ) (work : Option (List τ)) : ThreadPool τ :=
  if s.idle then
    match work with
    | some workload => { s with workload }.publish
    | none =>
        if s.clearMode = .atNextWorkload ∧ s.dirty = true then
          { s with workload := [], dirty := false }.publish
        else s.publish
  else s

/-- The operator that appends one task. -/
def push (s : ThreadPool τ) (function : τ) : ThreadPool τ :=
  if s.idle then
    let workload := if s.clearMode = .atNextWorkload ∧ s.dirty = true then [] else s.workload
    { s with dirty := false, workload := workload ++ [function] }
  else s

def clearWorkload (s : ThreadPool τ) : ThreadPool τ :=
  if s.idle then { s with workload := [], dirty := false } else s

def setWorker (s : ThreadPool τ) (i : Nat) (w : PoolWorker) : ThreadPool τ :=
  { s with workers := s.workers.set i w }

/-- The error is recorded under the mutex; `failed` is set afterwards. -/
def record (s : ThreadPool τ) (w : PoolWorker) (site : Site) : ThreadPool τ :=
  { s with errors := s.errors ++ [site], thrown := s.thrown ++ [(w.seen, site)] }

def leave (s : ThreadPool τ) (w : PoolWorker) : ThreadPool τ :=
  let active := s.active - 1
  if active = 0 then
    { s with
      active
      workload := if s.clearMode = .upponCompletion then [] else s.workload
      status := .ready
      completed := s.completed ++ [{
        generation := w.seen
        size := s.workload.length
        error := if s.failed then s.errors.head? else none }] }
  else { s with active }

/-- What follows the execution of a callable. -/
def Site.after : Site → PoolPhase
  | .pre => .fetch
  | .task index => .next index
  | .post => .leave

def work (s : ThreadPool τ) (i : Nat) (w : PoolWorker) (throws : Bool) : ThreadPool τ :=
  match w.phase with
  | .checking =>
      if s.stopping then s.setWorker i { w with phase := .exited }
      else if s.generation ≠ w.seen then
        s.setWorker i { w with
          seen := s.generation
          phase := if w.id ≥ s.participants then .checking else .pre }
      else s.setWorker i { w with phase := .waiting }
  | .waiting | .exited => s
  | .pre =>
      if throws then (s.record w .pre).setWorker i { w with phase := .flag .pre }
      else s.setWorker i { w with phase := .fetch }
  | .fetch =>
      if s.multi then s.setWorker i { w with phase := .test w.id }
      else { s with index := s.index + 1 }.setWorker i { w with phase := .test s.index }
  | .test index =>
      s.setWorker i { w with
        phase := if index < s.workload.length ∧ s.failed = false then .run index else .post }
  | .run index =>
      let s := { s with executed := s.executed ++ [(w.seen, index)] }
      if throws then
        (s.record w (.task index)).setWorker i { w with phase := .flag (.task index) }
      else s.setWorker i { w with phase := .next index }
  | .next index =>
      if s.multi then s.setWorker i { w with phase := .test (index + s.size) }
      else { s with index := s.index + 1 }.setWorker i { w with phase := .test s.index }
  | .flag site =>
      { s with failed := s.failed || s.errorHandling.stops }.setWorker i
        { w with phase := Site.after site }
  | .post =>
      if throws then (s.record w .post).setWorker i { w with phase := .flag .post }
      else s.setWorker i { w with phase := .leave }
  | .leave => (s.leave w).setWorker i { w with phase := .checking }

/-- The destructor waits until the pool is idle and stops it. -/
def destroy (s : ThreadPool τ) : ThreadPool τ :=
  if s.active = 0 then { s with stopping := true, status := .terminating } else s

/-- A wait may end without a notification. -/
def wake (s : ThreadPool τ) (i : Nat) (w : PoolWorker) : ThreadPool τ :=
  if w.phase = .waiting then s.setWorker i { w with phase := .checking } else s

end ThreadPool

inductive PoolEvent (τ : Type) where
  | processWorkload (work : Option (List τ))
  | push (function : τ)
  | clearWorkload
  | work (worker : Nat) (throws : Bool)
  | wake (worker : Nat)
  | destroy
  | notifyAll
  deriving Repr, DecidableEq

namespace ThreadPool

variable {τ : Type}

def step (s : ThreadPool τ) : PoolEvent τ → ThreadPool τ
  | .processWorkload work => s.processWorkload work
  | .push function => s.push function
  | .clearWorkload => s.clearWorkload
  | .work i throws =>
      match s.workers[i]? with
      | some w => s.work i w throws
      | none => s
  | .wake i =>
      match s.workers[i]? with
      | some w => s.wake i w
      | none => s
  | .destroy => s.destroy
  | .notifyAll => { s with workers := notifyAll s.workers }

def run (s : ThreadPool τ) (events : List (PoolEvent τ)) : ThreadPool τ := Lib.run step s events

end ThreadPool

end TortoiseWow.Threads
