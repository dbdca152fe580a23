import TortoiseWow.Lib.ListRef
import TortoiseWow.Sql.Order

/-!
Stopping the delay threads: each runs until it is told to stop and then processes
requests until a call finds none; HaltDelayThread stops and joins them, drains what
callbacks queued meanwhile, and destroys them, which drains once more. An operation
can be submitted at any step, also by the callback of an executed one.
-/

namespace TortoiseWow.Sql

inductive ThreadPhase where
  | running
  | processing
  | drainNext
  | draining
  | exited
  deriving Repr, DecidableEq

/-- Where HaltDelayThread stands, with the worker it is at. A round of draining has
its own count of drained operations. -/
inductive HaltPhase where
  | off
  | stopping (worker : Nat)
  | joining (worker : Nat)
  | drainNext (worker drained : Nat)
  | draining (worker drained : Nat)
  | clearNext (worker : Nat)
  | clearing (worker : Nat)
  | done
  deriving Repr, DecidableEq

/-- A database with its worker threads. `processed` counts the operations taken in the
current call of ProcessRequests, `executedBy` says which worker's connection
executed what, and `late` that something was submitted after the last drain. -/
structure DelayThreads (β : Type) where
  db : Database β
  running : Nat → Bool := fun _ => true
  threads : Nat → ThreadPhase := fun _ => .running
  halt : HaltPhase := .off
  processed : Nat → Nat := fun _ => 0
  executedBy : List (SqlOperation β × Nat) := []
  late : Bool := false

namespace DelayThreads

variable {β : Type}

def workers (s : DelayThreads β) : Nat := s.db.numAsyncWorkers.toNat

def advance (s : DelayThreads β) (i : Nat) : DelayThreads β :=
  let db := s.db.work i
  match (s.db.threadsBodies i).current with
  | some op => { s with db, executedBy := s.executedBy ++ [(op, i)] }
  | none =>
      let taken := if (db.threadsBodies i).current.isSome then 1 else 0
      { s with db, processed := Function.update s.processed i (s.processed i + taken) }

def call (s : DelayThreads β) (i : Nat) : DelayThreads β :=
  { s with db := s.db.work i, processed := Function.update s.processed i 0 }

def returned (s : DelayThreads β) (i : Nat) : Bool :=
  (s.db.threadsBodies i).phase == .idle && (s.db.threadsBodies i).current.isNone

def setThread (s : DelayThreads β) (i : Nat) (phase : ThreadPhase) : DelayThreads β :=
  { s with threads := Function.update s.threads i phase }

def thread (s : DelayThreads β) (i : Nat) : DelayThreads β :=
  match s.threads i with
  | .running =>
      if s.running i then (s.call i).setThread i .processing else s.setThread i .drainNext
  | .processing =>
      let s := s.advance i
      if s.returned i then s.setThread i .running else s
  | .drainNext => (s.call i).setThread i .draining
  | .draining =>
      let s := s.advance i
      if s.returned i then
        s.setThread i (if s.processed i = 0 then .exited else .drainNext)
      else s
  | .exited => s

def haltDelayThread (s : DelayThreads β) : DelayThreads β :=
  match s.halt with
  | .off => { s with halt := .stopping 0 }
  | .stopping i =>
      if i < s.workers then
        { s with running := Function.update s.running i false, halt := .stopping (i + 1) }
      else { s with halt := .joining 0 }
  | .joining i =>
      if i < s.workers then
        if s.threads i = .exited then { s with halt := .joining (i + 1) } else s
      else { s with halt := .drainNext 0 0 }
  | .drainNext i drained =>
      if i < s.workers then { s.call i with halt := .draining i drained }
      else if drained ≠ 0 then { s with halt := .drainNext 0 0 }
      else { s with halt := .clearNext 0 }
  | .draining i drained =>
      let s := s.advance i
      if s.returned i then { s with halt := .drainNext (i + 1) (drained + s.processed i) } else s
  | .clearNext i =>
      if i < s.workers then { s.call i with halt := .clearing i }
      else { s with halt := .done, db := { s.db with numAsyncWorkers := 0 } }
  | .clearing i =>
      let s := s.advance i
      if s.returned i then
        { s with halt := if s.processed i = 0 then .clearNext (i + 1) else .clearNext i }
      else s
  | .done => s

/-- From the destructors on nothing more should be accepted. -/
def isClearing : HaltPhase → Bool
  | .clearNext _ | .clearing _ | .done => true
  | _ => false

def submit (s : DelayThreads β) (request : Request β) : DelayThreads β :=
  { s with db := s.db.submit request, late := s.late || isClearing s.halt }

end DelayThreads

inductive ShutdownEvent (β : Type) where
  | submit (request : Request β)
  | thread (worker : Nat)
  | halt
  deriving Repr, DecidableEq

namespace DelayThreads

variable {β : Type}

def step (s : DelayThreads β) : ShutdownEvent β → DelayThreads β
  | .submit request => s.submit request
  | .thread i => if i < s.workers then s.thread i else s
  | .halt => s.haltDelayThread

def run (s : DelayThreads β) (events : List (ShutdownEvent β)) : DelayThreads β :=
  Lib.run step s events

/-- A database with this number of workers, before anything is submitted. -/
def start (β : Type) (numAsyncWorkers : UInt32) : DelayThreads β :=
  { db := { numAsyncWorkers } }

end DelayThreads

def SqlDelayThread.contents {β : Type} (worker : SqlDelayThread β) : Multiset (SqlOperation β) :=
  worker.current.toList + worker.priorityQueue + worker.serialDelayQueue +
    worker.prioritySerialDelayQueue

namespace Database

variable {β : Type}

/-- Everything accepted and not yet executed. -/
def outstanding (db : Database β) : Multiset (SqlOperation β) :=
  (db.delayQueue : Multiset (SqlOperation β)) +
    ∑ i ∈ Finset.range db.numAsyncWorkers.toNat, (db.threadsBodies i).contents

def Accounted (db : Database β) : Prop :=
  (db.executed : Multiset (SqlOperation β)) + db.outstanding = db.submitted

@[simp] theorem setWorker_self (db : Database β) (i : Nat) (worker : SqlDelayThread β) :
    (db.setWorker i worker).threadsBodies i = worker := Function.update_self ..

theorem setWorker_of_ne (db : Database β) {i j : Nat} (h : j ≠ i) (worker : SqlDelayThread β) :
    (db.setWorker i worker).threadsBodies j = db.threadsBodies j := Function.update_of_ne h ..

@[simp] theorem setWorker_delayQueue (db : Database β) (i : Nat) (worker : SqlDelayThread β) :
    (db.setWorker i worker).delayQueue = db.delayQueue := rfl

@[simp] theorem setWorker_executed (db : Database β) (i : Nat) (worker : SqlDelayThread β) :
    (db.setWorker i worker).executed = db.executed := rfl

/-- One worker changes, and what it and the shared places hold stays the same with
what is new. -/
theorem Accounted.of_worker {db db' : Database β} (h : db.Accounted) {i : Nat}
    (hi : i < db.numAsyncWorkers.toNat) (hworkers : db'.numAsyncWorkers = db.numAsyncWorkers)
    (hother : ∀ j, j ≠ i → db'.threadsBodies j = db.threadsBodies j)
    {new : Multiset (SqlOperation β)}
    (hnew : (db'.submitted : Multiset (SqlOperation β)) = db.submitted + new)
    (hbalance : (db'.executed : Multiset (SqlOperation β)) + db'.delayQueue +
      (db'.threadsBodies i).contents =
        db.executed + db.delayQueue + (db.threadsBodies i).contents + new) : db'.Accounted := by
  unfold Accounted outstanding at h ⊢
  have hmem : i ∈ Finset.range db.numAsyncWorkers.toNat := Finset.mem_range.mpr hi
  have hsplit : ∀ d : Database β,
      ∑ j ∈ Finset.range db.numAsyncWorkers.toNat, (d.threadsBodies j).contents =
        (d.threadsBodies i).contents +
          ∑ j ∈ (Finset.range db.numAsyncWorkers.toNat).erase i, (d.threadsBodies j).contents :=
    fun d => (Finset.add_sum_erase _ _ hmem).symm
  have hrest : ∑ j ∈ (Finset.range db.numAsyncWorkers.toNat).erase i,
        (db'.threadsBodies j).contents =
      ∑ j ∈ (Finset.range db.numAsyncWorkers.toNat).erase i, (db.threadsBodies j).contents :=
    Finset.sum_congr rfl fun j hj => by rw [hother j (Finset.ne_of_mem_erase hj)]
  rw [hworkers, hsplit db', hrest, hnew, ← h, hsplit db]
  calc
    _ = ((db'.executed : Multiset (SqlOperation β)) + db'.delayQueue +
          (db'.threadsBodies i).contents) +
        ∑ j ∈ (Finset.range db.numAsyncWorkers.toNat).erase i, (db.threadsBodies j).contents := by
      abel
    _ = _ := by
      rw [hbalance]
      abel

theorem Turn.balance {db db' : Database β} {i : Nat} (h : Turn db i db') :
    (db'.executed : Multiset (SqlOperation β)) + db'.delayQueue + (db'.threadsBodies i).contents =
      db.executed + db.delayQueue + (db.threadsBodies i).contents := by
  cases h with
  | execute op current =>
      simp only [setWorker_self, setWorker_delayQueue, SqlDelayThread.contents, current,
        Option.toList_none, Option.toList_some, ← Multiset.coe_add]
      abel
  | move phase moves =>
      simp only [setWorker_self, setWorker_delayQueue, setWorker_executed,
        SqlDelayThread.contents]
  | takePriority op rest processed none phase left queue =>
      simp only [setWorker_self, setWorker_delayQueue, setWorker_executed,
        SqlDelayThread.contents, none, queue, Option.toList_none, Option.toList_some,
        ← Multiset.singleton_add, ← Multiset.cons_coe]
      abel
  | takeOther op rest processed none phase queue =>
      simp only [setWorker_self, setWorker_delayQueue, setWorker_executed,
        SqlDelayThread.contents, none, queue, Option.toList_none, Option.toList_some,
        ← Multiset.singleton_add, ← Multiset.cons_coe]
      abel
  | takeNormal op rest processed none phase queue =>
      simp only [setWorker_self, setWorker_executed,
        SqlDelayThread.contents, none, queue, Option.toList_none, Option.toList_some,
        ← Multiset.singleton_add, ← Multiset.cons_coe]
      abel
  | takeSerial op rest processed none phase left queue =>
      simp only [setWorker_self, setWorker_delayQueue, setWorker_executed,
        SqlDelayThread.contents, none, queue, Option.toList_none, Option.toList_some,
        ← Multiset.singleton_add, ← Multiset.cons_coe]
      abel

theorem Turn.frame {db db' : Database β} {i : Nat} (h : Turn db i db') :
    (∀ j, j ≠ i → db'.threadsBodies j = db.threadsBodies j) ∧
      db'.submitted = db.submitted ∧ db'.numAsyncWorkers = db.numAsyncWorkers ∧
      (db.delayQueue = [] → db'.delayQueue = []) := by
  cases h with
  | takeNormal op rest processed none phase queue =>
      refine ⟨fun j hj => setWorker_of_ne db hj _, rfl, rfl, fun hempty => ?_⟩
      rw [hempty] at queue
      exact absurd queue (by simp)
  | execute | move | takePriority | takeOther | takeSerial =>
      exact ⟨fun j hj => setWorker_of_ne db hj _, rfl, rfl, fun hempty => hempty⟩

theorem work_executed (db : Database β) (i : Nat) :
    (db.work i).executed = db.executed ++ (db.threadsBodies i).current.toList := by
  simp only [work]
  split
  next op hcurrent => simp [hcurrent]
  next hcurrent =>
    simp only [hcurrent, Option.toList_none, List.append_nil]
    repeat' split
    all_goals rfl

theorem Accounted.work {db : Database β} (h : db.Accounted) {i : Nat}
    (hi : i < db.numAsyncWorkers.toNat) : (db.work i).Accounted := by
  have hturn := db.work_turn i
  obtain ⟨hother, hsubmitted, hworkers, -⟩ := hturn.frame
  refine @Accounted.of_worker _ _ _ h _ hi hworkers hother 0 (by simp [hsubmitted]) ?_
  simpa using hturn.balance

/-- A worker outside ProcessRequests. -/
def Quiet (db : Database β) (i : Nat) : Prop :=
  (db.threadsBodies i).phase = .idle ∧ (db.threadsBodies i).current = none

/-- In the call of ProcessRequests a worker is in, nothing was found so far. -/
def FoundNothing (db : Database β) (i : Nat) : Prop :=
  (db.threadsBodies i).current = none ∧
    match (db.threadsBodies i).phase with
    | .priority processed => processed = 0
    | .priorityOther processed =>
        processed = 0 ∧ (db.threadsBodies i).prioritySerialDelayQueue = []
    | .normal processed =>
        processed = 0 ∧ (db.threadsBodies i).prioritySerialDelayQueue = [] ∧
          (db.threadsBodies i).priorityQueue = []
    | .serial processed =>
        processed = 0 ∧ (db.threadsBodies i).prioritySerialDelayQueue = [] ∧
          (db.threadsBodies i).priorityQueue = [] ∧ db.delayQueue = []
    | .idle =>
        (db.threadsBodies i).prioritySerialDelayQueue = [] ∧
          (db.threadsBodies i).priorityQueue = [] ∧ db.delayQueue = [] ∧
          (db.threadsBodies i).serialDelayQueue = []

theorem Quiet.call {db : Database β} {i : Nat} (h : db.Quiet i) : (db.work i).FoundNothing i := by
  simp [work, FoundNothing, h.1, h.2]

/-- As long as a call takes nothing, the queues it has passed are empty. -/
theorem FoundNothing.work {db : Database β} {i : Nat} (h : db.FoundNothing i)
    (hnone : ((db.work i).threadsBodies i).current = none) : (db.work i).FoundNothing i := by
  obtain ⟨hcurrent, hfound⟩ := h
  refine ⟨hnone, ?_⟩
  simp only [Database.work, hcurrent] at hnone ⊢
  cases hp : (db.threadsBodies i).phase with
  | idle => simp
  | priority processed =>
      simp only [hp] at hfound hnone ⊢
      subst hfound
      cases hq : (db.threadsBodies i).prioritySerialDelayQueue with
      | nil => simp
      | cons op rest => simp [hq] at hnone
  | priorityOther processed =>
      simp only [hp] at hfound hnone ⊢
      cases hq : (db.threadsBodies i).priorityQueue with
      | nil => simp [hfound.2]
      | cons op rest => simp [hq] at hnone
  | normal processed =>
      simp only [hp] at hfound hnone ⊢
      obtain ⟨rfl, hfound⟩ := hfound
      cases hq : db.delayQueue with
      | nil => simp [hq, hfound]
      | cons op rest => simp [hq] at hnone
  | serial processed =>
      simp only [hp] at hfound hnone ⊢
      obtain ⟨rfl, hfound⟩ := hfound
      cases hq : (db.threadsBodies i).serialDelayQueue with
      | nil => simp [hfound]
      | cons op rest => simp [hq] at hnone

/-- A call that returns without having taken anything leaves no work behind. -/
theorem FoundNothing.empty {db : Database β} {i : Nat} (h : db.FoundNothing i)
    (hphase : (db.threadsBodies i).phase = .idle) :
    (db.threadsBodies i).contents = 0 ∧ db.delayQueue = [] := by
  obtain ⟨hcurrent, hfound⟩ := h
  simp only [hphase] at hfound
  obtain ⟨hserial, hpriority, hdelay, hnormal⟩ := hfound
  exact ⟨by simp [SqlDelayThread.contents, hcurrent, hserial, hpriority, hnormal], hdelay⟩

/-- Where a submitted operation ends up. -/
inductive Put (db : Database β) (op : SqlOperation β) : Database β → Prop where
  | delayQueue : Put db op { db with delayQueue := db.delayQueue ++ [op] }
  | worker (i : Nat) (lt : i < db.numAsyncWorkers.toNat) (worker : SqlDelayThread β)
      (phase : worker.phase = (db.threadsBodies i).phase)
      (current : worker.current = (db.threadsBodies i).current)
      (contents : worker.contents = (db.threadsBodies i).contents + {op}) :
      Put db op (db.setWorker i worker)

theorem toNat_pos {numAsyncWorkers : UInt32} (h : numAsyncWorkers ≠ 0) :
    0 < numAsyncWorkers.toNat :=
  Nat.pos_of_ne_zero fun hzero => h (UInt32.toNat_inj.mp hzero)

theorem worker_lt {db : Database β} (h : db.numAsyncWorkers ≠ 0) (serialId : UInt32) :
    db.worker serialId < db.numAsyncWorkers.toNat := by
  rw [worker, UInt32.toNat_mod]
  exact Nat.mod_lt _ (toNat_pos h)

theorem put_addSerialOperation (db : Database β) (op : SqlOperation β) {i : Nat}
    (hi : i < db.numAsyncWorkers.toNat) : Put db op (db.addSerialOperation i op) := by
  refine .worker i hi _ rfl rfl ?_
  simp only [SqlDelayThread.contents, ← Multiset.coe_add, Multiset.coe_singleton]
  abel

theorem put_addToDelayQueue (db : Database β) (op : SqlOperation β) :
    Put db op (db.addToDelayQueue op) := by
  unfold addToDelayQueue
  split
  next h => exact db.put_addSerialOperation op (toNat_pos h.1)
  next => exact .delayQueue

theorem put_addToPriorityDelayQueue (db : Database β) (op : SqlOperation β) :
    Put db op (db.addToPriorityDelayQueue op) := by
  unfold addToPriorityDelayQueue
  split
  next h =>
    refine .worker 0 (toNat_pos h) _ rfl rfl ?_
    simp only [SqlDelayThread.contents, ← Multiset.coe_add, Multiset.coe_singleton]
    abel
  next => exact db.put_addToDelayQueue op

theorem put_addToSerialDelayQueue (db : Database β) (op : SqlOperation β) :
    Put db op (db.addToSerialDelayQueue op) := by
  unfold addToSerialDelayQueue
  split
  next => exact db.put_addToDelayQueue op
  next h => exact db.put_addSerialOperation op (worker_lt (fun hzero => h (Or.inr hzero)) _)

theorem put_addToPrioritySerialDelayQueue (db : Database β) (op : SqlOperation β) :
    Put db op (db.addToPrioritySerialDelayQueue op) := by
  unfold addToPrioritySerialDelayQueue
  split
  next => exact db.put_addToPriorityDelayQueue op
  next h =>
    refine .worker _ (worker_lt (fun hzero => h (Or.inr hzero)) op.serialId) _ rfl rfl ?_
    simp only [SqlDelayThread.contents, ← Multiset.coe_add, Multiset.coe_singleton]
    abel

theorem put_enqueue (db : Database β) (request : Request β) (op : SqlOperation β) :
    Put db op (db.enqueue request op) := by
  cases request with
  | execute body => exact db.put_addToDelayQueue op
  | asyncQuery body highPriority =>
      cases highPriority with
      | false => exact db.put_addToDelayQueue op
      | true => exact db.put_addToPriorityDelayQueue op
  | commitTransaction serialId body =>
      simp only [enqueue]
      split
      next => exact db.put_addToSerialDelayQueue op
      next => exact db.put_addToDelayQueue op
  | queryHolder serialId body highPriority =>
      cases highPriority with
      | false => exact db.put_addToSerialDelayQueue op
      | true => exact db.put_addToPrioritySerialDelayQueue op

theorem Put.frame {db db' : Database β} {op : SqlOperation β} (h : Put db op db') :
    db'.numAsyncWorkers = db.numAsyncWorkers ∧ db'.executed = db.executed ∧
      ∀ j, db.Quiet j → db'.Quiet j := by
  cases h with
  | delayQueue => exact ⟨rfl, rfl, fun j hquiet => hquiet⟩
  | worker i lt worker phase current contents =>
      refine ⟨rfl, rfl, fun j hquiet => ?_⟩
      by_cases hj : j = i
      · subst hj
        simpa [Quiet, phase, current] using hquiet
      · simpa [Quiet, setWorker_of_ne db hj] using hquiet

theorem Accounted.put {db db' : Database β} {op : SqlOperation β} (h : db.Accounted)
    (hput : Put db op db') : Accounted { db' with submitted := db.submitted ++ [op] } := by
  cases hput with
  | delayQueue =>
      simp only [Accounted, outstanding, ← Multiset.coe_add, Multiset.coe_singleton] at h ⊢
      rw [← h]
      abel
  | worker i lt worker phase current contents =>
      refine @Accounted.of_worker _ _ _ h _ lt rfl (fun j hj => setWorker_of_ne db hj _) {op} ?_ ?_
      · simp [← Multiset.coe_add]
      · simp only [setWorker_self, setWorker_executed, setWorker_delayQueue, contents]
        abel

end Database

def HaltPhase.called : HaltPhase → Option Nat
  | .draining i _ | .clearing i => some i
  | _ => none

def HaltPhase.Joined : HaltPhase → Nat → Prop
  | .off, _ | .stopping _, _ => False
  | .joining i, j => j < i
  | _, _ => True

/-- The number of workers that are destroyed. -/
def HaltPhase.cleared : HaltPhase → Nat
  | .clearNext i | .clearing i => i
  | _ => 0

def ThreadPhase.outside : ThreadPhase → Bool
  | .running | .drainNext | .exited => true
  | .processing | .draining => false

namespace DelayThreads

variable {β : Type}

section Steps

variable (s : DelayThreads β) (i : Nat)

@[simp] theorem advance_db : (s.advance i).db = s.db.work i := by
  simp only [advance]
  split <;> rfl

@[simp] theorem advance_threads : (s.advance i).threads = s.threads := by
  simp only [advance]
  split <;> rfl

@[simp] theorem advance_halt : (s.advance i).halt = s.halt := by
  simp only [advance]
  split <;> rfl

@[simp] theorem advance_late : (s.advance i).late = s.late := by
  simp only [advance]
  split <;> rfl

theorem advance_executedBy : (s.advance i).executedBy =
    s.executedBy ++ (s.db.threadsBodies i).current.toList.map (·, i) := by
  simp only [advance]
  split
  next op hcurrent => simp [hcurrent]
  next hcurrent => simp [hcurrent]

theorem advance_processed (h : (s.advance i).processed i = 0)
    (hfound : s.processed i = 0 → s.db.FoundNothing i) :
    s.processed i = 0 ∧ ((s.db.work i).threadsBodies i).current = none := by
  simp only [advance] at h
  split at h
  next op hcurrent =>
    have hnone := (hfound h).1
    rw [hcurrent] at hnone
    exact absurd hnone (by simp)
  next hcurrent =>
    simp only [Function.update_self] at h
    cases htaken : ((s.db.work i).threadsBodies i).current with
    | none => exact ⟨by omega, rfl⟩
    | some op => simp [htaken] at h

theorem returned_iff : s.returned i = true ↔ s.db.Quiet i := by
  simp [returned, Database.Quiet]

end Steps

/-- The books of a database with `n` workers: who executed what, and that nothing
accepted is lost. -/
structure Ledger (n : Nat) (s : DelayThreads β) : Prop where
  workers : s.workers = n
  executed : s.executedBy.map Prod.fst = s.db.executed
  byWorker : ∀ entry ∈ s.executedBy, entry.2 < n
  accounted : s.db.Accounted

namespace Ledger

variable {n : Nat} {s : DelayThreads β}

theorem advance (h : s.Ledger n) {i : Nat} (hi : i < n) : (s.advance i).Ledger n where
  workers := by
    change (s.advance i).db.numAsyncWorkers.toNat = n
    rw [advance_db, (s.db.work_turn i).frame.2.2.1]
    exact h.workers
  executed := by
    rw [advance_executedBy, advance_db, s.db.work_executed, List.map_append, h.executed]
    simp [Function.comp_def]
  byWorker := by
    intro entry hentry
    rw [advance_executedBy] at hentry
    rcases List.mem_append.mp hentry with hentry | hentry
    · exact h.byWorker entry hentry
    · obtain ⟨op, -, rfl⟩ := List.mem_map.mp hentry
      exact hi
  accounted := by
    rw [advance_db]
    exact h.accounted.work (by rw [← h.workers] at hi; exact hi)

theorem call (h : s.Ledger n) {i : Nat} (hi : i < n) (hquiet : s.db.Quiet i) :
    (s.call i).Ledger n where
  workers := by
    change (s.db.work i).numAsyncWorkers.toNat = n
    rw [(s.db.work_turn i).frame.2.2.1]
    exact h.workers
  executed := by
    change s.executedBy.map Prod.fst = (s.db.work i).executed
    rw [s.db.work_executed, hquiet.2, h.executed]
    simp
  byWorker := h.byWorker
  accounted := h.accounted.work (by rw [← h.workers] at hi; exact hi)

theorem setThread (h : s.Ledger n) (i : Nat) (phase : ThreadPhase) :
    (s.setThread i phase).Ledger n :=
  ⟨h.workers, h.executed, h.byWorker, h.accounted⟩

theorem setHalt (h : s.Ledger n) (halt : HaltPhase) : Ledger n { s with halt } :=
  ⟨h.workers, h.executed, h.byWorker, h.accounted⟩

theorem submit (h : s.Ledger n) (request : Request β) : (s.submit request).Ledger n where
  workers := by
    rw [← h.workers]
    exact congrArg UInt32.toNat (s.db.put_enqueue request _).frame.1
  executed := h.executed.trans (s.db.put_enqueue request _).frame.2.1.symm
  byWorker := h.byWorker
  accounted := h.accounted.put (s.db.put_enqueue request _)

end Ledger

/-- Where the threads and HaltDelayThread stand as long as nothing was submitted
too late. -/
structure Stopping (n : Nat) (s : DelayThreads β) : Prop where
  ledger : s.halt ≠ .done → s.Ledger n
  called : ∀ i, s.halt.called = some i → i < n
  joined : ∀ j, j < n → s.halt.Joined j → s.threads j = .exited
  quiet : ∀ j, s.halt.called ≠ some j → (s.threads j).outside = true → s.db.Quiet j
  cleared : ∀ j, j < s.halt.cleared →
    (s.db.threadsBodies j).contents = 0 ∧ s.db.delayQueue = []
  found : ∀ i, s.halt = .clearing i → s.processed i = 0 → s.db.FoundNothing i
  done : s.halt = .done → s.workers = 0 ∧ s.executedBy.map Prod.fst = s.db.executed ∧
    (∀ entry ∈ s.executedBy, entry.2 < n) ∧
    (s.db.executed : Multiset (SqlOperation β)) = s.db.submitted

namespace Stopping

variable {n : Nat} {s : DelayThreads β}

theorem early (h : s.Stopping n) {i : Nat} (hi : i < n) (hruns : s.threads i ≠ .exited) :
    s.halt ≠ .done ∧ s.halt.called = none ∧ s.halt.cleared = 0 ∧ ¬ s.halt.Joined i ∧
      ∀ k, s.halt ≠ .clearing k := by
  have hjoined : ¬ s.halt.Joined i := fun hj => hruns (h.joined i hi hj)
  refine ⟨?_, ?_, ?_, hjoined, ?_⟩
  all_goals
    cases hhalt : s.halt <;> simp_all [HaltPhase.Joined, HaltPhase.called, HaltPhase.cleared]

/-- A step of one thread concerns its own worker only. -/
theorem of_thread (h : s.Stopping n) {i : Nat} (hi : i < n) (hruns : s.threads i ≠ .exited)
    {s' : DelayThreads β} (hhalt : s'.halt = s.halt) (hledger : s.Ledger n → s'.Ledger n)
    (hthreads : ∀ j, j ≠ i → s'.threads j = s.threads j)
    (hother : ∀ j, j ≠ i → s'.db.threadsBodies j = s.db.threadsBodies j)
    (hquiet : (s'.threads i).outside = true → s'.db.Quiet i) : s'.Stopping n := by
  obtain ⟨hdone, hcalled, hcleared, hjoined, hclearing⟩ := h.early hi hruns
  refine ⟨fun _ => hledger (h.ledger hdone), ?_, ?_, ?_, ?_, ?_, ?_⟩
  · intro j hj
    rw [hhalt, hcalled] at hj
    exact absurd hj (by simp)
  · intro j hj hjoinedj
    rw [hhalt] at hjoinedj
    have hne : j ≠ i := fun heq => hjoined (heq ▸ hjoinedj)
    rw [hthreads j hne]
    exact h.joined j hj hjoinedj
  · intro j hj houtside
    by_cases hne : j = i
    · subst hne
      exact hquiet houtside
    · rw [hthreads j hne] at houtside
      have hquietj := h.quiet j (by rw [hcalled]; simp) houtside
      simpa [Database.Quiet, hother j hne] using hquietj
  · intro j hj
    rw [hhalt, hcleared] at hj
    exact absurd hj (Nat.not_lt_zero j)
  · intro k hk
    exact absurd (hhalt ▸ hk) (hclearing k)
  · intro hk
    exact absurd (hhalt ▸ hk) hdone

theorem advance_thread (h : s.Stopping n) {i : Nat} (hi : i < n)
    (hinside : (s.threads i).outside = false) (next : ThreadPhase) :
    (if (s.advance i).returned i then (s.advance i).setThread i next else s.advance i).Stopping
      n := by
  have hruns : s.threads i ≠ .exited := by
    intro heq
    simp [heq, ThreadPhase.outside] at hinside
  have hother := (s.db.work_turn i).frame.1
  split
  next hreturned =>
    refine h.of_thread hi hruns (s.advance_halt i)
      (fun hledger => (hledger.advance hi).setThread i next) ?_ ?_ ?_
    · intro j hj
      simp [setThread, Function.update_of_ne hj]
    · intro j hj
      simpa [setThread] using hother j hj
    · exact fun _ => (returned_iff _ i).mp hreturned
  next =>
    refine h.of_thread hi hruns (s.advance_halt i) (fun hledger => hledger.advance hi)
      (by simp) (by simpa using hother) ?_
    simp [hinside]

theorem thread (h : s.Stopping n) {i : Nat} (hi : i < n) : (s.thread i).Stopping n := by
  have hother := (s.db.work_turn i).frame.1
  have hset : ∀ phase j, j ≠ i → Function.update s.threads i phase j = s.threads j :=
    fun phase j hj => Function.update_of_ne hj ..
  have hquiet : s.threads i ≠ .exited → (s.threads i).outside = true → s.db.Quiet i := by
    intro hruns houtside
    refine h.quiet i ?_ houtside
    rw [(h.early hi hruns).2.1]
    simp
  unfold DelayThreads.thread
  cases hphase : s.threads i with
  | exited => exact h
  | running =>
      have hruns : s.threads i ≠ .exited := by simp [hphase]
      have hquieti := hquiet hruns (by simp [hphase, ThreadPhase.outside])
      dsimp only
      split
      next =>
        exact h.of_thread hi hruns rfl (fun hledger => (hledger.call hi hquieti).setThread i _)
          (hset _) hother (by simp [setThread, ThreadPhase.outside])
      next =>
        exact h.of_thread hi hruns rfl (fun hledger => hledger.setThread i _) (hset _)
          (fun j _ => rfl) (fun _ => hquieti)
  | drainNext =>
      have hruns : s.threads i ≠ .exited := by simp [hphase]
      have hquieti := hquiet hruns (by simp [hphase, ThreadPhase.outside])
      exact h.of_thread hi hruns rfl (fun hledger => (hledger.call hi hquieti).setThread i _)
        (hset _) hother (by simp [setThread, ThreadPhase.outside])
  | processing =>
      exact h.advance_thread hi (by simp [hphase, ThreadPhase.outside]) _
  | draining =>
      exact h.advance_thread hi (by simp [hphase, ThreadPhase.outside]) _

/-- What is submitted before the workers are destroyed disturbs nothing. -/
theorem submit (h : s.Stopping n) (request : Request β)
    (hlate : (s.submit request).late = false) : (s.submit request).Stopping n := by
  obtain ⟨-, -, hquiet⟩ :=
    (s.db.put_enqueue request (request.operation s.db.submitted.length)).frame
  have hearly : isClearing s.halt = false := by
    simp only [DelayThreads.submit, Bool.or_eq_false_iff] at hlate
    exact hlate.2
  have hdone : s.halt ≠ .done := by
    intro heq
    simp [heq, isClearing] at hearly
  refine ⟨fun _ => (h.ledger hdone).submit request, h.called, h.joined, ?_, ?_, ?_, ?_⟩
  · exact fun j hj houtside => hquiet j (h.quiet j hj houtside)
  · intro j hj
    change j < s.halt.cleared at hj
    cases hhalt : s.halt <;> simp_all [HaltPhase.cleared, isClearing]
  · intro k hk
    change s.halt = .clearing k at hk
    simp [hk, isClearing] at hearly
  · exact fun hk => absurd hk hdone

theorem of_halt (h : s.Stopping n) (running : Nat → Bool) {next : HaltPhase}
    (hquiet : ∀ i, s.halt.called = some i → s.db.Quiet i)
    (hlive : s.halt ≠ .done) (hdone : next ≠ .done) (hcalled : next.called = none)
    (hjoined : ∀ j, j < n → next.Joined j → s.threads j = .exited)
    (hcleared : ∀ j, j < next.cleared →
      (s.db.threadsBodies j).contents = 0 ∧ s.db.delayQueue = []) :
    Stopping n { s with running, halt := next } where
  ledger := fun _ =>
    have hledger := h.ledger hlive
    ⟨hledger.workers, hledger.executed, hledger.byWorker, hledger.accounted⟩
  called := by
    intro i hi
    change next.called = some i at hi
    rw [hcalled] at hi
    exact absurd hi (by simp)
  joined := hjoined
  quiet := by
    intro j hj houtside
    by_cases hcall : s.halt.called = some j
    · exact hquiet j hcall
    · exact h.quiet j hcall houtside
  cleared := hcleared
  found := by
    intro i hi
    change next = .clearing i at hi
    rw [hi] at hcalled
    exact absurd hcalled (by simp [HaltPhase.called])
  done := fun hnext => absurd hnext hdone

theorem call (h : s.Stopping n) (hnone : s.halt.called = none) (hlive : s.halt ≠ .done) {i : Nat}
    (hi : i < n) (hall : ∀ j, j < n → s.threads j = .exited) {next : HaltPhase}
    (hcalled : next.called = some i) (hcleared : next.cleared = s.halt.cleared)
    (hle : s.halt.cleared ≤ i) : Stopping n { s.call i with halt := next } := by
  have hquiet : s.db.Quiet i := by
    refine h.quiet i (by rw [hnone]; simp) ?_
    rw [hall i hi]
    rfl
  obtain ⟨hother, -, -, hdelay⟩ := (s.db.work_turn i).frame
  refine ⟨fun _ => ((h.ledger hlive).call hi hquiet).setHalt next, ?_, fun j hj _ => hall j hj,
    ?_, ?_, ?_, ?_⟩
  · intro j hj
    change next.called = some j at hj
    rw [hcalled, Option.some.injEq] at hj
    exact hj ▸ hi
  · intro j hj houtside
    have hne : j ≠ i := by
      intro heq
      exact hj (heq ▸ hcalled)
    have hquietj := h.quiet j (by rw [hnone]; simp) houtside
    simpa [Database.Quiet, DelayThreads.call, hother j hne] using hquietj
  · intro j hj
    change j < next.cleared at hj
    rw [hcleared] at hj
    obtain ⟨hcontents, hempty⟩ := h.cleared j hj
    refine ⟨?_, hdelay hempty⟩
    change ((s.db.work i).threadsBodies j).contents = 0
    rw [hother j (by omega), hcontents]
  · intro j hj _
    change next = .clearing j at hj
    rw [hj, HaltPhase.called, Option.some.injEq] at hcalled
    exact hcalled ▸ hquiet.call
  · intro hdone
    change next = .done at hdone
    rw [hdone] at hcalled
    exact absurd hcalled (by simp [HaltPhase.called])

theorem advance (h : s.Stopping n) {i : Nat} (hcalled : s.halt.called = some i) :
    (s.advance i).Stopping n := by
  have hi := h.called i hcalled
  have hlive : s.halt ≠ .done := by
    intro hdone
    rw [hdone] at hcalled
    exact absurd hcalled (by simp [HaltPhase.called])
  have hle : s.halt.cleared ≤ i := by
    cases hhalt : s.halt <;> simp_all [HaltPhase.called, HaltPhase.cleared]
  obtain ⟨hother, -, -, hdelay⟩ := (s.db.work_turn i).frame
  refine ⟨fun _ => (h.ledger hlive).advance hi, ?_, ?_, ?_, ?_, ?_, ?_⟩
  · simpa using h.called
  · simpa using h.joined
  · intro j hj houtside
    rw [advance_halt] at hj
    rw [advance_threads] at houtside
    have hne : j ≠ i := fun heq => hj (heq ▸ hcalled)
    have hquietj := h.quiet j hj houtside
    simpa [Database.Quiet, hother j hne] using hquietj
  · intro j hj
    rw [advance_halt] at hj
    obtain ⟨hcontents, hempty⟩ := h.cleared j hj
    rw [advance_db, hother j (by omega)]
    exact ⟨hcontents, hdelay hempty⟩
  · intro j hj hprocessed
    rw [advance_halt] at hj
    have hfound := h.found j hj
    rw [hj, HaltPhase.called, Option.some.injEq] at hcalled
    subst hcalled
    obtain ⟨hzero, hnone⟩ := s.advance_processed j hprocessed hfound
    rw [advance_db]
    exact (hfound hzero).work hnone
  · intro hdone
    rw [advance_halt] at hdone
    exact absurd hdone hlive

theorem destroyed (h : s.Stopping n) (hn : 0 < n) {i : Nat} (hhalt : s.halt = .clearNext i)
    (hi : n ≤ i) :
    Stopping n { s with halt := .done, db := { s.db with numAsyncWorkers := 0 } } := by
  have hledger := h.ledger (by simp [hhalt])
  have hcleared : ∀ j, j < n → (s.db.threadsBodies j).contents = 0 ∧ s.db.delayQueue = [] := by
    intro j hj
    refine h.cleared j ?_
    rw [hhalt]
    exact Nat.lt_of_lt_of_le hj hi
  have hsum : ∑ j ∈ Finset.range s.db.numAsyncWorkers.toNat,
    (s.db.threadsBodies j).contents = 0 := by
    refine Finset.sum_eq_zero fun j hj => ?_
    have hlt : j < s.workers := Finset.mem_range.mp hj
    rw [hledger.workers] at hlt
    exact (hcleared j hlt).1
  have hall := hledger.accounted
  rw [Database.Accounted, Database.outstanding, hsum, (hcleared 0 hn).2] at hall
  refine ⟨fun hdone => absurd rfl hdone, by simp [HaltPhase.called], ?_, ?_, ?_, by simp, ?_⟩
  · exact fun j hj _ => h.joined j hj (by rw [hhalt]; trivial)
  · exact fun j _ houtside => h.quiet j (by simp [hhalt, HaltPhase.called]) houtside
  · exact fun j hj => absurd hj (Nat.not_lt_zero j)
  · exact fun _ => ⟨rfl, hledger.executed, hledger.byWorker, by simpa using hall⟩

theorem haltDelayThread (h : s.Stopping n) (hn : 0 < n) : (s.haltDelayThread).Stopping n := by
  have hnone : ∀ j, j < 0 → (s.db.threadsBodies j).contents = 0 ∧ s.db.delayQueue = [] :=
    fun j hj => absurd hj (Nat.not_lt_zero j)
  unfold DelayThreads.haltDelayThread
  cases hhalt : s.halt with
  | done => exact h
  | off =>
      exact h.of_halt s.running (by simp [hhalt, HaltPhase.called]) (by simp [hhalt]) (by simp) rfl
        (fun j _ hjoined => hjoined.elim) hnone
  | stopping i =>
      dsimp only
      split
      next =>
        exact h.of_halt _ (by simp [hhalt, HaltPhase.called]) (by simp [hhalt]) (by simp) rfl
          (fun j _ hjoined => hjoined.elim) hnone
      next =>
        exact h.of_halt _ (by simp [hhalt, HaltPhase.called]) (by simp [hhalt]) (by simp) rfl
          (fun j _ hjoined => absurd hjoined (Nat.not_lt_zero j)) hnone
  | joining i =>
      have hworkers := (h.ledger (by simp [hhalt])).workers
      have hbefore : ∀ j, j < n → j < i → s.threads j = .exited := by
        intro j hj hlt
        exact h.joined j hj (by rw [hhalt]; exact hlt)
      dsimp only
      split
      next hi =>
        split
        next hexited =>
          refine h.of_halt _ (by simp [hhalt, HaltPhase.called]) (by simp [hhalt]) (by simp) rfl
            (fun j hj hjoined => ?_) hnone
          rcases Nat.lt_succ_iff_lt_or_eq.mp hjoined with hlt | rfl
          · exact hbefore j hj hlt
          · exact hexited
        next => exact h
      next hi =>
        exact h.of_halt _ (by simp [hhalt, HaltPhase.called]) (by simp [hhalt]) (by simp) rfl
          (fun j hj _ => hbefore j hj (by omega)) hnone
  | drainNext i drained =>
      have hworkers := (h.ledger (by simp [hhalt])).workers
      have hall : ∀ j, j < n → s.threads j = .exited :=
        fun j hj => h.joined j hj (by rw [hhalt]; trivial)
      dsimp only
      split
      next hi =>
        exact h.call (by simp [hhalt, HaltPhase.called]) (by simp [hhalt]) (by omega) hall rfl
          (by simp [hhalt, HaltPhase.cleared]) (by simp [hhalt, HaltPhase.cleared])
      next =>
        split
        next =>
          exact h.of_halt _ (by simp [hhalt, HaltPhase.called]) (by simp [hhalt]) (by simp) rfl
            (fun j hj _ => hall j hj) hnone
        next =>
          exact h.of_halt _ (by simp [hhalt, HaltPhase.called]) (by simp [hhalt]) (by simp) rfl
            (fun j hj _ => hall j hj) hnone
  | draining i drained =>
      have hcalled : s.halt.called = some i := by rw [hhalt]; rfl
      have hadvanced := h.advance hcalled
      dsimp only
      split
      next hreturned =>
        refine hadvanced.of_halt _ (fun j hj => ?_) (by simp [hhalt]) (by simp) rfl ?_ ?_
        · rw [advance_halt, hcalled, Option.some.injEq] at hj
          exact hj ▸ (returned_iff _ i).mp hreturned
        · exact fun j hj _ => hadvanced.joined j hj (by rw [advance_halt, hhalt]; trivial)
        · exact fun j hj => absurd hj (Nat.not_lt_zero j)
      next => exact hadvanced
  | clearNext i =>
      have hworkers := (h.ledger (by simp [hhalt])).workers
      have hall : ∀ j, j < n → s.threads j = .exited :=
        fun j hj => h.joined j hj (by rw [hhalt]; trivial)
      dsimp only
      split
      next hi =>
        exact h.call (by simp [hhalt, HaltPhase.called]) (by simp [hhalt]) (by omega) hall rfl
          (by simp [hhalt, HaltPhase.cleared]) (by simp [hhalt, HaltPhase.cleared])
      next hi => exact h.destroyed hn hhalt (by omega)
  | clearing i =>
      have hcalled : s.halt.called = some i := by rw [hhalt]; rfl
      have hadvanced := h.advance hcalled
      have hclearing : (s.advance i).halt = .clearing i := by rw [advance_halt, hhalt]
      dsimp only
      split
      next hreturned =>
        have hquiet := (returned_iff _ i).mp hreturned
        refine hadvanced.of_halt _ (fun j hj => ?_) (by simp [hhalt]) (by split <;> simp)
          (by split <;> rfl) (fun j hj _ => ?_) (fun j hj => ?_)
        · rw [advance_halt, hcalled, Option.some.injEq] at hj
          exact hj ▸ hquiet
        · exact hadvanced.joined j hj (by rw [hclearing]; trivial)
        · by_cases hprocessed : (s.advance i).processed i = 0
          · -- the worker that found nothing is the last of the destroyed ones
            rw [if_pos hprocessed] at hj
            rcases Nat.lt_succ_iff_lt_or_eq.mp hj with hlt | rfl
            · exact hadvanced.cleared j (by rw [hclearing]; exact hlt)
            · exact (hadvanced.found j hclearing hprocessed).empty hquiet.1
          · rw [if_neg hprocessed] at hj
            exact hadvanced.cleared j (by rw [hclearing]; exact hj)
      next => exact hadvanced

end Stopping

theorem Stopping.step {n : Nat} {s : DelayThreads β} (h : s.Stopping n) (hn : 0 < n)
    (event : ShutdownEvent β) (hlate : (s.step event).late = false) :
    (s.step event).Stopping n := by
  cases event with
  | submit request => exact h.submit request hlate
  | thread i =>
      simp only [DelayThreads.step]
      split
      next hi =>
        have hlive : s.halt ≠ .done := by
          intro hdone
          rw [(h.done hdone).1] at hi
          exact absurd hi (Nat.not_lt_zero i)
        exact h.thread (by rw [← (h.ledger hlive).workers]; exact hi)
      next => exact h
  | halt => exact h.haltDelayThread hn

theorem stopping_start (β : Type) (numAsyncWorkers : UInt32) :
    (start β numAsyncWorkers).Stopping numAsyncWorkers.toNat where
  ledger := fun _ => {
    workers := rfl
    executed := rfl
    byWorker := by simp [start]
    accounted :=
      by simp [start, Database.Accounted, Database.outstanding, SqlDelayThread.contents] }
  called := by simp [start, HaltPhase.called]
  joined := fun _ _ hjoined => hjoined.elim
  quiet := fun _ _ _ => ⟨rfl, rfl⟩
  cleared := fun j hj => absurd hj (Nat.not_lt_zero j)
  found := by simp [start]
  done := by simp [start]

theorem step_late (s : DelayThreads β) (event : ShutdownEvent β)
    (h : (s.step event).late = false) : s.late = false := by
  cases event with
  | submit request =>
      simp only [step, submit, Bool.or_eq_false_iff] at h
      exact h.1
  | thread i =>
      simp only [step, thread] at h
      repeat' split at h
      all_goals simpa [setThread, call] using h
  | halt =>
      simp only [step, haltDelayThread] at h
      repeat' split at h
      all_goals simpa [call] using h

theorem stopping_in_every_run (numAsyncWorkers : UInt32) (h : numAsyncWorkers ≠ 0)
    (events : List (ShutdownEvent β))
    (hlate : ((start β numAsyncWorkers).run events).late = false) :
    ((start β numAsyncWorkers).run events).Stopping numAsyncWorkers.toNat := by
  refine Lib.run_always
    (I := fun s : DelayThreads β => s.late = false → s.Stopping numAsyncWorkers.toNat)
    ?_ (fun _ => stopping_start β numAsyncWorkers) events hlate
  intro s event hs hafter
  exact (hs (s.step_late event hafter)).step (Database.toNat_pos h) event hafter

/-- The tickets are the places in the order of submission. -/
def Numbered (s : DelayThreads β) : Prop :=
  s.db.submitted.map (·.ticket) = List.range s.db.submitted.length

/-- Only a submission adds to what was accepted. -/
theorem step_submitted (s : DelayThreads β) (event : ShutdownEvent β) :
    (s.step event).db.submitted = s.db.submitted ++
      (match event with
        | .submit request => [request.operation s.db.submitted.length]
        | _ => []) := by
  have hwork : ∀ i, (s.db.work i).submitted = s.db.submitted :=
    fun i => (s.db.work_turn i).frame.2.1
  cases event with
  | submit request => rfl
  | thread i =>
      simp only [step, thread, List.append_nil]
      repeat' split
      all_goals simp [setThread, call, hwork]
  | halt =>
      simp only [step, haltDelayThread, List.append_nil]
      repeat' split
      all_goals simp [call, hwork]

theorem numbered_in_every_run (numAsyncWorkers : UInt32) (events : List (ShutdownEvent β)) :
    ((start β numAsyncWorkers).run events).Numbered := by
  refine Lib.run_always (I := Numbered) ?_ ?_ events
  swap
  · rfl
  intro s event h
  rw [Numbered] at h ⊢
  rw [step_submitted]
  cases event with
  | submit request =>
      have hticket : (request.operation s.db.submitted.length).ticket = s.db.submitted.length := by
        cases request <;> rfl
      simp [h, hticket, List.range_succ]
  | thread i => simpa using h
  | halt => simpa using h

/-- Each accepted operation was executed once, by one of `n` workers, and nothing
else was executed. -/
def AllExecuted (n : Nat) (s : DelayThreads β) : Prop :=
  s.executedBy.length = s.db.submitted.length ∧
    ∀ op ∈ s.db.submitted, ∃ i < n,
      s.executedBy.filter (·.1.ticket == op.ticket) = [(op, i)]

theorem allExecuted_of_perm {n : Nat} {s : DelayThreads β} (hnumbered : s.Numbered)
    (hperm : (s.executedBy.map Prod.fst).Perm s.db.submitted)
    (hworker : ∀ entry ∈ s.executedBy, entry.2 < n) : s.AllExecuted n := by
  have htickets : (s.executedBy.map fun entry => entry.1.ticket).Nodup := by
    have hmapped := hperm.map (·.ticket)
    rw [List.map_map, hnumbered] at hmapped
    exact hmapped.nodup_iff.mpr List.nodup_range
  refine ⟨by simpa using hperm.length_eq, ?_⟩
  intro op hop
  obtain ⟨⟨op', i⟩, hentry, rfl⟩ := List.mem_map.mp (hperm.mem_iff.mpr hop)
  exact ⟨i, hworker _ hentry, Lib.filter_key_eq htickets hentry⟩

structure NoWorkers (s : DelayThreads β) : Prop where
  workers : s.workers = 0
  executedBy : s.executedBy = []
  called : s.halt.called = none

theorem NoWorkers.step {s : DelayThreads β} (h : s.NoWorkers) (event : ShutdownEvent β) :
    (s.step event).NoWorkers := by
  obtain ⟨hworkers, hexecuted, hcalled⟩ := h
  cases event with
  | submit request =>
      refine ⟨?_, hexecuted, hcalled⟩
      rw [← hworkers]
      exact congrArg UInt32.toNat (s.db.put_enqueue request _).frame.1
  | thread i =>
      have hnone : ¬ i < s.workers := by omega
      simp only [DelayThreads.step, if_neg hnone]
      exact ⟨hworkers, hexecuted, hcalled⟩
  | halt =>
      simp only [DelayThreads.step, haltDelayThread]
      cases hhalt : s.halt with
      | off => exact ⟨hworkers, hexecuted, rfl⟩
      | done => exact ⟨hworkers, hexecuted, hcalled⟩
      | draining i drained => simp [hhalt, HaltPhase.called] at hcalled
      | clearing i => simp [hhalt, HaltPhase.called] at hcalled
      | stopping i | joining i | drainNext i drained | clearNext i =>
          simp only [hworkers, Nat.not_lt_zero, if_false]
          try split
          all_goals exact ⟨by first | rfl | exact hworkers, hexecuted, rfl⟩

/-- What is accepted counts the submissions of the run. -/
theorem submitted_eq_nil_iff (s : DelayThreads β) (events : List (ShutdownEvent β)) :
    (s.run events).db.submitted = [] ↔
      s.db.submitted = [] ∧ ∀ request, .submit request ∉ events := by
  induction events generalizing s with
  | nil => simp [run]
  | cons event events ih =>
      change ((s.step event).run events).db.submitted = [] ↔ _
      rw [ih, step_submitted]
      cases event with
      | submit request =>
          simp only [List.append_eq_nil_iff, List.cons_ne_nil, and_false, false_and, false_iff]
          exact fun hnone => hnone.2 request (by simp)
      | thread i => simp
      | halt => simp

/-- When HaltDelayThread has returned and nothing was submitted after the last
drain, everything accepted was executed once by one worker if and only if there is a
worker or nothing was accepted. -/
theorem allExecuted_iff (numAsyncWorkers : UInt32) (events : List (ShutdownEvent β))
    (hdone : ((start β numAsyncWorkers).run events).halt = .done)
    (hlate : ((start β numAsyncWorkers).run events).late = false) :
    ((start β numAsyncWorkers).run events).AllExecuted numAsyncWorkers.toNat ↔
      numAsyncWorkers ≠ 0 ∨ ∀ request, .submit request ∉ events := by
  by_cases hworkers : numAsyncWorkers = 0
  · have hnone : ((start β numAsyncWorkers).run events).NoWorkers := by
      refine Lib.run_always (fun s event hs => hs.step event) ?_ events
      exact ⟨by simp [hworkers, start, workers], rfl, rfl⟩
    have hnothing := submitted_eq_nil_iff (start β numAsyncWorkers) events
    simp only [hworkers, ne_eq, not_true, false_or]
    simp only [hworkers] at hnothing hnone
    constructor
    · intro hall
      refine (hnothing.mp ?_).2
      simpa [hnone.executedBy] using hall.1.symm
    · intro hnever
      have hempty := hnothing.mpr ⟨rfl, hnever⟩
      exact ⟨by simp [hnone.executedBy, hempty], by simp [hempty]⟩
  · refine iff_of_true ?_ (Or.inl hworkers)
    obtain ⟨-, hexecuted, hworker, haccounted⟩ :=
      (stopping_in_every_run numAsyncWorkers hworkers events hlate).done hdone
    refine allExecuted_of_perm (numbered_in_every_run numAsyncWorkers events) ?_ hworker
    rw [hexecuted]
    exact Multiset.coe_eq_coe.mp haccounted

/-- Two workers; the callback of an operation of worker 1 queues a write to worker 0
after that one has exited. -/
def tailAfterExit : List (ShutdownEvent String) :=
  [.submit (.commitTransaction 1 "save")] ++ List.replicate 8 .halt ++
    List.replicate 8 (.thread 0) ++ List.replicate 7 (.thread 1) ++
    [.submit (.execute "callback")] ++ List.replicate 9 (.thread 1) ++ List.replicate 60 .halt

theorem tail_executed :
    ((start String 2).run tailAfterExit).AllExecuted 2 :=
  (allExecuted_iff 2 tailAfterExit (by decide +kernel) (by decide +kernel)).mpr
    (Or.inl (by decide))

/-- A database without workers takes a write and never executes it. -/
theorem write_lost_without_workers :
    let s := (start String 0).run
      [.submit (.execute "save"), .halt, .halt, .halt, .halt, .halt]
    s.halt = .done ∧ s.late = false ∧ s.db.submitted.map (·.body) = ["save"] ∧
      s.executedBy = [] ∧ ¬ s.AllExecuted 0 := by
  refine ⟨by decide, by decide, by decide, by decide, ?_⟩
  rintro ⟨hlength, -⟩
  exact absurd hlength (by decide)

end DelayThreads

end TortoiseWow.Sql
