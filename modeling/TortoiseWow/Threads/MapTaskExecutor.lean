import TortoiseWow.Lib.ListRef
import TortoiseWow.Lib.Run

/-!
A bounded queue of map tasks with its worker threads. What happens under the mutex is
one step; a wait on the condition variable, the notification after the lock is left, and
the execution of a task are steps of their own. Tasks are numbered by their Submit call.
-/

namespace TortoiseWow.Threads

inductive WorkerPhase where
  | checking
  | waiting
  | running (task : Nat)
  | exited
  deriving Repr, DecidableEq

/-- Where a call of Submit stands. `returned` says whether the work was done inline. -/
inductive SubmitPhase where
  | entered
  | notifying
  | inlined
  | returned (inlineWork : Bool)
  | thrown
  deriving Repr, DecidableEq

inductive StopPhase where
  | off
  | notifying
  | joining (worker : Nat)
  | done
  deriving Repr, DecidableEq

structure MapTaskExecutor where
  workers : List WorkerPhase
  queue : List Nat := []
  stopping : Bool := false
  submissions : List SubmitPhase := []
  stop : StopPhase := .off
  executed : List (Nat × Option Nat) := []
  deriving Repr, DecidableEq

namespace MapTaskExecutor

def setWorker (s : MapTaskExecutor) (i : Nat) (phase : WorkerPhase) : MapTaskExecutor :=
  { s with workers := s.workers.set i phase }

def setSubmission (s : MapTaskExecutor) (k : Nat) (phase : SubmitPhase) : MapTaskExecutor :=
  { s with submissions := s.submissions.set k phase }

def notifyOne (s : MapTaskExecutor) (chosen : Nat) : MapTaskExecutor :=
  if s.workers[chosen]? = some .waiting then s.setWorker chosen .checking
  else
    match Lib.findRef (· == .waiting) s.workers with
    | some (i, _) => s.setWorker i .checking
    | none => s

def notifyAll (s : MapTaskExecutor) : MapTaskExecutor :=
  { s with workers := s.workers.map fun phase =>
      if phase = .waiting then .checking else phase }

/-- The next step of a call of Submit. An allocation that fails throws. -/
def submit (s : MapTaskExecutor) (k : Nat) (chosen : Nat) (fails : Bool) : MapTaskExecutor :=
  match s.submissions[k]? with
  | some .entered =>
      if fails then s.setSubmission k .thrown
      else if s.workers.isEmpty then s.setSubmission k .inlined
      else if s.stopping then s.setSubmission k .thrown
      else if s.queue.length ≥ 256 then s.setSubmission k .inlined
      else { s with queue := s.queue ++ [k] }.setSubmission k .notifying
  | some .notifying => (s.notifyOne chosen).setSubmission k (.returned false)
  | some .inlined =>
      { s with executed := s.executed ++ [(k, none)] }.setSubmission k (.returned true)
  | _ => s

def work (s : MapTaskExecutor) (i : Nat) : MapTaskExecutor :=
  match s.workers[i]? with
  | some .checking =>
      if s.stopping ∨ s.queue ≠ [] then
        match s.queue with
        | [] => s.setWorker i .exited
        | task :: rest => { s with queue := rest }.setWorker i (.running task)
      else s.setWorker i .waiting
  | some (.running task) =>
      { s with executed := s.executed ++ [(task, some i)] }.setWorker i .checking
  | _ => s

/-- A wait may end without a notification. -/
def wake (s : MapTaskExecutor) (i : Nat) : MapTaskExecutor :=
  if s.workers[i]? = some .waiting then s.setWorker i .checking else s

def stopStep (s : MapTaskExecutor) : MapTaskExecutor :=
  match s.stop with
  | .off => { s with stopping := true, stop := .notifying }
  | .notifying => { s.notifyAll with stop := .joining 0 }
  | .joining i =>
      match s.workers[i]? with
      | some .exited => { s with stop := .joining (i + 1) }
      | some _ => s
      | none => { s with stop := .done }
  | .done => s

end MapTaskExecutor

inductive TaskEvent where
  | call
  | submit (call chosen : Nat) (fails : Bool)
  | work (worker : Nat)
  | wake (worker : Nat)
  | stop
  deriving Repr, DecidableEq

namespace MapTaskExecutor

def step (s : MapTaskExecutor) : TaskEvent → MapTaskExecutor
  | .call => { s with submissions := s.submissions ++ [.entered] }
  | .submit k chosen fails => s.submit k chosen fails
  | .work i => s.work i
  | .wake i => s.wake i
  | .stop => s.stopStep

def start (count : Nat) : MapTaskExecutor := { workers := List.replicate count .checking }

def run (s : MapTaskExecutor) (events : List TaskEvent) : MapTaskExecutor :=
  Lib.run step s events

end MapTaskExecutor

/-- The task was put into the queue. -/
def SubmitPhase.enqueued : SubmitPhase → Nat
  | .notifying | .returned false => 1
  | .entered | .inlined | .returned true | .thrown => 0

/-- The task was executed by the submitting thread. -/
def SubmitPhase.ranInline : SubmitPhase → Nat
  | .returned true => 1
  | .entered | .notifying | .inlined | .returned false | .thrown => 0

/-- A notification of this call is still to come. -/
def SubmitPhase.owes : SubmitPhase → Nat
  | .notifying => 1
  | .entered | .inlined | .returned _ | .thrown => 0

def WorkerPhase.looks : WorkerPhase → Nat
  | .checking => 1
  | .waiting | .running _ | .exited => 0

def WorkerPhase.runs (task : Nat) : WorkerPhase → Nat
  | .running task' => if task' = task then 1 else 0
  | .checking | .waiting | .exited => 0

namespace MapTaskExecutor

def byWorker (s : MapTaskExecutor) (task : Nat) : Nat :=
  s.executed.countP fun entry => entry.1 == task && entry.2.isSome

def byCaller (s : MapTaskExecutor) (task : Nat) : Nat :=
  s.executed.countP fun entry => entry.1 == task && entry.2.isNone

def enqueued (s : MapTaskExecutor) (task : Nat) : Nat :=
  ((s.submissions[task]?).map SubmitPhase.enqueued).getD 0

def ranInline (s : MapTaskExecutor) (task : Nat) : Nat :=
  ((s.submissions[task]?).map SubmitPhase.ranInline).getD 0

/-- Each task that was queued is in the queue, taken, or executed by a worker, once; each
task done inline was executed once by its caller, and no other task was executed. -/
structure Accounted (s : MapTaskExecutor) : Prop where
  queued : ∀ task, s.queue.count task + Lib.weight (WorkerPhase.runs task) s.workers +
    s.byWorker task = s.enqueued task
  inlined : ∀ task, s.byCaller task = s.ranInline task
  executor : ∀ task i, (task, some i) ∈ s.executed → i < s.workers.length

def Awaited (s : MapTaskExecutor) : Prop :=
  .waiting ∈ s.workers → s.queue.length ≤
    Lib.weight SubmitPhase.owes s.submissions + Lib.weight WorkerPhase.looks s.workers

section Steps

variable {s : MapTaskExecutor} {i k : Nat}

/-- What a call of Submit counts for after it has moved on. -/
theorem getD_set (f : SubmitPhase → Nat) {submissions : List SubmitPhase} {old : SubmitPhase}
    (hk : submissions[k]? = some old) (phase : SubmitPhase) (task : Nat) :
    (((submissions.set k phase)[task]?).map f).getD 0 =
      if task = k then f phase else ((submissions[task]?).map f).getD 0 := by
  obtain ⟨hlt, -⟩ := List.getElem?_eq_some_iff.mp hk
  by_cases htask : task = k
  · subst htask
    simp [hlt]
  · have hne : k ≠ task := fun heq => htask heq.symm
    simp [htask, List.getElem?_set_ne hne]

theorem getD_self (f : SubmitPhase → Nat) {submissions : List SubmitPhase} {old : SubmitPhase}
    (hk : submissions[k]? = some old) : ((submissions[k]?).map f).getD 0 = f old := by
  rw [hk]
  rfl

/-- A call goes on without queueing or executing its task. -/
theorem Accounted.setSubmission (h : s.Accounted) {old phase : SubmitPhase}
    (hk : s.submissions[k]? = some old) (henqueued : phase.enqueued = old.enqueued)
    (hinline : phase.ranInline = old.ranInline) : (s.setSubmission k phase).Accounted := by
  have hsame : ∀ (f : SubmitPhase → Nat) (task : Nat), f phase = f old →
      (((s.submissions.set k phase)[task]?).map f).getD 0 =
        ((s.submissions[task]?).map f).getD 0 := by
    intro f task hf
    rw [getD_set f hk]
    split
    next htask => rw [htask, getD_self f hk, hf]
    next => rfl
  refine ⟨fun task => ?_, fun task => ?_, h.executor⟩
  · exact (h.queued task).trans (hsame _ task henqueued).symm
  · exact (h.inlined task).trans (hsame _ task hinline).symm

theorem Accounted.setWorker (h : s.Accounted) {old phase : WorkerPhase}
    (hi : s.workers[i]? = some old) (hruns : ∀ task, phase.runs task = old.runs task) :
    (s.setWorker i phase).Accounted := by
  refine ⟨fun task => ?_, h.inlined, fun task j hmem => ?_⟩
  · have hweight := Lib.weight_set_eq (WorkerPhase.runs task) hi (hruns task)
    change s.queue.count task + Lib.weight _ (s.workers.set i phase) + s.byWorker task = _
    rw [hweight]
    exact h.queued task
  · change j < (s.workers.set i phase).length
    rw [List.length_set]
    exact h.executor task j hmem

theorem Accounted.enqueue (h : s.Accounted) (hk : s.submissions[k]? = some .entered) :
    ({ s with queue := s.queue ++ [k] }.setSubmission k .notifying).Accounted := by
  refine ⟨fun task => ?_, fun task => ?_, h.executor⟩
  · have hbefore := h.queued task
    change (s.queue ++ [k]).count task + Lib.weight _ s.workers + s.byWorker task =
      (((s.submissions.set k .notifying)[task]?).map SubmitPhase.enqueued).getD 0
    rw [getD_set _ hk, List.count_append, List.count_singleton]
    by_cases htask : task = k
    · subst htask
      rw [enqueued, getD_self _ hk] at hbefore
      simp only [beq_self_eq_true, if_true, SubmitPhase.enqueued] at hbefore ⊢
      omega
    · have hne : (k == task) = false := by simpa using Ne.symm htask
      simp only [htask, hne, Bool.false_eq_true, if_false, Nat.add_zero]
      exact hbefore
  · have hbefore := h.inlined task
    change s.byCaller task =
      (((s.submissions.set k .notifying)[task]?).map SubmitPhase.ranInline).getD 0
    rw [getD_set _ hk]
    by_cases htask : task = k
    · subst htask
      rw [ranInline, getD_self _ hk] at hbefore
      simpa [SubmitPhase.ranInline] using hbefore
    · simp only [htask, if_false]
      exact hbefore

theorem Accounted.runInline (h : s.Accounted) (hk : s.submissions[k]? = some .inlined) :
    ({ s with executed := s.executed ++ [(k, none)] }.setSubmission k (.returned true)).Accounted
      := by
  refine ⟨fun task => ?_, fun task => ?_, fun task j hmem => ?_⟩
  · have hbefore := h.queued task
    change s.queue.count task + Lib.weight _ s.workers + (s.executed ++ [(k, none)]).countP _ =
      (((s.submissions.set k (.returned true))[task]?).map SubmitPhase.enqueued).getD 0
    rw [getD_set _ hk, List.countP_append]
    by_cases htask : task = k
    · subst htask
      rw [enqueued, getD_self _ hk] at hbefore
      simpa [SubmitPhase.enqueued, byWorker] using hbefore
    · simp only [htask, if_false]
      simpa [byWorker, enqueued] using hbefore
  · have hbefore := h.inlined task
    change (s.executed ++ [(k, none)]).countP _ =
      (((s.submissions.set k (.returned true))[task]?).map SubmitPhase.ranInline).getD 0
    rw [getD_set _ hk, List.countP_append]
    by_cases htask : task = k
    · subst htask
      rw [ranInline, getD_self _ hk] at hbefore
      simpa [SubmitPhase.ranInline, byCaller] using hbefore
    · simp only [htask, if_false]
      simpa [byCaller, ranInline, Ne.symm htask] using hbefore
  · rcases List.mem_append.mp hmem with hmem | hmem
    · exact h.executor task j hmem
    · simp at hmem

theorem Accounted.take (h : s.Accounted) (hi : s.workers[i]? = some .checking) {task : Nat}
    {rest : List Nat} (hqueue : s.queue = task :: rest) :
    ({ s with queue := rest }.setWorker i (.running task)).Accounted := by
  refine ⟨fun t => ?_, h.inlined, fun t j hmem => ?_⟩
  · have hweight := Lib.weight_set (WorkerPhase.runs t) (.running task) hi
    have hbefore := h.queued t
    change rest.count t + Lib.weight _ (s.workers.set i (.running task)) + s.byWorker t =
      s.enqueued t
    rw [hqueue, List.count_cons] at hbefore
    simp only [WorkerPhase.runs] at hweight
    by_cases ht : task = t
    · simp only [ht, beq_self_eq_true, if_true] at hbefore hweight ⊢
      omega
    · have hne : (task == t) = false := by simpa using ht
      simp only [ht, hne, Bool.false_eq_true, if_false] at hbefore hweight ⊢
      omega
  · change j < (s.workers.set i (.running task)).length
    rw [List.length_set]
    exact h.executor t j hmem

theorem Accounted.finish (h : s.Accounted) {task : Nat}
    (hi : s.workers[i]? = some (.running task)) :
    ({ s with executed := s.executed ++ [(task, some i)] }.setWorker i .checking).Accounted := by
  refine ⟨fun t => ?_, fun t => ?_, fun t j hmem => ?_⟩
  · have hweight := Lib.weight_set (WorkerPhase.runs t) .checking hi
    have hbefore := h.queued t
    change s.queue.count t + Lib.weight _ (s.workers.set i .checking) +
      (s.executed ++ [(task, some i)]).countP _ = s.enqueued t
    rw [List.countP_append]
    change s.queue.count t + Lib.weight _ (s.workers.set i .checking) + (s.byWorker t + _) = _
    simp only [WorkerPhase.runs] at hweight
    by_cases ht : task = t
    · simp [ht] at hweight ⊢
      omega
    · simp [ht] at hweight ⊢
      omega
  · change (s.executed ++ [(task, some i)]).countP _ = _
    rw [List.countP_append]
    have hbefore := h.inlined t
    simpa [byCaller, ranInline, MapTaskExecutor.setWorker] using hbefore
  · change j < (s.workers.set i .checking).length
    rw [List.length_set]
    rcases List.mem_append.mp hmem with hmem | hmem
    · exact h.executor t j hmem
    · simp only [List.mem_singleton, Prod.mk.injEq, Option.some.injEq] at hmem
      obtain ⟨-, rfl⟩ := hmem
      exact (List.getElem?_eq_some_iff.mp hi).1

structure Halting (s : MapTaskExecutor) : Prop where
  exited : .exited ∈ s.workers → s.stopping = true ∧ s.queue = []
  stopping : s.stop ≠ .off → s.stopping = true
  woken : s.stop ≠ .off → s.stop ≠ .notifying → .waiting ∉ s.workers
  joined : ∀ i, s.stop = .joining i → ∀ j, j < i → s.workers[j]? = some .exited
  done : s.stop = .done → ∀ phase ∈ s.workers, phase = .exited
  bounded : s.queue.length ≤ 256
  empty : s.workers = [] → s.queue = []

theorem Halting.setWorker (h : s.Halting) {old phase : WorkerPhase}
    (hi : s.workers[i]? = some old) (hold : old ≠ .exited)
    (hexited : phase = .exited → s.stopping = true ∧ s.queue = [])
    (hwaits : phase = .waiting → s.stopping = false) : (s.setWorker i phase).Halting where
  exited := by
    intro hmem
    rcases List.mem_or_eq_of_mem_set hmem with hmem | heq
    · exact h.exited hmem
    · exact hexited heq.symm
  stopping := h.stopping
  woken := by
    intro hoff hnotifying hmem
    rcases List.mem_or_eq_of_mem_set hmem with hmem | heq
    · exact h.woken hoff hnotifying hmem
    · have hrunning := hwaits heq.symm
      rw [h.stopping hoff] at hrunning
      exact absurd hrunning (by simp)
  joined := by
    intro j hstop j' hj'
    have hbefore := h.joined j hstop j' hj'
    have hne : i ≠ j' := by
      intro heq
      rw [heq, hbefore] at hi
      exact hold (Option.some.inj hi).symm
    change (s.workers.set i phase)[j']? = _
    rw [List.getElem?_set_ne hne]
    exact hbefore
  done := by
    intro hstop
    exact absurd (h.done hstop old (List.mem_of_getElem? hi)) hold
  bounded := h.bounded
  empty := by
    intro hnil
    refine h.empty ?_
    simpa [MapTaskExecutor.setWorker] using hnil

theorem Awaited.setWorker (h : s.Awaited) {old phase : WorkerPhase}
    (hi : s.workers[i]? = some old)
    (hlooks : phase = .waiting → s.queue = []) (hold : old.looks ≤ phase.looks ∨ s.queue = []) :
    (s.setWorker i phase).Awaited := by
  intro hmem
  change s.queue.length ≤ Lib.weight _ s.submissions + Lib.weight _ (s.workers.set i phase)
  have hweight := Lib.weight_set WorkerPhase.looks phase hi
  rcases List.mem_or_eq_of_mem_set hmem with hmem | heq
  · rcases hold with hold | hempty
    · have hbefore := h hmem
      omega
    · simp [hempty]
  · simp [hlooks heq.symm]

/-- Everything that holds in every state. -/
structure Sound (count : Nat) (s : MapTaskExecutor) : Prop where
  length : s.workers.length = count
  accounted : s.Accounted
  halting : s.Halting
  awaited : s.Awaited

end Steps

section Sound

variable {count : Nat} {s : MapTaskExecutor}

theorem Sound.wakeWorker (h : s.Sound count) {i : Nat} (hi : s.workers[i]? = some .waiting) :
    (s.setWorker i .checking).Sound count where
  length := by
    change (s.workers.set i .checking).length = count
    rw [List.length_set]
    exact h.length
  accounted := h.accounted.setWorker hi (fun task => rfl)
  halting := h.halting.setWorker hi (by simp) (by simp) (by simp)
  awaited := h.awaited.setWorker hi (by simp) (Or.inl (Nat.zero_le _))

theorem Sound.wake (h : s.Sound count) (i : Nat) : (s.wake i).Sound count := by
  unfold MapTaskExecutor.wake
  split
  next hi => exact h.wakeWorker hi
  next => exact h

theorem Sound.work (h : s.Sound count) (i : Nat) : (s.work i).Sound count := by
  have hlength : ∀ phase, (s.workers.set i phase).length = count := by
    intro phase
    rw [List.length_set]
    exact h.length
  unfold MapTaskExecutor.work
  split
  next hi =>
    split
    next hready =>
      split
      next hqueue =>
        have hstopping : s.stopping = true := by
          rcases hready with hstopping | hne
          · exact hstopping
          · exact absurd hqueue hne
        refine ⟨hlength _, h.accounted.setWorker hi (fun task => rfl), ?_, ?_⟩
        · exact h.halting.setWorker hi (by simp) (fun _ => ⟨hstopping, hqueue⟩) (by simp)
        · exact h.awaited.setWorker hi (by simp) (Or.inr hqueue)
      next task rest hqueue =>
        have hnone : .exited ∉ s.workers := by
          intro hmem
          have hempty := (h.halting.exited hmem).2
          rw [hqueue] at hempty
          exact absurd hempty (by simp)
        have hpop : Halting { s with queue := rest } := by
          refine ⟨fun hmem => absurd hmem hnone, h.halting.stopping, h.halting.woken,
            h.halting.joined, h.halting.done, ?_, fun hnil => ?_⟩
          · have hbounded := h.halting.bounded
            rw [hqueue, List.length_cons] at hbounded
            exact Nat.le_of_succ_le hbounded
          · have hempty := h.halting.empty hnil
            rw [hqueue] at hempty
            exact absurd hempty (by simp)
        refine ⟨hlength _, h.accounted.take hi hqueue, ?_, ?_⟩
        · exact hpop.setWorker hi (by simp) (by simp) (by simp)
        · intro hmem
          change rest.length ≤ Lib.weight _ s.submissions +
            Lib.weight _ (s.workers.set i (.running task))
          have hweight := Lib.weight_set WorkerPhase.looks (.running task) hi
          have hwaiting : .waiting ∈ s.workers := by
            rcases List.mem_or_eq_of_mem_set hmem with hmem | heq
            · exact hmem
            · simp at heq
          have hbefore := h.awaited hwaiting
          rw [hqueue, List.length_cons] at hbefore
          simp only [WorkerPhase.looks] at hweight hbefore ⊢
          omega
    next hidle =>
      simp only [not_or, ne_eq, not_not, Bool.not_eq_true] at hidle
      refine ⟨hlength _, h.accounted.setWorker hi (fun task => rfl), ?_, ?_⟩
      · exact h.halting.setWorker hi (by simp) (by simp) (fun _ => hidle.1)
      · exact h.awaited.setWorker hi (fun _ => hidle.2) (Or.inr hidle.2)
  next task hi =>
    have hhalting := h.halting
    have hexecuted : Halting { s with executed := s.executed ++ [(task, some i)] } :=
      ⟨hhalting.exited, hhalting.stopping, hhalting.woken, hhalting.joined, hhalting.done,
        hhalting.bounded, hhalting.empty⟩
    refine ⟨hlength _, h.accounted.finish hi, ?_, ?_⟩
    · exact hexecuted.setWorker hi (by simp) (by simp) (by simp)
    · exact Awaited.setWorker (s := { s with executed := s.executed ++ [(task, some i)] }) h.awaited
        hi (by simp) (Or.inl (Nat.zero_le _))
  next => exact h

theorem Sound.setSubmission (h : s.Sound count) {k : Nat} {old phase : SubmitPhase}
    (hk : s.submissions[k]? = some old) (henqueued : phase.enqueued = old.enqueued)
    (hinline : phase.ranInline = old.ranInline) (howes : phase.owes = old.owes) :
    (s.setSubmission k phase).Sound count where
  length := h.length
  accounted := h.accounted.setSubmission hk henqueued hinline
  halting := ⟨h.halting.exited, h.halting.stopping, h.halting.woken, h.halting.joined,
    h.halting.done, h.halting.bounded, h.halting.empty⟩
  awaited := by
    intro hmem
    change s.queue.length ≤ Lib.weight _ (s.submissions.set k phase) + Lib.weight _ s.workers
    rw [Lib.weight_set_eq SubmitPhase.owes hk howes]
    exact h.awaited hmem

theorem notifyOne_cases (s : MapTaskExecutor) (chosen : Nat) :
    (∃ i, s.workers[i]? = some .waiting ∧ s.notifyOne chosen = s.setWorker i .checking) ∨
      (.waiting ∉ s.workers ∧ s.notifyOne chosen = s) := by
  unfold notifyOne
  split
  next hi => exact Or.inl ⟨chosen, hi, rfl⟩
  next =>
    split
    next i phase hfound =>
      have hphase : phase = .waiting := by simpa using Lib.findRef_pred hfound
      exact Or.inl ⟨i, hphase ▸ Lib.findRef_get hfound, rfl⟩
    next hnone =>
      refine Or.inr ⟨fun hmem => ?_, rfl⟩
      have hother := Lib.findRef_eq_none.mp hnone .waiting hmem
      simp at hother

/-- The notification of a call reaches a waiting worker if there is one. -/
theorem Sound.notify (h : s.Sound count) {k : Nat} (hk : s.submissions[k]? = some .notifying)
    (chosen : Nat) : ((s.notifyOne chosen).setSubmission k (.returned false)).Sound count := by
  have howes := Lib.weight_set SubmitPhase.owes (.returned false) hk
  simp only [SubmitPhase.owes] at howes
  rcases s.notifyOne_cases chosen with ⟨i, hi, heq⟩ | ⟨hnone, heq⟩
  · rw [heq]
    have hwoken := h.wakeWorker hi
    refine ⟨hwoken.length, hwoken.accounted.setSubmission hk rfl rfl, ?_, ?_⟩
    · exact ⟨hwoken.halting.exited, hwoken.halting.stopping, hwoken.halting.woken,
        hwoken.halting.joined, hwoken.halting.done, hwoken.halting.bounded, hwoken.halting.empty⟩
    · intro hmem
      have hbefore := h.awaited (List.mem_of_getElem? hi)
      have hlooks := Lib.weight_set WorkerPhase.looks .checking hi
      change s.queue.length ≤ Lib.weight _ (s.submissions.set k (.returned false)) +
        Lib.weight _ (s.workers.set i .checking)
      simp only [WorkerPhase.looks] at hlooks hbefore ⊢
      omega
  · rw [heq]
    refine ⟨h.length, h.accounted.setSubmission hk rfl rfl, ?_, fun hmem => absurd hmem hnone⟩
    exact ⟨h.halting.exited, h.halting.stopping, h.halting.woken, h.halting.joined,
      h.halting.done, h.halting.bounded, h.halting.empty⟩

theorem Sound.submit (h : s.Sound count) (k chosen : Nat) (fails : Bool) :
    (s.submit k chosen fails).Sound count := by
  unfold MapTaskExecutor.submit
  split
  next hk =>
    split
    next => exact h.setSubmission hk rfl rfl rfl
    next =>
      split
      next => exact h.setSubmission hk rfl rfl rfl
      next hworkers =>
        split
        next => exact h.setSubmission hk rfl rfl rfl
        next hrunning =>
          split
          next => exact h.setSubmission hk rfl rfl rfl
          next hroom =>
            have hhalting := h.halting
            refine ⟨h.length, h.accounted.enqueue hk, ⟨?_, hhalting.stopping, hhalting.woken,
              hhalting.joined, hhalting.done, ?_, ?_⟩, ?_⟩
            · exact fun hmem => absurd (hhalting.exited hmem).1 hrunning
            · change (s.queue ++ [k]).length ≤ 256
              rw [List.length_append, List.length_singleton]
              omega
            · intro hnil
              exact absurd (List.isEmpty_iff.mpr hnil) hworkers
            · intro hmem
              have hbefore := h.awaited hmem
              have howes := Lib.weight_set SubmitPhase.owes .notifying hk
              change (s.queue ++ [k]).length ≤
                Lib.weight _ (s.submissions.set k .notifying) + Lib.weight _ s.workers
              rw [List.length_append, List.length_singleton]
              simp only [SubmitPhase.owes] at howes hbefore ⊢
              omega
  next hk => exact h.notify hk chosen
  next hk =>
    refine ⟨h.length, h.accounted.runInline hk, ?_, ?_⟩
    · exact ⟨h.halting.exited, h.halting.stopping, h.halting.woken, h.halting.joined,
        h.halting.done, h.halting.bounded, h.halting.empty⟩
    · intro hmem
      change s.queue.length ≤ Lib.weight _ (s.submissions.set k (.returned true)) +
        Lib.weight _ s.workers
      rw [Lib.weight_set_eq SubmitPhase.owes (y := .returned true) hk rfl]
      exact h.awaited hmem
  next => exact h

theorem getD_append (f : SubmitPhase → Nat) (submissions : List SubmitPhase) (task : Nat)
    (hentered : f .entered = 0) :
    (((submissions ++ [.entered])[task]?).map f).getD 0 = ((submissions[task]?).map f).getD 0 := by
  rcases Nat.lt_trichotomy task submissions.length with hlt | heq | hgt
  · rw [List.getElem?_append_left hlt]
  · rw [heq, List.getElem?_concat_length, List.getElem?_eq_none (Nat.le_refl _)]
    exact hentered
  · rw [List.getElem?_eq_none (by simp; omega), List.getElem?_eq_none (by omega)]

theorem Sound.call (h : s.Sound count) :
    Sound count { s with submissions := s.submissions ++ [.entered] } where
  length := h.length
  accounted := {
    queued := fun task => (h.accounted.queued task).trans (getD_append _ _ _ rfl).symm
    inlined := fun task => (h.accounted.inlined task).trans (getD_append _ _ _ rfl).symm
    executor := h.accounted.executor }
  halting := ⟨h.halting.exited, h.halting.stopping, h.halting.woken, h.halting.joined,
    h.halting.done, h.halting.bounded, h.halting.empty⟩
  awaited := by
    intro hmem
    have hbefore := h.awaited hmem
    change s.queue.length ≤ Lib.weight _ (s.submissions ++ [.entered]) + Lib.weight _ s.workers
    rw [Lib.weight_append]
    omega

theorem weight_notifyAll (w : WorkerPhase → Nat) (workers : List WorkerPhase)
    (hw : w .checking = w .waiting) :
    Lib.weight w (workers.map fun phase => if phase = .waiting then .checking else phase) =
      Lib.weight w workers := by
  induction workers with
  | nil => rfl
  | cons phase workers ih =>
      rw [List.map_cons, Lib.weight_cons, Lib.weight_cons, ih]
      split
      next hphase => rw [hphase, hw]
      next => rfl

theorem Sound.stopStep (h : s.Sound count) : (s.stopStep).Sound count := by
  have hhalting := h.halting
  unfold MapTaskExecutor.stopStep
  split
  next hstop =>
    refine ⟨h.length, ⟨h.accounted.queued, h.accounted.inlined, h.accounted.executor⟩, ?_,
      h.awaited⟩
    exact ⟨fun hmem => ⟨rfl, (hhalting.exited hmem).2⟩, fun _ => rfl, by simp, by simp, by simp,
      hhalting.bounded, hhalting.empty⟩
  next hstop =>
    have hawake : .waiting ∉ (s.notifyAll).workers := by
      intro hmem
      obtain ⟨phase, -, hphase⟩ := List.mem_map.mp hmem
      split at hphase
      next => simp at hphase
      next hother => exact hother hphase
    refine ⟨?_, ⟨fun task => ?_, h.accounted.inlined, fun task i hmem => ?_⟩, ?_,
      fun hmem => absurd hmem hawake⟩
    · change (s.workers.map _).length = count
      rw [List.length_map]
      exact h.length
    · have hsame := weight_notifyAll (WorkerPhase.runs task) s.workers rfl
      change s.queue.count task + Lib.weight _ (s.workers.map _) + s.byWorker task = _
      rw [hsame]
      exact h.accounted.queued task
    · change i < (s.workers.map _).length
      rw [List.length_map]
      exact h.accounted.executor task i hmem
    · refine ⟨fun hmem => ?_, fun _ => hhalting.stopping (by simp [hstop]), fun _ _ => hawake,
        ?_, by simp, hhalting.bounded, fun hnil => hhalting.empty (List.map_eq_nil_iff.mp hnil)⟩
      · obtain ⟨phase, hphase, heq⟩ := List.mem_map.mp hmem
        split at heq
        next => simp at heq
        next => exact hhalting.exited (heq ▸ hphase)
      · intro i hi j hj
        simp only [StopPhase.joining.injEq] at hi
        omega
  next i hstop =>
    have hstopping := hhalting.stopping (by simp [hstop])
    have hawake := hhalting.woken (by simp [hstop]) (by simp [hstop])
    split
    next hexited =>
      refine ⟨h.length, ⟨h.accounted.queued, h.accounted.inlined, h.accounted.executor⟩, ?_,
        h.awaited⟩
      refine ⟨hhalting.exited, fun _ => hstopping, fun _ _ => hawake, ?_, by simp,
        hhalting.bounded, hhalting.empty⟩
      intro k hk j hj
      simp only [StopPhase.joining.injEq] at hk
      rcases Nat.lt_succ_iff_lt_or_eq.mp (hk ▸ hj) with hlt | rfl
      · exact hhalting.joined i hstop j hlt
      · exact hexited
    next => exact h
    next hnone =>
      refine ⟨h.length, ⟨h.accounted.queued, h.accounted.inlined, h.accounted.executor⟩, ?_,
        h.awaited⟩
      refine ⟨hhalting.exited, fun _ => hstopping, fun _ _ => hawake, by simp, ?_,
        hhalting.bounded, hhalting.empty⟩
      intro _ phase hmem
      obtain ⟨j, hj⟩ := List.mem_iff_getElem?.mp hmem
      have hlt : j < s.workers.length := (List.getElem?_eq_some_iff.mp hj).1
      have hall : s.workers.length ≤ i := List.getElem?_eq_none_iff.mp hnone
      have hexited := hhalting.joined i hstop j (by omega)
      rw [hj] at hexited
      exact Option.some.inj hexited
  next => exact h

theorem Sound.step (h : s.Sound count) (event : TaskEvent) : (s.step event).Sound count := by
  cases event with
  | call => exact h.call
  | submit k chosen fails => exact h.submit k chosen fails
  | work i => exact h.work i
  | wake i => exact h.wake i
  | stop => exact h.stopStep

theorem sound_start (count : Nat) : (start count).Sound count := by
  refine ⟨List.length_replicate .., ⟨fun task => ?_, fun task => rfl, by simp [start]⟩, ?_, ?_⟩
  · have hnone : Lib.weight (WorkerPhase.runs task) (List.replicate count .checking) = 0 := by
      induction count with
      | zero => rfl
      | succ count ih => rw [List.replicate_succ, Lib.weight_cons, ih]; rfl
    simp [start, hnone, byWorker, enqueued]
  · refine ⟨?_, by simp [start], by simp [start], by simp [start], by simp [start],
      Nat.zero_le _, fun _ => rfl⟩
    intro hmem
    simp [start, List.mem_replicate] at hmem
  · intro hmem
    simp [start, List.mem_replicate] at hmem

theorem sound_in_every_state (count : Nat) (events : List TaskEvent) :
    ((start count).run events).Sound count :=
  Lib.run_always (I := Sound count) (fun _ event h => h.step event)
    (sound_start count) events

end Sound

def executions (s : MapTaskExecutor) (task : Nat) : List (Option Nat) :=
  (s.executed.filter (·.1 == task)).map (·.2)

section Executions

variable (s : MapTaskExecutor) (task : Nat)

theorem byWorker_eq : s.byWorker task = (s.executions task).countP Option.isSome := by
  rw [executions, List.countP_map, List.countP_filter, byWorker]
  congr 1
  funext entry
  simp [Bool.and_comm]

theorem byCaller_eq : s.byCaller task = (s.executions task).countP Option.isNone := by
  rw [executions, List.countP_map, List.countP_filter, byCaller]
  congr 1
  funext entry
  simp [Bool.and_comm]

theorem length_executions : (s.executions task).length = s.byWorker task + s.byCaller task := by
  rw [byWorker_eq, byCaller_eq]
  induction s.executions task with
  | nil => rfl
  | cons executor rest ih => cases executor <;> simp <;> omega

variable {s task}

theorem executions_nil (hworker : s.byWorker task = 0) (hcaller : s.byCaller task = 0) :
    s.executions task = [] := by
  rw [← List.length_eq_zero_iff, length_executions, hworker, hcaller]

theorem executions_caller (hworker : s.byWorker task = 0) (hcaller : s.byCaller task = 1) :
    s.executions task = [none] := by
  obtain ⟨executor, hone⟩ := List.length_eq_one_iff.mp
    (show (s.executions task).length = 1 by rw [length_executions, hworker, hcaller])
  rw [byCaller_eq, hone] at hcaller
  cases executor with
  | none => exact hone
  | some i => simp at hcaller

theorem executions_worker (hworker : s.byWorker task = 1) (hcaller : s.byCaller task = 0) :
    ∃ i, (task, some i) ∈ s.executed ∧ s.executions task = [some i] := by
  obtain ⟨executor, hone⟩ := List.length_eq_one_iff.mp
    (show (s.executions task).length = 1 by rw [length_executions, hworker, hcaller])
  rw [byWorker_eq, hone] at hworker
  cases executor with
  | none => simp at hworker
  | some i =>
      have hmem : some i ∈ s.executions task := by simp [hone]
      obtain ⟨⟨task', executor⟩, hentry, rfl⟩ := List.mem_map.mp hmem
      obtain ⟨hexecuted, htask⟩ := List.mem_filter.mp hentry
      exact ⟨i, by simpa using (beq_iff_eq.mp htask) ▸ hexecuted, hone⟩

end Executions

def Served (s : MapTaskExecutor) (count : Nat) (task : Nat) : SubmitPhase → Prop
  | .entered | .inlined | .thrown => s.executions task = []
  | .returned true => s.executions task = [none]
  | .notifying | .returned false =>
      (s.executions task = [] ∧ (task ∈ s.queue ∨ .running task ∈ s.workers)) ∨
        ∃ i, i < count ∧ s.executions task = [some i]

section Served

variable {count : Nat} {s : MapTaskExecutor} {task : Nat} {phase : SubmitPhase}

theorem runs_pos {workers : List WorkerPhase}
    (h : 0 < Lib.weight (WorkerPhase.runs task) workers) : .running task ∈ workers := by
  obtain ⟨worker, hmem, hruns⟩ := Lib.weight_pos h
  cases worker with
  | running task' =>
      simp only [WorkerPhase.runs] at hruns
      split at hruns
      next heq => exact heq ▸ hmem
      next => simp at hruns
  | checking | waiting | exited => simp [WorkerPhase.runs] at hruns

theorem Sound.served (h : s.Sound count) (hphase : s.submissions[task]? = some phase) :
    s.Served count task phase := by
  have hqueued := h.accounted.queued task
  have hinlined := h.accounted.inlined task
  rw [enqueued, getD_self _ hphase] at hqueued
  rw [ranInline, getD_self _ hphase] at hinlined
  have hqueue : phase.enqueued = 1 → phase.ranInline = 0 →
      (s.executions task = [] ∧ (task ∈ s.queue ∨ .running task ∈ s.workers)) ∨
        ∃ i, i < count ∧ s.executions task = [some i] := by
    intro hone hzero
    by_cases hworker : s.byWorker task = 0
    · refine Or.inl ⟨executions_nil hworker (hinlined.trans hzero), ?_⟩
      by_cases hcount : s.queue.count task = 0
      · exact Or.inr (runs_pos (by omega))
      · exact Or.inl (List.count_pos_iff.mp (by omega))
    · obtain ⟨i, hmem, hexecutions⟩ := executions_worker (s := s) (by omega) (hinlined.trans hzero)
      exact Or.inr ⟨i, h.length ▸ h.accounted.executor task i hmem, hexecutions⟩
  cases phase with
  | entered | inlined | thrown =>
      simp only [SubmitPhase.enqueued] at hqueued
      exact executions_nil (by omega) hinlined
  | notifying => exact hqueue rfl rfl
  | returned inlineWork =>
      cases inlineWork with
      | true =>
          simp only [SubmitPhase.enqueued] at hqueued
          exact executions_caller (by omega) hinlined
      | false => exact hqueue rfl rfl

theorem Served.of_enqueued (h : s.Served count task phase) (hone : phase.enqueued = 1) :
    (s.executions task = [] ∧ (task ∈ s.queue ∨ .running task ∈ s.workers)) ∨
      ∃ i, i < count ∧ s.executions task = [some i] := by
  cases phase with
  | entered | inlined | thrown => cases hone
  | notifying => exact h
  | returned inlineWork =>
      cases inlineWork with
      | true => cases hone
      | false => exact h

theorem Sound.drained (h : s.Sound count) (hdone : s.stop = .done) :
    s.queue = [] ∧ ∀ task, .running task ∉ s.workers := by
  have hall := h.halting.done hdone
  refine ⟨?_, fun task hmem => absurd (hall _ hmem) (by simp)⟩
  cases hworkers : s.workers with
  | nil => exact h.halting.empty hworkers
  | cons worker workers =>
      have hmem : worker ∈ s.workers := by simp [hworkers]
      exact (h.halting.exited (hall worker hmem ▸ hmem)).2

end Served

end MapTaskExecutor

end TortoiseWow.Threads
