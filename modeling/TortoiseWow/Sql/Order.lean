import TortoiseWow.Sql.DelayQueue

/-!
The order in which the delay threads execute the operations of one serial id.
Two queues of a worker can hold such operations, and a worker reaches them in
passes of at most 32 and 64 operations. An operation is in turn when the pass
that will reach it does not come before the pass that reaches an earlier one.
-/

namespace TortoiseWow.Sql

variable {β : Type}

def Phase.Bounded : Phase → Prop
  | .priority processed => processed ≤ 32
  | .priorityOther processed => processed < 32
  | .serial processed => processed ≤ 64
  | .idle | .normal _ => True

def Phase.serialProcessed : Phase → Nat
  | .serial processed => processed
  | _ => 0

namespace SqlDelayThread

/-- The pass, counted from the one the thread is in, that takes the operation at
place `j` of the serial queue. -/
def serialPass (thread : SqlDelayThread β) (j : Nat) : Nat :=
  (j + thread.phase.serialProcessed) / 64

/-- The first pass that can take the operation at place `k` of the priority queue
of serial operations. -/
def earliestPass (thread : SqlDelayThread β) (k : Nat) : Nat :=
  match thread.phase with
  | .idle => k / 32
  | .priority processed => (k + processed) / 32
  | .priorityOther processed => (k + processed + 1) / 32
  | .normal _ | .serial _ => k / 32 + 1

/-- The last pass that can take it: a thread between the two priority queues goes
on with this loop only when the other queue has something. -/
def latestPass (thread : SqlDelayThread β) (k : Nat) : Nat :=
  match thread.phase with
  | .priorityOther _ => k / 32 + 1
  | _ => thread.earliestPass k

/-- An operation put into the serial queue now is reached after all of its serial
id in the priority queue. -/
def SerialInTurn (thread : SqlDelayThread β) (serialId : UInt32) : Prop :=
  ∀ k op, thread.prioritySerialDelayQueue[k]? = some op → op.serialId = serialId →
    thread.latestPass k ≤ thread.serialPass thread.serialDelayQueue.length

/-- An operation put into the priority queue now is reached after all of its
serial id in the serial queue. -/
def PriorityInTurn (thread : SqlDelayThread β) (serialId : UInt32) : Prop :=
  ∀ j op, thread.serialDelayQueue[j]? = some op → op.serialId = serialId →
    thread.serialPass j < thread.earliestPass thread.prioritySerialDelayQueue.length

structure Ordered (thread : SqlDelayThread β) : Prop where
  bounded : thread.phase.Bounded
  serial : thread.serialDelayQueue.Pairwise (·.ticket < ·.ticket)
  priority : thread.prioritySerialDelayQueue.Pairwise (·.ticket < ·.ticket)
  apart : ∀ j k op op', thread.serialDelayQueue[j]? = some op →
    thread.prioritySerialDelayQueue[k]? = some op' →
    op.serialId ≠ 0 → op'.serialId = op.serialId →
      (op.ticket < op'.ticket ∧ thread.serialPass j < thread.earliestPass k) ∨
      (op'.ticket < op.ticket ∧ thread.latestPass k ≤ thread.serialPass j)

/-- A step inside a pass that takes nothing. -/
inductive Moves (thread : SqlDelayThread β) : Phase → Phase → Prop where
  | start : Moves thread .idle (.priority 0)
  | other (processed : Nat) (left : processed < 32)
      (none : thread.prioritySerialDelayQueue = []) :
      Moves thread (.priority processed) (.priorityOther processed)
  | full (processed : Nat) (full : 32 ≤ processed) :
      Moves thread (.priority processed) (.normal 0)
  | noOther (processed : Nat) : Moves thread (.priorityOther processed) (.normal 0)
  | serial (processed : Nat) : Moves thread (.normal processed) (.serial 0)
  | finish (processed : Nat) (done : 64 ≤ processed ∨ thread.serialDelayQueue = []) :
      Moves thread (.serial processed) .idle

theorem Ordered.moves {thread : SqlDelayThread β} {phase : Phase} (h : thread.Ordered)
    (hmoves : Moves thread thread.phase phase) : Ordered { thread with phase := phase } := by
  have hbounded := h.bounded
  refine ⟨?_, h.serial, h.priority, ?_⟩
  · cases hphase : thread.phase <;> rw [hphase] at hmoves hbounded <;> cases hmoves <;>
      simp_all [Phase.Bounded]
  · intro j k op op' hop hop' hkeyed hsame
    have hapart := h.apart j k op op' hop hop' hkeyed hsame
    simp only [serialPass, earliestPass, latestPass] at hapart ⊢
    generalize thread.phase = old at hmoves hbounded hapart
    cases hmoves with
    | start => simpa [Phase.serialProcessed] using hapart
    | other processed left none =>
        simp [none] at hop'
    | full processed full =>
        simp only [Phase.Bounded, Phase.serialProcessed] at hbounded hapart ⊢
        omega
    | noOther processed =>
        simp only [Phase.Bounded, Phase.serialProcessed] at hbounded hapart ⊢
        omega
    | serial processed => simpa [Phase.serialProcessed] using hapart
    | finish processed done =>
        rcases done with done | done
        · simp only [Phase.Bounded, Phase.serialProcessed] at hbounded hapart ⊢
          omega
        · simp [done] at hop

theorem Ordered.takePriority {thread : SqlDelayThread β} {op : SqlOperation β}
    {rest : List (SqlOperation β)} {processed : Nat} (h : thread.Ordered)
    (hphase : thread.phase = .priority processed) (hleft : processed < 32)
    (hqueue : thread.prioritySerialDelayQueue = op :: rest) (taken : Option (SqlOperation β)) :
    Ordered { thread with
      prioritySerialDelayQueue := rest
      phase := .priority (processed + 1)
      current := taken } := by
  have hpriority := h.priority
  rw [hqueue] at hpriority
  refine ⟨hleft, h.serial, hpriority.of_cons, ?_⟩
  intro j k op₁ op₂ hop₁ hop₂ hkeyed hsame
  have hapart := h.apart j (k + 1) op₁ op₂ hop₁ (by simpa [hqueue] using hop₂) hkeyed hsame
  simp only [serialPass, earliestPass, latestPass, hphase, Phase.serialProcessed] at hapart ⊢
  omega

theorem Ordered.takeOther {thread : SqlDelayThread β} {processed : Nat} (h : thread.Ordered)
    (hphase : thread.phase = .priorityOther processed) (rest : List (SqlOperation β))
    (taken : Option (SqlOperation β)) :
    Ordered { thread with
      priorityQueue := rest
      phase := .priority (processed + 1)
      current := taken } := by
  have hbounded := h.bounded
  rw [hphase] at hbounded
  refine ⟨hbounded, h.serial, h.priority, ?_⟩
  intro j k op₁ op₂ hop₁ hop₂ hkeyed hsame
  have hapart := h.apart j k op₁ op₂ hop₁ hop₂ hkeyed hsame
  simp only [serialPass, earliestPass, latestPass, hphase, Phase.serialProcessed,
    Phase.Bounded] at hapart hbounded ⊢
  omega

theorem Ordered.takeNormal {thread : SqlDelayThread β} {processed : Nat} (h : thread.Ordered)
    (hphase : thread.phase = .normal processed) (taken : Option (SqlOperation β)) :
    Ordered { thread with phase := .normal (processed + 1), current := taken } := by
  refine ⟨trivial, h.serial, h.priority, ?_⟩
  intro j k op₁ op₂ hop₁ hop₂ hkeyed hsame
  have hapart := h.apart j k op₁ op₂ hop₁ hop₂ hkeyed hsame
  simpa only [serialPass, earliestPass, latestPass, hphase, Phase.serialProcessed] using hapart

theorem Ordered.takeSerial {thread : SqlDelayThread β} {op : SqlOperation β}
    {rest : List (SqlOperation β)} {processed : Nat} (h : thread.Ordered)
    (hphase : thread.phase = .serial processed) (hleft : processed < 64)
    (hqueue : thread.serialDelayQueue = op :: rest) (taken : Option (SqlOperation β)) :
    Ordered { thread with
      serialDelayQueue := rest
      phase := .serial (processed + 1)
      current := taken } := by
  have hserial := h.serial
  rw [hqueue] at hserial
  refine ⟨hleft, hserial.of_cons, h.priority, ?_⟩
  intro j k op₁ op₂ hop₁ hop₂ hkeyed hsame
  have hapart := h.apart (j + 1) k op₁ op₂ (by simpa [hqueue] using hop₁) hop₂ hkeyed hsame
  simp only [serialPass, earliestPass, latestPass, hphase, Phase.serialProcessed] at hapart ⊢
  omega

theorem Ordered.priority_least {thread : SqlDelayThread β} {op : SqlOperation β}
    {rest : List (SqlOperation β)} {processed : Nat} (h : thread.Ordered)
    (hphase : thread.phase = .priority processed) (hleft : processed < 32)
    (hqueue : thread.prioritySerialDelayQueue = op :: rest) (hkeyed : op.serialId ≠ 0)
    {op' : SqlOperation β} (hsame : op'.serialId = op.serialId)
    (hmem : op' ∈ thread.prioritySerialDelayQueue ++ thread.serialDelayQueue) :
    op.ticket ≤ op'.ticket := by
  rcases List.mem_append.mp hmem with hmem | hmem
  · have hpriority := h.priority
    rw [hqueue] at hpriority hmem
    rcases List.mem_cons.mp hmem with rfl | hmem
    · exact Nat.le_refl _
    · exact Nat.le_of_lt (List.rel_of_pairwise_cons hpriority hmem)
  · obtain ⟨j, hj⟩ := List.mem_iff_getElem?.mp hmem
    have hapart := h.apart j 0 op' op hj (by simp [hqueue]) (hsame ▸ hkeyed) hsame.symm
    simp only [serialPass, earliestPass, latestPass, hphase] at hapart
    omega

theorem Ordered.serial_least {thread : SqlDelayThread β} {op : SqlOperation β}
    {rest : List (SqlOperation β)} {processed : Nat} (h : thread.Ordered)
    (hphase : thread.phase = .serial processed) (hleft : processed < 64)
    (hqueue : thread.serialDelayQueue = op :: rest) (hkeyed : op.serialId ≠ 0)
    {op' : SqlOperation β} (hsame : op'.serialId = op.serialId)
    (hmem : op' ∈ thread.prioritySerialDelayQueue ++ thread.serialDelayQueue) :
    op.ticket ≤ op'.ticket := by
  rcases List.mem_append.mp hmem with hmem | hmem
  · obtain ⟨k, hk⟩ := List.mem_iff_getElem?.mp hmem
    have hapart := h.apart 0 k op op' (by simp [hqueue]) hk hkeyed hsame
    simp only [serialPass, earliestPass, latestPass, hphase, Phase.serialProcessed] at hapart
    omega
  · have hserial := h.serial
    rw [hqueue] at hserial hmem
    rcases List.mem_cons.mp hmem with rfl | hmem
    · exact Nat.le_refl _
    · exact Nat.le_of_lt (List.rel_of_pairwise_cons hserial hmem)

theorem getElem?_concat_cases {α : Type} {items : List α} {last item : α} {i : Nat}
    (hfound : (items ++ [last])[i]? = some item) :
    items[i]? = some item ∨ i = items.length ∧ item = last := by
  rcases Nat.lt_trichotomy i items.length with hi | rfl | hi
  · rw [List.getElem?_append_left hi] at hfound
    exact Or.inl hfound
  · simp only [List.getElem?_concat_length, Option.some.injEq] at hfound
    exact Or.inr ⟨rfl, hfound.symm⟩
  · rw [List.getElem?_eq_none (by simp; omega)] at hfound
    cases hfound

theorem Ordered.addSerial {thread : SqlDelayThread β} {op : SqlOperation β} (h : thread.Ordered)
    (hnew : ∀ op' ∈ thread.prioritySerialDelayQueue ++ thread.serialDelayQueue,
      op'.ticket < op.ticket)
    (hturn : op.serialId ≠ 0 → thread.SerialInTurn op.serialId) :
    Ordered { thread with serialDelayQueue := thread.serialDelayQueue ++ [op] } := by
  refine ⟨h.bounded, ?_, h.priority, ?_⟩
  · refine List.pairwise_append.mpr ⟨h.serial, List.pairwise_singleton _ _, ?_⟩
    intro op' hmem last hlast
    rw [List.mem_singleton.mp hlast]
    exact hnew op' (List.mem_append_right _ hmem)
  · intro j k op₁ op₂ hop₁ hop₂ hkeyed hsame
    rcases getElem?_concat_cases hop₁ with hold | ⟨rfl, rfl⟩
    · exact h.apart j k op₁ op₂ hold hop₂ hkeyed hsame
    · exact Or.inr ⟨hnew op₂ (List.mem_append_left _ (List.mem_of_getElem? hop₂)),
        hturn hkeyed k op₂ hop₂ hsame⟩

theorem Ordered.addPrioritySerial {thread : SqlDelayThread β} {op : SqlOperation β}
    (h : thread.Ordered)
    (hnew : ∀ op' ∈ thread.prioritySerialDelayQueue ++ thread.serialDelayQueue,
      op'.ticket < op.ticket)
    (hturn : thread.PriorityInTurn op.serialId) :
    Ordered { thread with
      prioritySerialDelayQueue := thread.prioritySerialDelayQueue ++ [op] } := by
  refine ⟨h.bounded, h.serial, ?_, ?_⟩
  · refine List.pairwise_append.mpr ⟨h.priority, List.pairwise_singleton _ _, ?_⟩
    intro op' hmem last hlast
    rw [List.mem_singleton.mp hlast]
    exact hnew op' (List.mem_append_left _ hmem)
  · intro j k op₁ op₂ hop₁ hop₂ hkeyed hsame
    rcases getElem?_concat_cases hop₂ with hold | ⟨rfl, rfl⟩
    · exact h.apart j k op₁ op₂ hop₁ hold hkeyed hsame
    · exact Or.inl ⟨hnew op₁ (List.mem_append_right _ (List.mem_of_getElem? hop₁)),
        hturn j op₁ hop₁ hsame.symm⟩

def queued (thread : SqlDelayThread β) : List (SqlOperation β) :=
  thread.prioritySerialDelayQueue ++ thread.serialDelayQueue

end SqlDelayThread

namespace Database

/-- What one step of a delay thread can do. -/
inductive Turn (db : Database β) (i : Nat) : Database β → Prop where
  | execute (op : SqlOperation β) (current : (db.threadsBodies i).current = some op) :
      Turn db i { db.setWorker i { db.threadsBodies i with current := none } with
        executed := db.executed ++ [op] }
  | move (phase : Phase)
      (moves : (db.threadsBodies i).Moves (db.threadsBodies i).phase phase) :
      Turn db i (db.setWorker i { db.threadsBodies i with phase := phase })
  | takePriority (op : SqlOperation β) (rest : List (SqlOperation β)) (processed : Nat)
      (none : (db.threadsBodies i).current = none)
      (phase : (db.threadsBodies i).phase = .priority processed) (left : processed < 32)
      (queue : (db.threadsBodies i).prioritySerialDelayQueue = op :: rest) :
      Turn db i (db.setWorker i { db.threadsBodies i with
        prioritySerialDelayQueue := rest
        phase := .priority (processed + 1)
        current := some op })
  | takeOther (op : SqlOperation β) (rest : List (SqlOperation β)) (processed : Nat)
      (none : (db.threadsBodies i).current = none)
      (phase : (db.threadsBodies i).phase = .priorityOther processed)
      (queue : (db.threadsBodies i).priorityQueue = op :: rest) :
      Turn db i (db.setWorker i { db.threadsBodies i with
        priorityQueue := rest
        phase := .priority (processed + 1)
        current := some op })
  | takeNormal (op : SqlOperation β) (rest : List (SqlOperation β)) (processed : Nat)
      (none : (db.threadsBodies i).current = none)
      (phase : (db.threadsBodies i).phase = .normal processed)
      (queue : db.delayQueue = op :: rest) :
      Turn db i { db.setWorker i { db.threadsBodies i with
        phase := .normal (processed + 1)
        current := some op } with delayQueue := rest }
  | takeSerial (op : SqlOperation β) (rest : List (SqlOperation β)) (processed : Nat)
      (none : (db.threadsBodies i).current = none)
      (phase : (db.threadsBodies i).phase = .serial processed) (left : processed < 64)
      (queue : (db.threadsBodies i).serialDelayQueue = op :: rest) :
      Turn db i (db.setWorker i { db.threadsBodies i with
        serialDelayQueue := rest
        phase := .serial (processed + 1)
        current := some op })

theorem work_turn (db : Database β) (i : Nat) : Turn db i (db.work i) := by
  unfold work
  dsimp only
  split
  next op hcurrent => exact .execute op hcurrent
  next hcurrent =>
    split
    next hphase => exact .move _ (by rw [hphase]; exact .start)
    next processed hphase =>
      split
      next hleft =>
        split
        next op rest hqueue => exact .takePriority op rest processed hcurrent hphase hleft hqueue
        next hqueue => exact .move _ (by rw [hphase]; exact .other processed hleft hqueue)
      next hfull => exact .move _ (by rw [hphase]; exact .full processed (by omega))
    next processed hphase =>
      split
      next op rest hqueue => exact .takeOther op rest processed hcurrent hphase hqueue
      next hqueue => exact .move _ (by rw [hphase]; exact .noOther processed)
    next processed hphase =>
      split
      next hleft =>
        split
        next op rest hqueue => exact .takeNormal op rest processed hcurrent hphase hqueue
        next hqueue => exact .move _ (by rw [hphase]; exact .serial processed)
      next hfull => exact .move _ (by rw [hphase]; exact .serial processed)
    next processed hphase =>
      split
      next hleft =>
        split
        next op rest hqueue => exact .takeSerial op rest processed hcurrent hphase hleft hqueue
        next hqueue => exact .move _ (by rw [hphase]; exact .finish processed (Or.inr hqueue))
      next hfull =>
        exact .move _ (by rw [hphase]; exact .finish processed (Or.inl (by omega)))

end Database

def keyed (serialId : UInt32) (ops : List (SqlOperation β)) : List (SqlOperation β) :=
  ops.filter (·.serialId == serialId)

@[simp] theorem keyed_nil (serialId : UInt32) : keyed serialId ([] : List (SqlOperation β)) = [] :=
  rfl

@[simp] theorem keyed_append (serialId : UInt32) (ops ops' : List (SqlOperation β)) :
    keyed serialId (ops ++ ops') = keyed serialId ops ++ keyed serialId ops' :=
  List.filter_append ..

theorem keyed_cons_same {serialId : UInt32} {op : SqlOperation β} (h : op.serialId = serialId)
    (ops : List (SqlOperation β)) : keyed serialId (op :: ops) = op :: keyed serialId ops := by
  simp [keyed, h]

theorem keyed_cons_other {serialId : UInt32} {op : SqlOperation β} (h : op.serialId ≠ serialId)
    (ops : List (SqlOperation β)) : keyed serialId (op :: ops) = keyed serialId ops := by
  simp [keyed, h]

theorem mem_keyed {serialId : UInt32} {op : SqlOperation β} {ops : List (SqlOperation β)} :
    op ∈ keyed serialId ops ↔ op ∈ ops ∧ op.serialId = serialId := by
  simp [keyed]

theorem head_of_least {ops ops' : List (SqlOperation β)} {op : SqlOperation β}
    (hsorted : ops.Pairwise (·.ticket < ·.ticket)) (hperm : ops.Perm (op :: ops'))
    (hleast : ∀ op' ∈ ops, op.ticket ≤ op'.ticket) :
    ∃ rest, ops = op :: rest ∧ rest.Perm ops' := by
  cases ops with
  | nil => exact absurd hperm.length_eq (by simp)
  | cons first rest =>
      have hmem : op ∈ first :: rest := hperm.mem_iff.mpr (by simp)
      rcases List.mem_cons.mp hmem with rfl | hmem
      · exact ⟨rest, rfl, (List.perm_cons _).mp hperm⟩
      · have hafter := List.rel_of_pairwise_cons hsorted hmem
        have hbefore := hleast first (by simp)
        omega

/-- Of one serial id, everything submitted is executed, then taken, then waiting
in the order of submission. -/
def Pending (serialId : UInt32) (submitted executed delayQueue : List (SqlOperation β))
    (thread : SqlDelayThread β) : Prop :=
  ∃ waiting, keyed serialId submitted =
      keyed serialId executed ++ keyed serialId thread.current.toList ++ waiting ∧
    waiting.Perm (keyed serialId (thread.queued ++ delayQueue))

namespace Pending

variable {serialId : UInt32} {submitted executed delayQueue : List (SqlOperation β)}
  {thread thread' : SqlDelayThread β} {op : SqlOperation β}

theorem execute (h : Pending serialId submitted executed delayQueue thread)
    (hcurrent : thread.current = some op) :
    Pending serialId submitted (executed ++ [op]) delayQueue
      { thread with current := none } := by
  obtain ⟨waiting, hsubmitted, hperm⟩ := h
  refine ⟨waiting, ?_, hperm⟩
  simpa [hcurrent] using hsubmitted

theorem executeOther (h : Pending serialId submitted executed delayQueue thread)
    (hother : op.serialId ≠ serialId) :
    Pending serialId submitted (executed ++ [op]) delayQueue thread := by
  obtain ⟨waiting, hsubmitted, hperm⟩ := h
  exact ⟨waiting, by simpa [keyed_cons_other hother] using hsubmitted, hperm⟩

theorem take {delayQueue' : List (SqlOperation β)}
    (h : Pending serialId submitted executed delayQueue thread)
    (hsorted : submitted.Pairwise (·.ticket < ·.ticket))
    (hnone : thread.current = none) (hcurrent : thread'.current = some op)
    (hqueues : (thread.queued ++ delayQueue).Perm (op :: (thread'.queued ++ delayQueue')))
    (hleast : op.serialId = serialId → ∀ op' ∈ thread.queued ++ delayQueue,
      op'.serialId = serialId → op.ticket ≤ op'.ticket) :
    Pending serialId submitted executed delayQueue' thread' := by
  obtain ⟨waiting, hsubmitted, hperm⟩ := h
  have hkeyed := hqueues.filter (·.serialId == serialId)
  change (keyed serialId _).Perm (keyed serialId _) at hkeyed
  by_cases hsame : op.serialId = serialId
  · rw [keyed_cons_same hsame] at hkeyed
    have hpart : waiting.Sublist submitted := by
      have hsub : waiting.Sublist (keyed serialId submitted) := by
        rw [hsubmitted]
        exact List.sublist_append_right _ _
      exact hsub.trans List.filter_sublist
    obtain ⟨rest, rfl, hrest⟩ := head_of_least (hsorted.sublist hpart) (hperm.trans hkeyed)
      (fun op' hmem => by
        have hmem' := mem_keyed.mp (hperm.mem_iff.mp hmem)
        exact hleast hsame op' hmem'.1 hmem'.2)
    refine ⟨rest, ?_, hrest⟩
    simpa [hnone, hcurrent, keyed_cons_same hsame] using hsubmitted
  · rw [keyed_cons_other hsame] at hkeyed
    refine ⟨waiting, ?_, hperm.trans hkeyed⟩
    simpa [hnone, hcurrent, keyed_cons_other hsame] using hsubmitted

theorem takeOther (h : Pending serialId submitted executed delayQueue thread)
    (hnone : thread.current = none) (hcurrent : thread'.current = some op)
    (hqueued : thread'.queued = thread.queued) (hother : op.serialId ≠ serialId) :
    Pending serialId submitted executed delayQueue thread' := by
  obtain ⟨waiting, hsubmitted, hperm⟩ := h
  refine ⟨waiting, ?_, by rw [hqueued]; exact hperm⟩
  simpa [hnone, hcurrent, keyed_cons_other hother] using hsubmitted

theorem add {delayQueue' : List (SqlOperation β)}
    (h : Pending serialId submitted executed delayQueue thread)
    (hcurrent : thread'.current = thread.current)
    (hqueues : (thread.queued ++ delayQueue ++ [op]).Perm (thread'.queued ++ delayQueue')) :
    Pending serialId (submitted ++ [op]) executed delayQueue' thread' := by
  obtain ⟨waiting, hsubmitted, hperm⟩ := h
  refine ⟨waiting ++ keyed serialId [op], ?_, ?_⟩
  · rw [keyed_append, hsubmitted, hcurrent, List.append_assoc]
  · have hkeyed := hqueues.filter (·.serialId == serialId)
    change (keyed serialId _).Perm (keyed serialId _) at hkeyed
    refine List.Perm.trans ?_ hkeyed
    rw [keyed_append]
    exact hperm.append_right _

theorem addOther (h : Pending serialId submitted executed delayQueue thread)
    (hother : op.serialId ≠ serialId) :
    Pending serialId (submitted ++ [op]) executed delayQueue thread := by
  obtain ⟨waiting, hsubmitted, hperm⟩ := h
  exact ⟨waiting, by simpa [keyed_cons_other hother] using hsubmitted, hperm⟩

end Pending

namespace Database

/-- Tickets follow the order of submission, operations wait where their serial id
sends them, and the threads reach them in turn. -/
structure Coherent (db : Database β) : Prop where
  tickets : db.submitted.Pairwise (·.ticket < ·.ticket)
  issued : ∀ op ∈ db.submitted, op.ticket < db.submitted.length
  queued : ∀ i, ∀ op ∈ (db.threadsBodies i).queued, op.ticket < db.submitted.length
  ordered : ∀ i, (db.threadsBodies i).Ordered
  others : ∀ i, ∀ op ∈ (db.threadsBodies i).priorityQueue, op.serialId = 0
  unkeyed : db.numAsyncWorkers ≠ 0 → ∀ op ∈ db.delayQueue, op.serialId = 0
  home : ∀ i op, op ∈ (db.threadsBodies i).queued ∨ (db.threadsBodies i).current = some op →
    op.serialId ≠ 0 → i = db.worker op.serialId
  pending : ∀ serialId, serialId ≠ 0 → Pending serialId db.submitted db.executed db.delayQueue
    (db.threadsBodies (db.worker serialId))

theorem coherent_start (numAsyncWorkers : UInt32) :
    Coherent ({ numAsyncWorkers := numAsyncWorkers } : Database β) where
  tickets := List.Pairwise.nil
  issued := by simp
  queued := by simp [SqlDelayThread.queued]
  ordered _ := ⟨trivial, List.Pairwise.nil, List.Pairwise.nil, by simp⟩
  others := by simp
  unkeyed := by simp
  home := by simp [SqlDelayThread.queued]
  pending _ _ := ⟨[], by simp [keyed, SqlDelayThread.queued]⟩

namespace Coherent

variable {db : Database β} {i : Nat}

/-- A step of one thread keeps the invariant if the thread's own part is kept. -/
theorem setThread {thread : SqlDelayThread β} {executed delayQueue : List (SqlOperation β)}
    (h : db.Coherent) (hordered : thread.Ordered)
    (hqueued : ∀ op ∈ thread.queued, op ∈ (db.threadsBodies i).queued)
    (hothers : ∀ op ∈ thread.priorityQueue, op.serialId = 0)
    (hcurrent : ∀ op, thread.current = some op → op.serialId ≠ 0 → i = db.worker op.serialId)
    (hunkeyed : db.numAsyncWorkers ≠ 0 → ∀ op ∈ delayQueue, op.serialId = 0)
    (hown : ∀ serialId, serialId ≠ 0 → db.worker serialId = i →
      Pending serialId db.submitted executed delayQueue thread)
    (hrest : ∀ serialId, serialId ≠ 0 → db.worker serialId ≠ i →
      Pending serialId db.submitted executed delayQueue
        (db.threadsBodies (db.worker serialId))) :
    Coherent { db with
      threadsBodies := Function.update db.threadsBodies i thread
      executed := executed
      delayQueue := delayQueue } where
  tickets := h.tickets
  issued := h.issued
  queued j := by
    by_cases hj : j = i
    · subst hj
      simpa using fun op hop => h.queued j op (hqueued op hop)
    · simpa [Function.update_of_ne hj] using h.queued j
  ordered j := by
    by_cases hj : j = i
    · subst hj
      simpa using hordered
    · simpa [Function.update_of_ne hj] using h.ordered j
  others j := by
    by_cases hj : j = i
    · subst hj
      simpa using hothers
    · simpa [Function.update_of_ne hj] using h.others j
  unkeyed := hunkeyed
  home j op hop hkeyed := by
    by_cases hj : j = i
    · subst hj
      simp only [Function.update_self] at hop
      rcases hop with hop | hop
      · exact h.home j op (Or.inl (hqueued op hop)) hkeyed
      · exact hcurrent op hop hkeyed
    · simp only [Function.update_of_ne hj] at hop
      exact h.home j op hop hkeyed
  pending serialId hkeyed := by
    change Pending serialId db.submitted executed delayQueue
      (Function.update db.threadsBodies i thread (db.worker serialId))
    by_cases hworker : db.worker serialId = i
    · rw [hworker, Function.update_self]
      exact hown serialId hkeyed hworker
    · rw [Function.update_of_ne hworker]
      exact hrest serialId hkeyed hworker

theorem turn {db' : Database β} (h : db.Coherent) (hworkers : db.numAsyncWorkers ≠ 0)
    (hturn : Turn db i db') : db'.Coherent := by
  have hmine : ∀ serialId, serialId ≠ 0 → db.worker serialId = i →
      Pending serialId db.submitted db.executed db.delayQueue (db.threadsBodies i) := by
    intro serialId hkeyed hworker
    rw [← hworker]
    exact h.pending serialId hkeyed
  cases hturn with
  | execute op hcurrent =>
      refine h.setThread ⟨(h.ordered i).bounded, (h.ordered i).serial, (h.ordered i).priority,
        (h.ordered i).apart⟩ (fun _ hop => hop) (h.others i) (by simp) h.unkeyed ?_ ?_
      · intro serialId hkeyed hworker
        exact (hmine serialId hkeyed hworker).execute hcurrent
      · intro serialId hkeyed hworker
        refine (h.pending serialId hkeyed).executeOther ?_
        rintro rfl
        exact hworker (h.home i op (Or.inr hcurrent) hkeyed).symm
  | move phase hmoves =>
      refine h.setThread ((h.ordered i).moves hmoves) (fun _ hop => hop) (h.others i)
        (fun op hop => h.home i op (Or.inr hop)) h.unkeyed hmine ?_
      intro serialId hkeyed _
      exact h.pending serialId hkeyed
  | takePriority op rest processed hnone hphase hleft hqueue =>
      have hhead : op ∈ (db.threadsBodies i).queued := by
        simp [SqlDelayThread.queued, hqueue]
      refine h.setThread ((h.ordered i).takePriority hphase hleft hqueue (some op)) ?_
        (h.others i) ?_ h.unkeyed ?_ (fun serialId hkeyed _ => h.pending serialId hkeyed)
      · intro op' hop'
        simp only [SqlDelayThread.queued, hqueue] at hop' ⊢
        simp only [List.cons_append]
        exact List.mem_cons_of_mem _ hop'
      · intro op' hop'
        obtain rfl : op = op' := by simpa using hop'
        exact h.home i op (Or.inl hhead)
      · intro serialId hkeyed hworker
        refine (hmine serialId hkeyed hworker).take h.tickets hnone rfl ?_ ?_
        · simp [SqlDelayThread.queued, hqueue]
        · rintro rfl op' hmem hsame
          rcases List.mem_append.mp hmem with hmem | hmem
          · exact (h.ordered i).priority_least hphase hleft hqueue hkeyed hsame hmem
          · exact absurd (h.unkeyed hworkers op' hmem) (hsame ▸ hkeyed)
  | takeOther op rest processed hnone hphase hqueue =>
      have hzero : op.serialId = 0 := h.others i op (by simp [hqueue])
      refine h.setThread ((h.ordered i).takeOther hphase rest (some op)) (fun _ hop => hop) ?_ ?_
        h.unkeyed ?_ (fun serialId hkeyed _ => h.pending serialId hkeyed)
      · intro op' hop'
        exact h.others i op' (by rw [hqueue]; exact List.mem_cons_of_mem _ hop')
      · intro op' hop' hkeyed
        obtain rfl : op = op' := by simpa using hop'
        exact absurd hzero hkeyed
      · intro serialId hkeyed hworker
        exact (hmine serialId hkeyed hworker).takeOther hnone rfl rfl (hzero ▸ hkeyed.symm)
  | takeNormal op rest processed hnone hphase hqueue =>
      have hzero : op.serialId = 0 := h.unkeyed hworkers op (by simp [hqueue])
      refine h.setThread ((h.ordered i).takeNormal hphase (some op)) (fun _ hop => hop)
        (h.others i) ?_ ?_ ?_ ?_
      · intro op' hop' hkeyed
        obtain rfl : op = op' := by simpa using hop'
        exact absurd hzero hkeyed
      · intro _ op' hop'
        exact h.unkeyed hworkers op' (by rw [hqueue]; exact List.mem_cons_of_mem _ hop')
      · intro serialId hkeyed hworker
        refine (hmine serialId hkeyed hworker).take h.tickets hnone rfl ?_ ?_
        · rw [hqueue]
          exact List.perm_middle
        · rintro rfl
          exact absurd hzero hkeyed
      · intro serialId hkeyed _
        obtain ⟨waiting, hsubmitted, hperm⟩ := h.pending serialId hkeyed
        refine ⟨waiting, hsubmitted, ?_⟩
        rw [hqueue, keyed_append, keyed_cons_other (hzero ▸ hkeyed.symm)] at hperm
        rwa [keyed_append]
  | takeSerial op rest processed hnone hphase hleft hqueue =>
      have hhead : op ∈ (db.threadsBodies i).queued := by
        simp [SqlDelayThread.queued, hqueue]
      refine h.setThread ((h.ordered i).takeSerial hphase hleft hqueue (some op)) ?_
        (h.others i) ?_ h.unkeyed ?_ (fun serialId hkeyed _ => h.pending serialId hkeyed)
      · intro op' hop'
        simp only [SqlDelayThread.queued, hqueue, List.mem_append, List.mem_cons] at hop' ⊢
        exact hop'.imp_right Or.inr
      · intro op' hop'
        obtain rfl : op = op' := by simpa using hop'
        exact h.home i op (Or.inl hhead)
      · intro serialId hkeyed hworker
        refine (hmine serialId hkeyed hworker).take h.tickets hnone rfl ?_ ?_
        · simp only [SqlDelayThread.queued, hqueue, List.append_assoc, List.cons_append]
          exact List.perm_middle
        · rintro rfl op' hmem hsame
          rcases List.mem_append.mp hmem with hmem | hmem
          · exact (h.ordered i).serial_least hphase hleft hqueue hkeyed hsame hmem
          · exact absurd (h.unkeyed hworkers op' hmem) (hsame ▸ hkeyed)

end Coherent

inductive Enqueued (db : Database β) (op : SqlOperation β) : Database β → Prop where
  | delay (unkeyed : op.serialId = 0 ∨ db.numAsyncWorkers = 0) :
      Enqueued db op { db with delayQueue := db.delayQueue ++ [op] }
  | write (unkeyed : op.serialId = 0) : Enqueued db op (db.addSerialOperation 0 op)
  | priority (unkeyed : op.serialId = 0) : Enqueued db op (db.addPriorityOperation 0 op)
  | serial (keyed : op.serialId ≠ 0)
      (turn : (db.threadsBodies (db.worker op.serialId)).SerialInTurn op.serialId) :
      Enqueued db op (db.addSerialOperation (db.worker op.serialId) op)
  | prioritySerial (keyed : op.serialId ≠ 0)
      (turn : (db.threadsBodies (db.worker op.serialId)).PriorityInTurn op.serialId) :
      Enqueued db op (db.addPrioritySerialOperation (db.worker op.serialId) op)

theorem addToDelayQueue_enqueued (db : Database β) {op : SqlOperation β}
    (h : op.serialId = 0 ∨ db.numAsyncWorkers = 0) : Enqueued db op (db.addToDelayQueue op) := by
  unfold addToDelayQueue
  split
  next hwrite =>
    refine .write ?_
    rcases h with h | h
    · exact h
    · exact absurd h hwrite.1
  next => exact .delay h

theorem addToPriorityDelayQueue_enqueued (db : Database β) {op : SqlOperation β}
    (h : op.serialId = 0 ∨ db.numAsyncWorkers = 0) :
    Enqueued db op (db.addToPriorityDelayQueue op) := by
  unfold addToPriorityDelayQueue
  split
  next hworkers =>
    refine .priority ?_
    rcases h with h | h
    · exact h
    · exact absurd h hworkers
  next => exact db.addToDelayQueue_enqueued h

theorem addToSerialDelayQueue_enqueued (db : Database β) {op : SqlOperation β}
    (hturn : op.serialId ≠ 0 →
      (db.threadsBodies (db.worker op.serialId)).SerialInTurn op.serialId) :
    Enqueued db op (db.addToSerialDelayQueue op) := by
  unfold addToSerialDelayQueue
  split
  next h => exact db.addToDelayQueue_enqueued h
  next h =>
    have hkeyed : op.serialId ≠ 0 := fun hzero => h (Or.inl hzero)
    exact .serial hkeyed (hturn hkeyed)

theorem addToPrioritySerialDelayQueue_enqueued (db : Database β) {op : SqlOperation β}
    (hturn : op.serialId ≠ 0 →
      (db.threadsBodies (db.worker op.serialId)).PriorityInTurn op.serialId) :
    Enqueued db op (db.addToPrioritySerialDelayQueue op) := by
  unfold addToPrioritySerialDelayQueue
  split
  next h => exact db.addToPriorityDelayQueue_enqueued h
  next h =>
    have hkeyed : op.serialId ≠ 0 := fun hzero => h (Or.inl hzero)
    exact .prioritySerial hkeyed (hturn hkeyed)

end Database

/-- A submission to one queue of a worker comes after what the other queue holds
of the same serial id: the worker's passes reach all of that first. -/
def Event.InTurn (db : Database β) : Event β → Prop
  | .submit (.commitTransaction serialId _) | .submit (.queryHolder serialId _ false) =>
      serialId ≠ 0 → (db.threadsBodies (db.worker serialId)).SerialInTurn serialId
  | .submit (.queryHolder serialId _ true) =>
      serialId ≠ 0 → (db.threadsBodies (db.worker serialId)).PriorityInTurn serialId
  | .submit (.execute _) | .submit (.asyncQuery _ _) | .work _ => True

namespace Database

theorem enqueue_enqueued {db : Database β} {request : Request β}
    (hturn : (Event.submit request).InTurn db) (ticket : Nat) :
    Enqueued db (request.operation ticket) (db.enqueue request (request.operation ticket)) := by
  cases request with
  | execute body => exact db.addToDelayQueue_enqueued (Or.inl rfl)
  | asyncQuery body highPriority =>
      cases highPriority with
      | false => exact db.addToDelayQueue_enqueued (Or.inl rfl)
      | true => exact db.addToPriorityDelayQueue_enqueued (Or.inl rfl)
  | commitTransaction serialId body =>
      simp only [enqueue]
      split
      next => exact db.addToSerialDelayQueue_enqueued hturn
      next hzero =>
        refine db.addToDelayQueue_enqueued (Or.inl ?_)
        change serialId = 0
        exact UInt32.toNat_inj.mp (by simpa [UInt32.lt_iff_toNat_lt] using hzero)
  | queryHolder serialId body highPriority =>
      cases highPriority with
      | false => exact db.addToSerialDelayQueue_enqueued hturn
      | true => exact db.addToPrioritySerialDelayQueue_enqueued hturn

namespace Coherent

variable {db : Database β} {i : Nat} {op : SqlOperation β}

theorem addThread {thread : SqlDelayThread β} {delayQueue : List (SqlOperation β)}
    (h : db.Coherent) (hticket : op.ticket = db.submitted.length) (hordered : thread.Ordered)
    (hqueued : ∀ op' ∈ thread.queued, op' ∈ (db.threadsBodies i).queued ∨
      op' = op ∧ (op.serialId ≠ 0 → i = db.worker op.serialId))
    (hothers : ∀ op ∈ thread.priorityQueue, op.serialId = 0)
    (hcurrent : thread.current = (db.threadsBodies i).current)
    (hunkeyed : db.numAsyncWorkers ≠ 0 → ∀ op ∈ delayQueue, op.serialId = 0)
    (hown : ∀ serialId, serialId ≠ 0 → db.worker serialId = i →
      Pending serialId (db.submitted ++ [op]) db.executed delayQueue thread)
    (hrest : ∀ serialId, serialId ≠ 0 → db.worker serialId ≠ i →
      Pending serialId (db.submitted ++ [op]) db.executed delayQueue
        (db.threadsBodies (db.worker serialId))) :
    Coherent { db with
      threadsBodies := Function.update db.threadsBodies i thread
      delayQueue := delayQueue
      submitted := db.submitted ++ [op] } where
  tickets := by
    refine List.pairwise_append.mpr ⟨h.tickets, List.pairwise_singleton _ _, ?_⟩
    intro op' hop' last hlast
    rw [List.mem_singleton.mp hlast, hticket]
    exact h.issued op' hop'
  issued op' hop' := by
    simp only [List.length_append, List.length_singleton]
    rcases List.mem_append.mp hop' with hop' | hop'
    · have := h.issued op' hop'
      omega
    · rw [List.mem_singleton.mp hop', hticket]
      omega
  queued j op' hop' := by
    dsimp only at hop' ⊢
    simp only [List.length_append, List.length_singleton]
    by_cases hj : j = i
    · subst hj
      rw [Function.update_self] at hop'
      rcases hqueued op' hop' with hop' | ⟨rfl, -⟩
      · have := h.queued j op' hop'
        omega
      · omega
    · rw [Function.update_of_ne hj] at hop'
      have := h.queued j op' hop'
      omega
  ordered j := by
    by_cases hj : j = i
    · subst hj
      simpa using hordered
    · simpa [Function.update_of_ne hj] using h.ordered j
  others j := by
    by_cases hj : j = i
    · subst hj
      simpa using hothers
    · simpa [Function.update_of_ne hj] using h.others j
  unkeyed := hunkeyed
  home j op' hop' hkeyed := by
    by_cases hj : j = i
    · subst hj
      simp only [Function.update_self] at hop'
      rcases hop' with hop' | hop'
      · rcases hqueued op' hop' with hop' | ⟨rfl, hworker⟩
        · exact h.home j op' (Or.inl hop') hkeyed
        · exact hworker hkeyed
      · exact h.home j op' (Or.inr (hcurrent ▸ hop')) hkeyed
    · simp only [Function.update_of_ne hj] at hop'
      exact h.home j op' hop' hkeyed
  pending serialId hkeyed := by
    change Pending serialId (db.submitted ++ [op]) db.executed delayQueue
      (Function.update db.threadsBodies i thread (db.worker serialId))
    by_cases hworker : db.worker serialId = i
    · rw [hworker, Function.update_self]
      exact hown serialId hkeyed hworker
    · rw [Function.update_of_ne hworker]
      exact hrest serialId hkeyed hworker

theorem enqueued {db' : Database β} (h : db.Coherent) (hticket : op.ticket = db.submitted.length)
    (henqueued : Enqueued db op db') :
    Coherent { db' with submitted := db.submitted ++ [op] } := by
  have hnew : ∀ i, ∀ op' ∈ (db.threadsBodies i).queued, op'.ticket < op.ticket := by
    intro i op' hop'
    rw [hticket]
    exact h.queued i op' hop'
  cases henqueued with
  | delay hunkeyed =>
      have hsame : Function.update db.threadsBodies 0 (db.threadsBodies 0) = db.threadsBodies :=
        Function.update_eq_self 0 db.threadsBodies
      rw [← hsame]
      refine h.addThread hticket (h.ordered 0) (fun op' hop' => Or.inl hop') (h.others 0) rfl ?_
        ?_ ?_
      · intro hworkers op' hop'
        rcases List.mem_append.mp hop' with hop' | hop'
        · exact h.unkeyed hworkers op' hop'
        · rw [List.mem_singleton.mp hop']
          exact hunkeyed.resolve_right hworkers
      · intro serialId hkeyed hworker
        rw [← hworker]
        exact (h.pending serialId hkeyed).add rfl (by simp)
      · intro serialId hkeyed _
        exact (h.pending serialId hkeyed).add rfl (by simp)
  | write hunkeyed =>
      refine h.addThread hticket ((h.ordered 0).addSerial (hnew 0) (fun hne => absurd hunkeyed hne))
        ?_ (h.others 0) rfl h.unkeyed ?_ ?_
      · intro op' hop'
        simp only [SqlDelayThread.queued, ← List.append_assoc] at hop'
        rcases List.mem_append.mp hop' with hop' | hop'
        · exact Or.inl hop'
        · exact Or.inr ⟨List.mem_singleton.mp hop', fun hne => absurd hunkeyed hne⟩
      · intro serialId hkeyed hworker
        rw [← hworker]
        refine (h.pending serialId hkeyed).add rfl ?_
        simp only [SqlDelayThread.queued, List.append_assoc]
        exact (List.perm_append_comm.append_left _).append_left _
      · intro serialId hkeyed _
        exact (h.pending serialId hkeyed).addOther (hunkeyed ▸ hkeyed.symm)
  | priority hunkeyed =>
      refine h.addThread hticket ⟨(h.ordered 0).bounded, (h.ordered 0).serial,
        (h.ordered 0).priority, (h.ordered 0).apart⟩ (fun op' hop' => Or.inl hop') ?_ rfl
        h.unkeyed ?_ ?_
      · intro op' hop'
        rcases List.mem_append.mp hop' with hop' | hop'
        · exact h.others 0 op' hop'
        · rw [List.mem_singleton.mp hop']
          exact hunkeyed
      · intro serialId hkeyed hworker
        rw [← hworker]
        exact (h.pending serialId hkeyed).addOther (hunkeyed ▸ hkeyed.symm)
      · intro serialId hkeyed _
        exact (h.pending serialId hkeyed).addOther (hunkeyed ▸ hkeyed.symm)
  | serial hkeyed hturn =>
      refine h.addThread hticket ((h.ordered _).addSerial (hnew _) (fun _ => hturn))
        ?_ (h.others _) rfl h.unkeyed ?_ ?_
      · intro op' hop'
        simp only [SqlDelayThread.queued, ← List.append_assoc] at hop'
        rcases List.mem_append.mp hop' with hop' | hop'
        · exact Or.inl hop'
        · exact Or.inr ⟨List.mem_singleton.mp hop', fun _ => rfl⟩
      · intro serialId hne hworker
        rw [← hworker]
        refine (h.pending serialId hne).add rfl ?_
        simp only [SqlDelayThread.queued, List.append_assoc]
        exact (List.perm_append_comm.append_left _).append_left _
      · intro serialId hne hworker
        refine (h.pending serialId hne).addOther ?_
        rintro rfl
        exact hworker rfl
  | prioritySerial hkeyed hturn =>
      refine h.addThread hticket ((h.ordered _).addPrioritySerial (hnew _) hturn)
        ?_ (h.others _) rfl h.unkeyed ?_ ?_
      · intro op' hop'
        simp only [SqlDelayThread.queued, List.mem_append, List.mem_singleton] at hop'
        rcases hop' with (hop' | hop') | hop'
        · exact Or.inl (List.mem_append_left _ hop')
        · exact Or.inr ⟨hop', fun _ => rfl⟩
        · exact Or.inl (List.mem_append_right _ hop')
      · intro serialId hne hworker
        rw [← hworker]
        refine (h.pending serialId hne).add rfl ?_
        simp only [SqlDelayThread.queued, List.append_assoc]
        refine List.Perm.append_left _ ?_
        simp only [← List.append_assoc]
        exact List.perm_append_comm
      · intro serialId hne hworker
        refine (h.pending serialId hne).addOther ?_
        rintro rfl
        exact hworker rfl

theorem step {event : Event β} (h : db.Coherent) (hturn : event.InTurn db) :
    (db.step event).Coherent := by
  cases event with
  | submit request => exact h.enqueued (by cases request <;> rfl) (enqueue_enqueued hturn _)
  | work i =>
      simp only [Database.step]
      split
      next hi =>
        refine h.turn ?_ (work_turn db i)
        intro hzero
        simp [hzero] at hi
      next => exact h

end Coherent

end Database

/-- Whatever the threads do, the operations of one serial id are executed in the
order of submission, none left out, if each came in turn. An operation about to
be executed finds everything of its serial id submitted before it executed. -/
theorem executed_in_order (numAsyncWorkers : UInt32) (events : List (Event β))
    (hturn : Lib.Along Database.step (fun db event => event.InTurn db) { numAsyncWorkers } events)
    (serialId : UInt32) (hkeyed : serialId ≠ 0) :
    let db := Database.run { numAsyncWorkers } events
    keyed serialId db.executed <+: keyed serialId db.submitted ∧
      ∀ i op, (db.threadsBodies i).current = some op → op.serialId = serialId →
        ∃ later, keyed serialId db.submitted = keyed serialId db.executed ++ op :: later := by
  intro db
  have hcoherent : db.Coherent :=
    Lib.run_invariant (fun _ _ h hevent => Database.Coherent.step h hevent)
      (Database.coherent_start numAsyncWorkers) hturn
  obtain ⟨waiting, hsubmitted, -⟩ := hcoherent.pending serialId hkeyed
  refine ⟨?_, ?_⟩
  · rw [hsubmitted, List.append_assoc]
    exact List.prefix_append _ _
  · intro i op hcurrent hsame
    have hhome := hcoherent.home i op (Or.inr hcurrent) (hsame ▸ hkeyed)
    rw [hsame] at hhome
    rw [← hhome, hcurrent] at hsubmitted
    refine ⟨waiting, ?_⟩
    simpa [keyed_cons_same hsame] using hsubmitted

namespace SqlDelayThread

variable {thread : SqlDelayThread β} {serialId : UInt32}

theorem serialInTurn_of_clear
    (h : ∀ op ∈ thread.prioritySerialDelayQueue, op.serialId ≠ serialId) :
    thread.SerialInTurn serialId :=
  fun _ op hop hsame => absurd hsame (h op (List.mem_of_getElem? hop))

theorem priorityInTurn_of_clear (h : ∀ op ∈ thread.serialDelayQueue, op.serialId ≠ serialId) :
    thread.PriorityInTurn serialId :=
  fun _ op hop hsame => absurd hsame (h op (List.mem_of_getElem? hop))

end SqlDelayThread

/-- A character is saved and logs in again once the save is done. -/
def loginAfterSave : List (Event String) :=
  [.submit (.commitTransaction 5 "save"), .work 0, .work 0, .work 0, .work 0, .work 0, .work 0,
    .submit (.queryHolder 5 "login" true), .work 0, .work 0, .work 0, .work 0]

theorem login_after_save_in_order :
    keyed 5 (Database.run { numAsyncWorkers := 1 } loginAfterSave).executed <+:
      keyed 5 (Database.run { numAsyncWorkers := 1 } loginAfterSave).submitted := by
  refine (executed_in_order 1 loginAfterSave ?_ 5 (by decide)).1
  refine ⟨fun _ => SqlDelayThread.serialInTurn_of_clear (by decide), trivial, trivial, trivial,
    trivial, trivial, trivial, fun _ => SqlDelayThread.priorityInTurn_of_clear ?_, trivial, trivial,
    trivial, trivial, trivial⟩
  decide

/-- The character logs in while the save is still queued. -/
def loginOverSave : List (Event String) :=
  [.submit (.commitTransaction 5 "save"), .submit (.queryHolder 5 "login" true), .work 0, .work 0,
    .work 0]

theorem login_executed_before_save :
    (Database.run { numAsyncWorkers := 1 } loginOverSave).submitted.map (·.body) =
        ["save", "login"] ∧
      (Database.run { numAsyncWorkers := 1 } loginOverSave).executed.map (·.body) = ["login"] ∧
      ¬ keyed 5 (Database.run { numAsyncWorkers := 1 } loginOverSave).executed <+:
        keyed 5 (Database.run { numAsyncWorkers := 1 } loginOverSave).submitted := by
  decide

end TortoiseWow.Sql
