import TortoiseWow.Lib.Run

/-!
The result queue of a database: delay threads add callbacks while the owner thread
executes them in Update, at most 64 in a call and with every eighth round polling
the normal priority first. Every step is one access to the queues or one executed
callback. CancelAll comes when the delay threads have been joined.
-/

namespace TortoiseWow.Sql

/-- Where the owner thread stands in Update. `other` polls the normal queues after
the high ones were empty. -/
inductive UpdatePhase (β : Type) where
  | idle
  | round (n : Nat)
  | pollNormal (n : Nat)
  | pollHigh (n : Nat)
  | pollOther (n : Nat)
  | executing (n : Nat) (callback : β) (highPriority : Bool)
  deriving Repr, DecidableEq

structure SqlResultQueue (β : Type) where
  waitingQueries : List β := []
  priorityWaitingQueries : List β := []
  threadUnsafeWaitingQueries : List β := []
  priorityThreadUnsafeWaitingQueries : List β := []
  numUnsafeQueries : UInt32 := 0
  priorityBurst : Nat := 0
  phase : UpdatePhase β := .idle
  beginTime : UInt32 := 0
  timeout : UInt32 := 0
  added : List (β × Bool) := []
  executed : List (β × Bool) := []
  deriving Repr, DecidableEq

namespace SqlResultQueue

variable {β : Type}

def add (q : SqlResultQueue β) (callback : β) (highPriority : Bool) : SqlResultQueue β :=
  let q := { q with added := q.added ++ [(callback, highPriority)] }
  if highPriority then
    { q with priorityWaitingQueries := q.priorityWaitingQueries ++ [callback] }
  else { q with waitingQueries := q.waitingQueries ++ [callback] }

def countUnsafe (q : SqlResultQueue β) : SqlResultQueue β :=
  if q.numUnsafeQueries ≠ 0 then { q with numUnsafeQueries := q.numUnsafeQueries - 1 } else q

def nextCallback (q : SqlResultQueue β) (priority : Bool) : Option (β × SqlResultQueue β) :=
  if priority then
    match q.priorityThreadUnsafeWaitingQueries, q.priorityWaitingQueries with
    | callback :: rest, _ =>
        some (callback, { q.countUnsafe with priorityThreadUnsafeWaitingQueries := rest })
    | [], callback :: rest => some (callback, { q with priorityWaitingQueries := rest })
    | [], [] => none
  else
    match q.threadUnsafeWaitingQueries, q.waitingQueries with
    | callback :: rest, _ =>
        some (callback, { q.countUnsafe with threadUnsafeWaitingQueries := rest })
    | [], callback :: rest => some (callback, { q with waitingQueries := rest })
    | [], [] => none

def execute (q : SqlResultQueue β) (callback : β) (highPriority : Bool) : SqlResultQueue β :=
  { q with executed := q.executed ++ [(callback, highPriority)] }

def poll (q : SqlResultQueue β) (n : Nat) (priority : Bool) (otherwise : UpdatePhase β) :
    SqlResultQueue β :=
  match q.nextCallback priority with
  | some (callback, q) => { q with phase := .executing n callback priority }
  | none => { q with phase := otherwise }

def getMSTimeDiff (old new : UInt32) : UInt32 :=
  if new < old then min (0xFFFFFFFF - old + new) (old - new) else new - old

def startRound (q : SqlResultQueue β) (n : Nat) (now : UInt32) : SqlResultQueue β :=
  if 64 ≤ n ∨ (n ≠ 0 ∧ q.timeout ≠ 0 ∧ q.timeout ≤ getMSTimeDiff q.beginTime now) then
    { q with phase := .idle }
  else if 8 ≤ q.priorityBurst + 1 then { q with priorityBurst := 0, phase := .pollNormal n }
  else { q with priorityBurst := q.priorityBurst + 1, phase := .pollHigh n }

/-- The next step of Update. -/
def work (q : SqlResultQueue β) (now : UInt32) : SqlResultQueue β :=
  match q.phase with
  | .idle => q
  | .round n => q.startRound n now
  | .pollNormal n => q.poll n false (.pollHigh n)
  | .pollHigh n => q.poll n true (.pollOther n)
  | .pollOther n => q.poll n false .idle
  | .executing n callback highPriority =>
      { q.execute callback highPriority with phase := .round (n + 1) }

def update (q : SqlResultQueue β) (timeout now : UInt32) : SqlResultQueue β :=
  match q.phase with
  | .idle => { q with phase := .round 0, beginTime := now, timeout := timeout }
  | _ => q

def pendingCount (q : SqlResultQueue β) : Nat :=
  q.waitingQueries.length + q.priorityWaitingQueries.length +
    q.threadUnsafeWaitingQueries.length + q.priorityThreadUnsafeWaitingQueries.length

def cancel : Nat → SqlResultQueue β → SqlResultQueue β
  | 0, q => q
  | fuel + 1, q =>
      match q.nextCallback true with
      | some (callback, q) => cancel fuel (q.execute callback true)
      | none =>
          match q.nextCallback false with
          | some (callback, q) => cancel fuel (q.execute callback false)
          | none => q

def cancelAll (q : SqlResultQueue β) : SqlResultQueue β :=
  match q.phase with
  | .idle => cancel q.pendingCount q
  | _ => q

end SqlResultQueue

inductive ResultEvent (β : Type) where
  | add (callback : β) (highPriority : Bool)
  | update (timeout now : UInt32)
  | work (now : UInt32)
  | cancelAll
  deriving Repr, DecidableEq

namespace SqlResultQueue

variable {β : Type}

def step (q : SqlResultQueue β) : ResultEvent β → SqlResultQueue β
  | .add callback highPriority => q.add callback highPriority
  | .update timeout now => q.update timeout now
  | .work now => q.work now
  | .cancelAll => q.cancelAll

def run (q : SqlResultQueue β) (events : List (ResultEvent β)) : SqlResultQueue β :=
  Lib.run step q events

def ofPriority (priority : Bool) (list : List (β × Bool)) : List β :=
  (list.filter (·.2 == priority)).map Prod.fst

/-- The queued callbacks of a priority, in the order in which they are taken. -/
def pending (q : SqlResultQueue β) : Bool → List β
  | true => q.priorityThreadUnsafeWaitingQueries ++ q.priorityWaitingQueries
  | false => q.threadUnsafeWaitingQueries ++ q.waitingQueries

/-- What Update has taken and not yet executed. -/
def inHand (q : SqlResultQueue β) (priority : Bool) : List β :=
  match q.phase with
  | .executing _ callback highPriority => if highPriority = priority then [callback] else []
  | _ => []

def Delivered (q : SqlResultQueue β) : Prop :=
  ∀ priority, ofPriority priority q.executed ++ q.inHand priority ++ q.pending priority =
    ofPriority priority q.added

@[simp] theorem ofPriority_append (priority : Bool) (list list' : List (β × Bool)) :
    ofPriority priority (list ++ list') =
      ofPriority priority list ++ ofPriority priority list' := by
  simp [ofPriority]

@[simp] theorem ofPriority_one (priority highPriority : Bool) (callback : β) :
    ofPriority priority [(callback, highPriority)] =
      if highPriority = priority then [callback] else [] := by
  cases priority <;> cases highPriority <;> rfl

structure Takes (q : SqlResultQueue β) (priority : Bool) (callback : β) (q' : SqlResultQueue β) :
    Prop where
  pending : q.pending priority = callback :: q'.pending priority
  other : q'.pending (!priority) = q.pending (!priority)
  phase : q'.phase = q.phase
  burst : q'.priorityBurst = q.priorityBurst
  added : q'.added = q.added
  executed : q'.executed = q.executed
  count : q.pendingCount = q'.pendingCount + 1

theorem countUnsafe_eq (q : SqlResultQueue β) :
    ∃ n, q.countUnsafe = { q with numUnsafeQueries := n } := by
  unfold countUnsafe
  split
  · exact ⟨_, rfl⟩
  · exact ⟨q.numUnsafeQueries, rfl⟩

theorem nextCallback_some {q q' : SqlResultQueue β} {priority : Bool} {callback : β}
    (h : q.nextCallback priority = some (callback, q')) : Takes q priority callback q' := by
  obtain ⟨n, hunsafeCount⟩ := q.countUnsafe_eq
  cases priority with
  | true =>
      simp only [nextCallback, if_true, hunsafeCount] at h
      split at h
      case h_1 hunsafe =>
        cases h
        refine ⟨by simp [pending, hunsafe], rfl, rfl, rfl, rfl, rfl, ?_⟩
        simp only [pendingCount, hunsafe, List.length_cons]
        omega
      case h_2 hunsafe hwaiting =>
        cases h
        refine ⟨by simp [pending, hunsafe, hwaiting], rfl, rfl, rfl, rfl, rfl, ?_⟩
        simp only [pendingCount, hunsafe, hwaiting, List.length_cons]
        omega
      case h_3 => cases h
  | false =>
      simp only [nextCallback, Bool.false_eq_true, if_false, hunsafeCount] at h
      split at h
      case h_1 hunsafe =>
        cases h
        refine ⟨by simp [pending, hunsafe], rfl, rfl, rfl, rfl, rfl, ?_⟩
        simp only [pendingCount, hunsafe, List.length_cons]
        omega
      case h_2 hunsafe hwaiting =>
        cases h
        refine ⟨by simp [pending, hunsafe, hwaiting], rfl, rfl, rfl, rfl, rfl, ?_⟩
        simp only [pendingCount, hwaiting, List.length_cons]
        omega
      case h_3 => cases h

theorem pending_add (q : SqlResultQueue β) (callback : β) (highPriority priority : Bool) :
    (q.add callback highPriority).pending priority =
      q.pending priority ++ if highPriority = priority then [callback] else [] := by
  cases highPriority <;> cases priority <;> simp [add, pending]

theorem Delivered.add {q : SqlResultQueue β} (h : q.Delivered) (callback : β)
    (highPriority : Bool) : (q.add callback highPriority).Delivered := by
  intro priority
  have hexecuted : (q.add callback highPriority).executed = q.executed := by
    cases highPriority <;> rfl
  have hinHand : (q.add callback highPriority).inHand priority = q.inHand priority := by
    cases highPriority <;> rfl
  have hadded : (q.add callback highPriority).added = q.added ++ [(callback, highPriority)] := by
    cases highPriority <;> rfl
  rw [hexecuted, hinHand, hadded, pending_add, ofPriority_append, ofPriority_one, ← h priority]
  simp only [List.append_assoc]

/-- A poll takes nothing from the order. -/
theorem Delivered.poll {q : SqlResultQueue β} (h : q.Delivered) (hfree : ∀ p, q.inHand p = [])
    (n : Nat) (priority : Bool) {otherwise : UpdatePhase β}
    (hother : ∀ n callback high, otherwise ≠ .executing n callback high) :
    (q.poll n priority otherwise).Delivered := by
  intro p
  have hp := h p
  rw [hfree p, List.append_nil] at hp
  unfold SqlResultQueue.poll
  split
  case h_1 callback q' hnext =>
    have htakes := nextCallback_some hnext
    rw [← htakes.added] at hp
    by_cases hsame : p = priority
    · subst hsame
      rw [htakes.pending, ← htakes.executed] at hp
      simpa [inHand, SqlResultQueue.pending] using hp
    · obtain rfl : p = !priority := by cases p <;> cases priority <;> simp_all
      rw [← htakes.other, ← htakes.executed] at hp
      simpa [inHand, SqlResultQueue.pending] using hp
  case h_2 hnext =>
    have hinHand : SqlResultQueue.inHand { q with phase := otherwise } p = [] := by
      unfold inHand
      split
      · rename_i hphase
        exact absurd hphase (hother _ _ _)
      · rfl
    rw [hinHand, List.append_nil]
    exact hp

theorem Delivered.work {q : SqlResultQueue β} (h : q.Delivered) (now : UInt32) :
    (q.work now).Delivered := by
  have hrelabel : ∀ (q : SqlResultQueue β) burst phase, q.Delivered → (∀ p, q.inHand p = []) →
      (∀ n callback high, phase ≠ .executing n callback high) →
      SqlResultQueue.Delivered { q with priorityBurst := burst, phase := phase } := by
    intro q burst phase hq hfree hphase p
    have hp := hq p
    have hinHand :
      SqlResultQueue.inHand { q with priorityBurst := burst, phase := phase } p = [] := by
      unfold inHand
      split
      · rename_i hexecuting
        exact absurd hexecuting (hphase _ _ _)
      · rfl
    rw [hfree p] at hp
    rw [hinHand]
    exact hp
  have hfree : (∀ n callback high, q.phase ≠ .executing n callback high) →
    ∀ p, q.inHand p = [] := by
    intro hphase p
    unfold inHand
    split
    · rename_i hexecuting
      exact absurd hexecuting (hphase _ _ _)
    · rfl
  unfold SqlResultQueue.work
  split
  case h_1 => exact h
  case h_2 n hphase =>
    have hnone := hfree (by simp [hphase])
    simp only [startRound]
    split
    · exact hrelabel q q.priorityBurst .idle h hnone (by simp)
    · split
      · exact hrelabel q 0 (.pollNormal n) h hnone (by simp)
      · exact hrelabel q _ (.pollHigh n) h hnone (by simp)
  case h_3 n hphase => exact h.poll (hfree (by simp [hphase])) n false (by simp)
  case h_4 n hphase => exact h.poll (hfree (by simp [hphase])) n true (by simp)
  case h_5 n hphase => exact h.poll (hfree (by simp [hphase])) n false (by simp)
  case h_6 n callback high hphase =>
    intro p
    have hp := h p
    simp only [inHand, hphase] at hp
    simpa [execute, inHand, SqlResultQueue.pending] using hp

theorem Delivered.cancel {q : SqlResultQueue β} (h : q.Delivered) (hidle : q.phase = .idle)
    (fuel : Nat) : (cancel fuel q).Delivered ∧ (cancel fuel q).phase = .idle := by
  induction fuel generalizing q with
  | zero => exact ⟨h, hidle⟩
  | succ fuel ih =>
      have hone : ∀ priority callback q', q.nextCallback priority = some (callback, q') →
          (q'.execute callback priority).Delivered ∧
            (q'.execute callback priority).phase = .idle := by
        intro priority callback q' hnext
        have htakes := nextCallback_some hnext
        refine ⟨?_, htakes.phase.trans hidle⟩
        intro p
        have hp := h p
        simp only [inHand, hidle, List.append_nil] at hp
        have hphase : (q'.execute callback priority).phase = .idle := htakes.phase.trans hidle
        simp only [inHand, hphase, List.append_nil]
        simp only [execute, ofPriority_append, ofPriority_one]
        change ofPriority p q'.executed ++ _ ++ q'.pending p = ofPriority p q'.added
        rw [htakes.executed, htakes.added, ← hp]
        by_cases hsame : p = priority
        · subst hsame
          simp [htakes.pending]
        · obtain rfl : p = !priority := by cases p <;> cases priority <;> simp_all
          rw [htakes.other]
          simp
      simp only [SqlResultQueue.cancel]
      split
      case h_1 callback q' hnext =>
        exact ih (hone true callback q' hnext).1 (hone true callback q' hnext).2
      case h_2 =>
        split
        case h_1 callback q' hnext =>
          exact ih (hone false callback q' hnext).1 (hone false callback q' hnext).2
        case h_2 => exact ⟨h, hidle⟩

theorem Delivered.step {q : SqlResultQueue β} (h : q.Delivered) (event : ResultEvent β) :
    (q.step event).Delivered := by
  cases event with
  | add callback highPriority => exact h.add callback highPriority
  | update timeout now =>
      simp only [SqlResultQueue.step, SqlResultQueue.update]
      split
      · rename_i hidle
        intro p
        have hp := h p
        simp only [inHand, hidle] at hp
        exact hp
      · exact h
  | work now => exact h.work now
  | cancelAll =>
      simp only [SqlResultQueue.step, SqlResultQueue.cancelAll]
      split
      · rename_i hidle
        exact (h.cancel hidle _).1
      · exact h

end SqlResultQueue

end TortoiseWow.Sql
