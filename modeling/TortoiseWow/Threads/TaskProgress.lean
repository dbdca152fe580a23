import TortoiseWow.Lib.Fairness
import TortoiseWow.Threads.MapTaskExecutor

/-!
Every queued map task is executed, if each worker and each call of Submit gets its turn again
and again. A task that is queued comes forward with each task that is taken, and while there is
one to take, some worker is on its way to it or a call is about to wake one.
-/

namespace TortoiseWow.Threads

namespace MapTaskExecutor

/-- Every worker and every call of Submit gets its turn again and again. -/
structure Fair (schedule : Nat → TaskEvent) : Prop where
  work : ∀ i k, ∃ m, k ≤ m ∧ schedule m = .work i
  submit : ∀ call k, ∃ m, k ≤ m ∧ ∃ chosen fails, schedule m = .submit call chosen fails

def Ahead (task : Nat) : Nat → MapTaskExecutor → Prop
  | 0, s => ∃ i : Nat, s.workers[i]? = some (.running task)
  | p + 1, s => ∃ front back, s.queue = front ++ task :: back ∧ front.length = p

section Steps

variable {s : MapTaskExecutor} {count i k task p : Nat}

theorem workers_step {phase : WorkerPhase} (hi : s.workers[i]? = some phase)
    (hphase : phase ≠ .waiting) {e : TaskEvent} (hother : e ≠ .work i) :
    (s.step e).workers[i]? = some phase := by
  have hset : ∀ {j : Nat} (phase' : WorkerPhase), j ≠ i →
      (s.workers.set j phase')[i]? = some phase :=
    fun _ hne => (List.getElem?_set_ne hne).trans hi
  have hwaits : ∀ {j : Nat}, s.workers[j]? = some .waiting → j ≠ i := by
    rintro j hj rfl
    exact hphase (Option.some.inj (hi.symm.trans hj))
  cases e with
  | call => exact hi
  | submit k chosen fails =>
      simp only [step, submit]
      split
      · split_ifs <;> exact hi
      · obtain ⟨j, hj, heq⟩ | ⟨-, heq⟩ := s.notifyOne_cases chosen
        · rw [heq]
          exact hset _ (hwaits hj)
        · rw [heq]
          exact hi
      · exact hi
      · exact hi
  | work j =>
      have hne : j ≠ i := fun heq => hother (congrArg _ heq)
      simp only [step, work]
      split
      · split
        · split <;> exact hset _ hne
        · exact hset _ hne
      · exact hset _ hne
      · exact hi
  | wake j =>
      simp only [step, wake]
      split
      · next hj => exact hset _ (hwaits hj)
      · exact hi
  | stop =>
      simp only [step, stopStep]
      split
      · exact hi
      · change (s.workers.map _)[i]? = _
        rw [List.getElem?_map, hi]
        exact congrArg some (if_neg hphase)
      · split <;> exact hi
      · exact hi

theorem submissions_step (hk : s.submissions[k]? = some .notifying) {e : TaskEvent}
    (hother : ∀ chosen fails, e ≠ .submit k chosen fails) :
    (s.step e).submissions[k]? = some .notifying := by
  cases e with
  | call =>
      exact (List.getElem?_append_left (List.getElem?_eq_some_iff.mp hk).1).trans hk
  | submit j chosen fails =>
      have hset : ∀ phase, (s.submissions.set j phase)[k]? = some .notifying := fun phase =>
        (List.getElem?_set_ne fun heq => hother chosen fails (by rw [heq])).trans hk
      simp only [step, submit]
      split
      · split_ifs <;> exact hset _
      · obtain ⟨i, -, heq⟩ | ⟨-, heq⟩ := s.notifyOne_cases chosen
        all_goals
          rw [heq]
          exact hset _
      · exact hset _
      · exact hk
  | work j =>
      simp only [step, work]
      split
      · split
        · split <;> exact hk
        · exact hk
      · exact hk
      · exact hk
  | wake j =>
      simp only [step, wake]
      split <;> exact hk
  | stop =>
      simp only [step, stopStep]
      split
      · exact hk
      · exact hk
      · split <;> exact hk
      · exact hk

theorem work_take (hi : s.workers[i]? = some .checking) {rest : List Nat}
    (hqueue : s.queue = task :: rest) :
    s.work i = { s with queue := rest }.setWorker i (.running task) := by
  simp [work, hi, hqueue]

theorem queue_step (s : MapTaskExecutor) (e : TaskEvent) :
    (∃ new, (s.step e).queue = s.queue ++ new) ∨
      ∃ (i first : Nat) (rest : List Nat), s.queue = first :: rest ∧ (s.step e).queue = rest ∧
        (s.step e).workers[i]? = some (.running first) := by
  have same : ∀ {t : MapTaskExecutor}, t.queue = s.queue → ∃ new, t.queue = s.queue ++ new :=
    fun heq => ⟨[], heq.trans (List.append_nil _).symm⟩
  cases e with
  | call => exact Or.inl (same rfl)
  | submit k chosen fails =>
      refine Or.inl ?_
      simp only [step, submit]
      split
      · split_ifs
        · exact same rfl
        · exact same rfl
        · exact same rfl
        · exact same rfl
        · exact ⟨[k], rfl⟩
      · obtain ⟨j, -, heq⟩ | ⟨-, heq⟩ := s.notifyOne_cases chosen <;> rw [heq] <;> exact same rfl
      · exact same rfl
      · exact same rfl
  | work j =>
      rw [step]
      cases hj : s.workers[j]? with
      | none => exact Or.inl (same (by simp only [work, hj]))
      | some phase =>
          cases phase with
          | checking =>
              cases hqueue : s.queue with
              | nil =>
                  refine Or.inl ⟨[], ?_⟩
                  simp only [work, hj, hqueue, ne_eq, not_true_eq_false, or_false]
                  split <;> exact hqueue
              | cons first rest =>
                  refine Or.inr ⟨j, first, rest, rfl, ?_⟩
                  rw [work_take hj hqueue]
                  exact ⟨rfl, List.getElem?_set_self (List.getElem?_eq_some_iff.mp hj).1⟩
          | waiting | exited => exact Or.inl (same (by simp only [work, hj]))
          | running =>
              refine Or.inl (same ?_)
              simp only [work, hj]
              rfl
  | wake j =>
      refine Or.inl ?_
      simp only [step, wake]
      split <;> exact same rfl
  | stop =>
      refine Or.inl ?_
      simp only [step, stopStep]
      split
      · exact same rfl
      · exact same rfl
      · split <;> exact same rfl
      · exact same rfl

theorem Ahead.step (h : Ahead task (p + 1) s) (e : TaskEvent) :
    Ahead task (p + 1) (s.step e) ∨ Ahead task p (s.step e) := by
  obtain ⟨front, back, hqueue, hlength⟩ := h
  obtain ⟨new, hnew⟩ | ⟨i, first, rest, hfirst, hrest, hruns⟩ := s.queue_step e
  · refine Or.inl ⟨front, back ++ new, ?_, hlength⟩
    rw [hnew, hqueue, List.append_assoc, List.cons_append]
  · right
    rw [hqueue] at hfirst
    cases front with
    | nil =>
        cases hfirst
        subst hlength
        exact ⟨i, hruns⟩
    | cons other front =>
        cases hfirst
        subst hlength
        exact ⟨front, back, hrest, rfl⟩

theorem Sound.busy (h : s.Sound count) (hahead : Ahead task (p + 1) s)
    (hnone : .waiting ∉ s.workers) :
    ∃ i : Nat, s.workers[i]? = some .checking ∨ ∃ t, s.workers[i]? = some (.running t) := by
  obtain ⟨front, back, hqueue, -⟩ := hahead
  have hsome : s.queue ≠ [] := by simp [hqueue]
  obtain ⟨phase, hmem⟩ := List.exists_mem_of_ne_nil _ fun hnil => hsome (h.halting.empty hnil)
  obtain ⟨i, hi⟩ := List.mem_iff_getElem?.mp hmem
  refine ⟨i, ?_⟩
  cases phase with
  | checking => exact Or.inl hi
  | waiting => exact absurd hmem hnone
  | running t => exact Or.inr ⟨t, hi⟩
  | exited => exact absurd (h.halting.exited hmem).2 hsome

/-- While a task is queued, a worker is on its way or a call is about to wake one. -/
theorem Sound.ready (h : s.Sound count) (hahead : Ahead task (p + 1) s) :
    (∃ i : Nat, s.workers[i]? = some .checking ∨ ∃ t, s.workers[i]? = some (.running t)) ∨
      ∃ k : Nat, s.submissions[k]? = some .notifying := by
  by_cases hwaits : .waiting ∈ s.workers
  · have hawaited := h.awaited hwaits
    obtain ⟨front, back, hqueue, -⟩ := hahead
    rw [hqueue, List.length_append, List.length_cons] at hawaited
    by_cases howes : 0 < Lib.weight SubmitPhase.owes s.submissions
    · obtain ⟨phase, hmem, hpos⟩ := Lib.weight_pos howes
      obtain ⟨k, hk⟩ := List.mem_iff_getElem?.mp hmem
      cases phase with
      | notifying => exact Or.inr ⟨k, hk⟩
      | entered | inlined | returned | thrown => cases hpos
    · obtain ⟨phase, hmem, hpos⟩ : ∃ phase ∈ s.workers, 0 < phase.looks :=
        Lib.weight_pos (by omega)
      obtain ⟨i, hi⟩ := List.mem_iff_getElem?.mp hmem
      cases phase with
      | checking => exact Or.inl ⟨i, Or.inl hi⟩
      | waiting | running | exited => cases hpos
  · exact Or.inl (h.busy hahead hwaits)

end Steps

section Progress

variable {s : MapTaskExecutor} {count : Nat} {schedule : Nat → TaskEvent}

theorem ahead_of_checking (hinv : ∀ m, (Lib.follow step s schedule m).Sound count)
    (hfair : Fair schedule) (task p i : Nat) : Lib.LeadsTo step s schedule
      (fun s => Ahead task (p + 1) s ∧ s.workers[i]? = some .checking) (Ahead task p) := by
  refine Lib.leadsTo_of_again hinv (· = .work i) (hfair.work i) ?_ ?_
  · intro s e _ ⟨hahead, hi⟩ hother
    exact (hahead.step e).imp_left fun hahead => ⟨hahead, workers_step hi nofun hother⟩
  · rintro s _ - ⟨⟨front, back, hqueue, rfl⟩, hi⟩ rfl
    have hlt := (List.getElem?_eq_some_iff.mp hi).1
    cases front with
    | nil =>
        rw [step, work_take hi hqueue]
        exact ⟨i, List.getElem?_set_self hlt⟩
    | cons other front =>
        rw [step, work_take hi hqueue]
        exact ⟨front, back, rfl, rfl⟩

theorem ahead_of_running (hinv : ∀ m, (Lib.follow step s schedule m).Sound count)
    (hfair : Fair schedule) (task p i t : Nat) : Lib.LeadsTo step s schedule
      (fun s => Ahead task (p + 1) s ∧ s.workers[i]? = some (.running t)) (Ahead task p) := by
  refine Lib.LeadsTo.trans (Lib.leadsTo_of_again hinv (· = .work i) (hfair.work i) ?_ ?_)
    ((ahead_of_checking hinv hfair task p i).or .refl)
  · intro s e _ ⟨hahead, hi⟩ hother
    exact (hahead.step e).elim (fun hahead => Or.inl ⟨hahead, workers_step hi nofun hother⟩)
      fun hahead => Or.inr (Or.inr hahead)
  · rintro s _ - ⟨hahead, hi⟩ rfl
    refine (hahead.step (.work i)).imp_left fun hahead => ⟨hahead, ?_⟩
    simp only [step, work, hi]
    exact List.getElem?_set_self (List.getElem?_eq_some_iff.mp hi).1

/-- The call wakes a worker, or there is none to wake. -/
theorem ahead_of_notifying (hinv : ∀ m, (Lib.follow step s schedule m).Sound count)
    (hfair : Fair schedule) (task p k : Nat) : Lib.LeadsTo step s schedule
      (fun s => Ahead task (p + 1) s ∧ s.submissions[k]? = some .notifying) (Ahead task p) := by
  have hbusy : Lib.LeadsTo step s schedule (fun s => Ahead task (p + 1) s ∧ ∃ i : Nat,
      s.workers[i]? = some .checking ∨ ∃ t, s.workers[i]? = some (.running t)) (Ahead task p) := by
    rintro k ⟨hahead, i, hi | ⟨t, hi⟩⟩
    · exact ahead_of_checking hinv hfair task p i k ⟨hahead, hi⟩
    · exact ahead_of_running hinv hfair task p i t k ⟨hahead, hi⟩
  refine Lib.LeadsTo.trans (Lib.leadsTo_of_again hinv
    (fun e => ∃ chosen fails, e = .submit k chosen fails) (hfair.submit k) ?_ ?_)
    (hbusy.or .refl)
  · intro s e _ ⟨hahead, hk⟩ hother
    exact (hahead.step e).elim
      (fun hahead => Or.inl ⟨hahead, submissions_step hk fun c f heq => hother ⟨c, f, heq⟩⟩)
      fun hahead => Or.inr (Or.inr hahead)
  · rintro s _ hsound ⟨hahead, hk⟩ ⟨chosen, fails, rfl⟩
    refine (hahead.step (.submit k chosen fails)).imp_left fun hahead' => ⟨hahead', ?_⟩
    simp only [step, submit, hk]
    obtain ⟨i, hi, heq⟩ | ⟨hnone, heq⟩ := s.notifyOne_cases chosen
    · rw [heq]
      exact ⟨i, Or.inl (List.getElem?_set_self (List.getElem?_eq_some_iff.mp hi).1)⟩
    · rw [heq]
      exact hsound.busy hahead hnone

theorem ahead_taken (hinv : ∀ m, (Lib.follow step s schedule m).Sound count)
    (hfair : Fair schedule) (task p : Nat) :
    Lib.LeadsTo step s schedule (Ahead task p) (Ahead task 0) := by
  induction p with
  | zero => exact .refl
  | succ p ih =>
      refine Lib.LeadsTo.trans (fun k hahead => ?_) ih
      obtain ⟨i, hi | ⟨t, hi⟩⟩ | ⟨call, hcall⟩ := (hinv k).ready hahead
      · exact ahead_of_checking hinv hfair task p i k ⟨hahead, hi⟩
      · exact ahead_of_running hinv hfair task p i t k ⟨hahead, hi⟩
      · exact ahead_of_notifying hinv hfair task p call k ⟨hahead, hcall⟩

theorem Sound.executions_eq (h : s.Sound count) {task i : Nat}
    (hmem : (task, some i) ∈ s.executed) : ∃ j, j < count ∧ s.executions task = [some j] := by
  have hpos : 0 < s.byWorker task := List.countP_pos_iff.mpr ⟨_, hmem, by simp⟩
  have hqueued := h.accounted.queued task
  have hinlined := h.accounted.inlined task
  rw [enqueued] at hqueued
  rw [ranInline] at hinlined
  have hphase : s.byWorker task = 1 ∧ s.byCaller task = 0 := by
    cases hk : s.submissions[task]? with
    | none =>
        rw [hk] at hqueued
        simp at hqueued
        omega
    | some phase =>
        rw [hk] at hqueued hinlined
        cases phase with
        | entered | inlined | thrown =>
            simp [SubmitPhase.enqueued] at hqueued
            omega
        | notifying =>
            simp [SubmitPhase.enqueued, SubmitPhase.ranInline] at hqueued hinlined
            omega
        | returned inlineWork =>
            cases inlineWork <;>
              simp [SubmitPhase.enqueued, SubmitPhase.ranInline] at hqueued hinlined <;> omega
  obtain ⟨j, hj, hone⟩ := executions_worker hphase.1 hphase.2
  exact ⟨j, h.length ▸ h.accounted.executor task j hj, hone⟩

theorem executes_queued (h : s.Sound count) (hfair : Fair schedule) {task : Nat}
    {phase : SubmitPhase} (hphase : s.submissions[task]? = some phase) (hone : phase.enqueued = 1) :
    ∃ m i, i < count ∧ (Lib.follow step s schedule m).executions task = [some i] := by
  have hinv : ∀ m, (Lib.follow step s schedule m).Sound count :=
    Lib.follow_always (fun _ e h => h.step e) h
  have hruns : ∀ i : Nat, Lib.LeadsTo step s schedule
      (fun s => s.workers[i]? = some (.running task)) fun s => (task, some i) ∈ s.executed := by
    intro i
    refine Lib.leadsTo_of_again hinv (· = .work i) (hfair.work i) ?_ ?_
    · exact fun s e _ hi hother => Or.inl (workers_step hi nofun hother)
    · rintro s _ - hi rfl
      simp only [step, work, hi]
      exact List.mem_append_right _ (List.mem_singleton_self _)
  have hahead : ∀ p, Ahead task p s → ∃ m i, i < count ∧
      (Lib.follow step s schedule m).executions task = [some i] := by
    intro p hahead
    obtain ⟨k, -, i, hi⟩ := ahead_taken hinv hfair task p 0 hahead
    obtain ⟨m, -, hmem⟩ := hruns i k hi
    exact ⟨m, (hinv m).executions_eq hmem⟩
  rcases (h.served hphase).of_enqueued hone with ⟨-, hmem | hmem⟩ | hdone
  · obtain ⟨front, back, hqueue⟩ := List.append_of_mem hmem
    exact hahead (front.length + 1) ⟨front, back, hqueue, rfl⟩
  · exact hahead 0 (List.mem_iff_getElem?.mp hmem)
  · exact ⟨0, hdone⟩

end Progress

/-- For any number of workers and any interleaving: how each task was executed, that all
queued ones were before Stop returned, the bound of the queue, that a waiting worker leaves no
task without a wake-up under way, nor the stop, and that under a fair schedule every queued task
is executed. -/
theorem tasks_served (count : Nat) (events : List TaskEvent) :
    let s := (start count).run events
    (∀ task phase, s.submissions[task]? = some phase → s.Served count task phase) ∧
      (s.stop = .done → ∀ task phase, s.submissions[task]? = some phase → phase.enqueued = 1 →
        ∃ i, i < count ∧ s.executions task = [some i]) ∧
      s.queue.length ≤ 256 ∧ s.Awaited ∧
      (.waiting ∈ s.workers → s.stop = .off ∨ s.stop = .notifying) ∧
      ∀ schedule, Fair schedule → ∀ task phase, s.submissions[task]? = some phase →
        phase.enqueued = 1 → ∃ m i, i < count ∧
          (Lib.follow step s schedule m).executions task = [some i] := by
  have hsound := sound_in_every_state count events
  refine ⟨fun task phase hphase => hsound.served hphase, ?_, hsound.halting.bounded,
    hsound.awaited, ?_, fun schedule hfair task phase hphase hone =>
      executes_queued hsound hfair hphase hone⟩
  · intro hdone task phase hphase hone
    obtain ⟨hqueue, hrunning⟩ := hsound.drained hdone
    rcases (hsound.served hphase).of_enqueued hone with ⟨-, hwaits⟩ | hexecuted
    · rcases hwaits with hwaits | hwaits
      · rw [hqueue] at hwaits
        exact absurd hwaits (by simp)
      · exact absurd hwaits (hrunning task)
    · exact hexecuted
  · intro hmem
    by_contra hstop
    simp only [not_or] at hstop
    exact hsound.halting.woken hstop.1 hstop.2 hmem

end MapTaskExecutor

end TortoiseWow.Threads
