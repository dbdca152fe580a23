import TortoiseWow.Utilities.EventAccount

/-!
The life of the events of a processor: what is known of them from one state of a run to a
later one.
-/

namespace TortoiseWow.Utilities

namespace EventProcessor

section Later

variable {s s' s'' : EventProcessor} {event : Nat}

def executions (s : EventProcessor) (event : Nat) : List Execution :=
  s.executed.filter (·.event == event)

/-- What is known of an earlier state and a later one, but for the fate of one event. -/
structure Later (but : Option Nat) (s s' : EventProcessor) : Prop where
  executed : s.executed <+: s'.executed
  deleted : ∀ event ∈ s.deleted, event ∈ s'.deleted
  stopped : ∀ event, s.Stopped event →
    s'.Stopped event ∧ s'.executions event = s.executions event
  queued : ∀ event ∈ s.queued, some event ≠ but →
    event ∈ s'.queued ∨ event ∈ s'.deleted ∨
      ∃ x ∈ s'.executed.drop s.executed.length, x.event = event ∧ x.finished = false

/-- Nothing was executed in between. -/
theorem Later.of_executed {but : Option Nat} (hexecuted : s'.executed = s.executed)
    (hdeleted : ∀ event ∈ s.deleted, event ∈ s'.deleted)
    (hstopped : ∀ event, s.Stopped event → s'.Stopped event)
    (hqueued : ∀ event ∈ s.queued, some event ≠ but → event ∈ s'.queued ∨ event ∈ s'.deleted) :
    Later but s s' where
  executed := by rw [hexecuted]
  deleted := hdeleted
  stopped := fun event h => ⟨hstopped event h, by simp only [executions, hexecuted]⟩
  queued := fun event hmem hbut => (hqueued event hmem hbut).imp_right Or.inl

theorem Later.refl (s : EventProcessor) : Later none s s :=
  Later.of_executed rfl (fun _ h => h) (fun _ h => h) (fun _ h _ => Or.inl h)

theorem Later.trans {but : Option Nat} (h : Later but s s') (h' : Later none s' s'') :
    Later but s s'' where
  executed := h.executed.trans h'.executed
  deleted := fun event hmem => h'.deleted event (h.deleted event hmem)
  stopped := by
    intro event hstopped
    obtain ⟨hstopped', hsame⟩ := h.stopped event hstopped
    obtain ⟨hstopped'', hsame'⟩ := h'.stopped event hstopped'
    exact ⟨hstopped'', hsame'.trans hsame⟩
  queued := by
    obtain ⟨since, hsince⟩ := h.executed
    obtain ⟨since', hsince'⟩ := h'.executed
    intro event hmem hbut
    rcases h.queued event hmem hbut with hqueued | hdeleted | ⟨x, hx, hkept⟩
    · rcases h'.queued event hqueued (Option.some_ne_none event) with
        hqueued | hdeleted | ⟨x, hx, hkept⟩
      · exact Or.inl hqueued
      · exact Or.inr (Or.inl hdeleted)
      · refine Or.inr (Or.inr ⟨x, ?_, hkept⟩)
        rw [← hsince', ← hsince, List.drop_left] at hx
        rw [← hsince', ← hsince, List.append_assoc, List.drop_left]
        exact List.mem_append_right _ hx
    · exact Or.inr (Or.inl (h'.deleted event hdeleted))
    · refine Or.inr (Or.inr ⟨x, ?_, hkept⟩)
      rw [← hsince, List.drop_left] at hx
      rw [← hsince', ← hsince, List.append_assoc, List.drop_left]
      exact List.mem_append_left _ hx

theorem Later.close (h : Later (some event) s s') (hfate : event ∈ s'.queued ∨ event ∈ s'.deleted) :
    Later none s s' where
  executed := h.executed
  deleted := h.deleted
  stopped := h.stopped
  queued := by
    intro e hmem _
    by_cases heq : e = event
    · subst heq
      exact hfate.imp_right Or.inl
    · exact h.queued e hmem (fun hsome => heq (Option.some.inj hsome))

theorem Acted.later {current : Option Nat} (h : Acted current s s') : Later none s s' := by
  refine Later.of_executed h.executed ?_ (fun _ => h.stopped) (fun e hmem _ => ?_)
  · rw [h.deleted]
    exact fun _ hmem => hmem
  · exact Or.inl (h.queued e hmem)

theorem Later.setLoop {time : Nat} {events : List (Nat × Nat)} {loop : Loop}
    (hqueue : { s with time, events, loop }.queue = s.queue) :
    Later none s { s with time, events, loop } := by
  refine Later.of_executed rfl (fun _ h => h) (fun _ h => h) (fun e hmem _ => Or.inl ?_)
  simpa only [EventProcessor.queued, hqueue] using hmem

theorem Stopped.setState (h : s.Stopped event) (e : Nat) :
    (s.setState e .aborted).Stopped event := by
  obtain ⟨state, hstate, hrunning⟩ := h
  by_cases heq : e = event
  · subst heq
    refine ⟨.aborted, ?_, by simp⟩
    exact List.getElem?_set_self (List.getElem?_eq_some_iff.mp hstate).1
  · exact ⟨state, (List.getElem?_set_ne heq).trans hstate, hrunning⟩

theorem Later.abort (s : EventProcessor) (event : Nat) :
    Later none s { s.setState event .aborted with aborted := s.aborted ++ [event] } :=
  Later.of_executed rfl (fun _ h => h) (fun _ h => Stopped.setState h event)
    (fun _ h _ => Or.inl h)

theorem Later.discard (event : Nat) (hloop : s.loop = .updating) (deletable : Bool) :
    Later none s (s.discard event deletable) ∧
      (event ∈ (s.discard event deletable).queued ∨
        event ∈ (s.discard event deletable).deleted) := by
  simp only [EventProcessor.discard]
  split
  · refine ⟨Later.of_executed rfl (fun e h => List.mem_append_left _ h) (fun _ h => h)
      (fun _ h _ => Or.inl h), Or.inr ?_⟩
    exact List.mem_append_right _ (List.mem_singleton_self _)
  · have hat : s.AtEntry := by simp [AtEntry, hloop]
    have hreached : s.Reached (s.calculateTime 1) := by simp [Reached, hloop]
    have hqueued : (s.addEvent event (s.calculateTime 1)).queued.Perm (event :: s.queued) :=
      (queue_addEvent hat hreached).map Prod.snd
    obtain ⟨-, hstates, hexecuted, -, hdeleted⟩ := addEvent_frame s event (s.calculateTime 1)
    refine ⟨Later.of_executed hexecuted ?_ ?_ ?_, Or.inl ?_⟩
    · rw [hdeleted]
      exact fun _ h => h
    · intro e hstopped
      simpa only [Stopped, hstates] using hstopped
    · intro e hmem _
      exact Or.inl (hqueued.mem_iff.mpr (List.mem_cons_of_mem _ hmem))
    · exact hqueued.mem_iff.mpr (List.mem_cons_self ..)

/-- The first entry is taken out. -/
theorem Later.pop {execTime : Nat} {rest : List (Nat × Nat)} (hloop : s.loop = .updating)
    (hevents : s.events = (execTime, event) :: rest) :
    Later (some event) s { s with events := rest } := by
  refine Later.of_executed rfl (fun _ h => h) (fun _ h => h) (fun e hmem hbut => Or.inl ?_)
  simp only [EventProcessor.queued, queue, hloop, hevents, List.map_cons] at hmem ⊢
  rcases List.mem_cons.mp hmem with rfl | hmem
  · exact absurd rfl hbut
  · exact hmem

theorem Later.updateRound (h : s.Account) (hloop : s.loop = .updating) {answer : Answer}
    (hproper : s.ProperStep (.round answer)) : Later none s (s.updateRound answer) := by
  have hround := updateRound_cases h hloop hproper
  generalize s.updateRound answer = s' at hround ⊢
  cases hround with
  | leave _ => exact Later.setLoop (by simp only [queue, hloop])
  | @execute execTime event rest acted hevents hdue hstate haccount hacted _ =>
      have hlater := (Later.pop hloop hevents).trans hacted.later
      have hsame := hacted.executed
      refine ⟨?_, ?_, ?_, ?_⟩
      · exact hlater.executed.trans (List.prefix_append _ _)
      · intro e hmem
        have hmem := hlater.deleted e hmem
        change e ∈ (if answer.finished then acted.deleted ++ [event] else acted.deleted)
        split
        · exact List.mem_append_left _ hmem
        · exact hmem
      · intro e hstopped
        have hne : event ≠ e := by
          intro heq
          subst heq
          obtain ⟨state, hstate', hrunning⟩ := hstopped
          rw [hstate] at hstate'
          exact hrunning (Option.some.inj hstate').symm
        obtain ⟨hstopped', hexecutions⟩ := hlater.stopped e hstopped
        refine ⟨hstopped', ?_⟩
        rw [← hexecutions]
        simp [executions, List.filter_append, hne]
      · intro e hmem _
        by_cases heq : e = event
        · subst heq
          cases hfinished : answer.finished with
          | true => exact Or.inr (Or.inl (by simp))
          | false =>
              refine Or.inr (Or.inr ⟨⟨e, execTime, acted.time, false⟩, ?_, rfl, rfl⟩)
              simp [hsame]
        · rcases hlater.queued e hmem (fun hsome => heq (Option.some.inj hsome)) with
            hqueued | hdeleted | ⟨x, hx, -⟩
          · exact Or.inl hqueued
          · refine Or.inr (Or.inl ?_)
            change e ∈ (if answer.finished then acted.deleted ++ [event] else acted.deleted)
            split
            · exact List.mem_append_left _ hdeleted
            · exact hdeleted
          · rw [hsame, List.drop_length] at hx
            cases hx
  | @abort execTime event rest acted hevents hstate haccount hacted _ htime =>
      have hloop' : acted.loop = .updating := (hacted.still (by simp [hloop])).trans hloop
      have hlater := (Later.pop hloop hevents).trans (hacted.later.trans (Later.abort acted event))
      obtain ⟨hdiscard, hfate⟩ := Later.discard event
        (s := { acted.setState event .aborted with aborted := acted.aborted ++ [event] })
        hloop' answer.deletable
      exact (hlater.trans hdiscard).close hfate
  | @again execTime event rest hevents hstate htime =>
      obtain ⟨hdiscard, hfate⟩ := Later.discard event (s := { s with events := rest })
        hloop answer.deletable
      exact ((Later.pop hloop hevents).trans hdiscard).close hfate

theorem Later.pass {execTime : Nat} {rest : List (Nat × Nat)} {force final : Bool}
    {passed : List (Nat × Nat)} (hloop : s.loop = .killing force final passed)
    (hevents : s.events = (execTime, event) :: rest) (deletable : Bool) :
    Later none s (s.pass deletable) := by
  have hgone : ∀ (passed rest : List (Nat × Nat)) (e : Nat),
      e ∈ (passed ++ (execTime, event) :: rest).map Prod.snd →
        e ∈ (passed ++ rest).map Prod.snd ∨ e ∈ s.deleted ++ [event] := by
    intro passed rest e hmem
    rcases List.mem_cons.mp ((List.perm_middle.map Prod.snd).mem_iff.mp hmem) with rfl | hmem
    · exact Or.inr (List.mem_append_right _ (List.mem_singleton_self _))
    · exact Or.inl hmem
  simp only [EventProcessor.pass, hloop, hevents]
  cases force with
  | true =>
      simp only [Bool.not_true, Bool.false_and, Bool.false_eq_true, if_false, if_true]
      refine Later.of_executed rfl (fun e h => List.mem_append_left _ h) (fun _ h => h) ?_
      intro e hmem _
      simp only [EventProcessor.queued, queue, hloop, hevents] at hmem ⊢
      exact hgone [] rest e hmem
  | false =>
      cases deletable with
      | true =>
          simp only [Bool.not_true, Bool.and_false, Bool.false_eq_true, if_false]
          have hsame : (s.delete event).loop = .killing false final passed := hloop
          refine Later.of_executed rfl (fun e h => List.mem_append_left _ h) (fun _ h => h) ?_
          intro e hmem _
          simp only [EventProcessor.queued, queue, hloop, hevents, hsame] at hmem ⊢
          exact hgone passed rest e hmem
      | false =>
          simp only [Bool.not_false, Bool.and_self, if_true]
          refine Later.setLoop ?_
          simp only [queue, hloop, hevents, List.append_assoc, List.cons_append, List.nil_append]

theorem Later.killRound (h : s.Account) {force final : Bool} {passed : List (Nat × Nat)}
    (hloop : s.loop = .killing force final passed) {answer : Answer}
    (hproper : s.ProperStep (.round answer)) :
    Later none s (s.killRound force final passed answer) := by
  have hround := killRound_cases h hloop hproper
  generalize s.killRound force final passed answer = s' at hround ⊢
  cases hround with
  | @leave force final passed hevents hloop =>
      refine Later.setLoop ?_
      cases force <;> cases final <;> simp [queue, hloop, hevents]
  | again hevents haborted => exact Later.pass hloop hevents answer.deletable
  | @abort execTime event rest rest' acted hevents hstate haccount hacted _ hevents' =>
      obtain ⟨passed', hloop', -⟩ := hacted.killing force final passed hloop
      exact (Later.abort s event).trans
        (hacted.later.trans (Later.pass hloop' hevents' answer.deletable))

theorem Later.step (h : s.Account) {e : ProcessorEvent} (hproper : s.ProperStep e) :
    Later none s (s.step e) := by
  cases hloop : s.loop with
  | idle =>
      cases e with
      | act action =>
          simp only [ProperStep, hloop] at hproper
          simp only [EventProcessor.step, hloop]
          have hat : s.AtEntry := by simp [AtEntry, hloop]
          obtain ⟨-, -, hacted⟩ :=
            act_proper h hat hproper (fun event offset _ => Option.some_ne_none event)
          exact hacted.later
      | update pTime =>
          simp only [EventProcessor.step, hloop]
          exact Later.setLoop (by simp only [queue, hloop])
      | killAllEvents force =>
          simp only [EventProcessor.step, hloop]
          refine Later.setLoop ?_
          cases force <;> simp only [queue, hloop, List.nil_append]
      | destroy =>
          simp only [EventProcessor.step, hloop]
          exact Later.setLoop (by simp only [queue, hloop])
      | round answer => simpa only [EventProcessor.step, hloop] using Later.refl s
  | updating =>
      cases e with
      | round answer =>
          simp only [EventProcessor.step, hloop]
          exact Later.updateRound h hloop hproper
      | act | update | killAllEvents | destroy =>
          simpa only [EventProcessor.step, hloop] using Later.refl s
  | killing force final passed =>
      cases e with
      | round answer =>
          simp only [EventProcessor.step, hloop]
          exact Later.killRound h hloop hproper
      | act | update | killAllEvents | destroy =>
          simpa only [EventProcessor.step, hloop] using Later.refl s
  | destroyed => simpa only [EventProcessor.step, hloop] using Later.refl s

/-- Of any two states of a run. -/
theorem Later.run {events : List ProcessorEvent} (h : s.Account)
    (hproper : Lib.Along EventProcessor.step ProperStep s events) :
    Later none s (s.run events) := by
  induction events generalizing s with
  | nil => exact Later.refl s
  | cons e events ih => exact (Later.step h hproper.1).trans (ih (h.step hproper.1) hproper.2)

end Later

section Stops

variable {s : EventProcessor}

def Calls (s : EventProcessor) (event : Nat) : Prop :=
  s.states[event]? ≠ some .aborted ∧ ∃ execTime rest, s.events = (execTime, event) :: rest ∧
    match s.loop with
    | .updating => execTime ≤ s.time
    | .killing _ _ _ => True
    | .idle | .destroyed => False

/-- The events that a step reaches are stopped: those whose abort is scheduled, and the one
at the iterator of KillAllEvents, which is aborted. -/
def Stops (s : EventProcessor) : ProcessorEvent → Prop
  | .act (.scheduleAbort event) =>
      s.loop = .idle → (s.step (.act (.scheduleAbort event))).Stopped event
  | .round answer =>
      (∀ event other, s.Calls event → .scheduleAbort other ∈ answer.actions →
        (s.step (.round answer)).Stopped other) ∧
      ∀ force final passed entry rest, s.loop = .killing force final passed →
        s.events = entry :: rest → entry.2 ∈ (s.step (.round answer)).aborted ∧
          (s.step (.round answer)).Stopped entry.2
  | _ => True

theorem pass_frame (s : EventProcessor) (deletable : Bool) :
    (s.pass deletable).states = s.states ∧ (s.pass deletable).aborted = s.aborted := by
  unfold pass
  split
  · split
    · exact ⟨rfl, rfl⟩
    · split <;> exact ⟨rfl, rfl⟩
  · exact ⟨rfl, rfl⟩

theorem stops_updateRound (h : s.Account) (hloop : s.loop = .updating) {answer : Answer}
    (hproper : s.ProperStep (.round answer)) {event other : Nat} (hcalls : s.Calls event)
    (hmem : .scheduleAbort other ∈ answer.actions) : (s.updateRound answer).Stopped other := by
  obtain ⟨hstate', execTime', rest', hevents', hdue'⟩ := hcalls
  simp only [hloop] at hdue'
  have hround := updateRound_cases h hloop hproper
  generalize s.updateRound answer = s' at hround ⊢
  cases hround with
  | leave hlate => exact absurd hdue' (hlate _ _ _ hevents')
  | execute hevents hdue hstate haccount hacted hstops => exact hstops other hmem
  | @abort execTime event rest acted hevents hstate haccount hacted hstops htime =>
      have hloop' : acted.loop = .updating := (hacted.still (by simp [hloop])).trans hloop
      have hstopped := ((Later.abort acted event).stopped other (hstops other hmem)).1
      obtain ⟨hdiscard, -⟩ := Later.discard event
        (s := { acted.setState event .aborted with aborted := acted.aborted ++ [event] })
        hloop' answer.deletable
      exact (hdiscard.stopped other hstopped).1
  | again hevents hstate htime =>
      rw [hevents] at hevents'
      cases hevents'
      exact absurd hstate hstate'

theorem stops_killRound (h : s.Account) {force final : Bool} {passed : List (Nat × Nat)}
    (hloop : s.loop = .killing force final passed) {answer : Answer}
    (hproper : s.ProperStep (.round answer)) :
    (∀ event other, s.Calls event → .scheduleAbort other ∈ answer.actions →
      (s.killRound force final passed answer).Stopped other) ∧
    ∀ entry rest, s.events = entry :: rest →
      entry.2 ∈ (s.killRound force final passed answer).aborted := by
  have hround := killRound_cases h hloop hproper
  generalize s.killRound force final passed answer = s' at hround ⊢
  cases hround with
  | leave hevents hloop =>
      simp [Calls, hevents]
  | again hevents haborted =>
      obtain ⟨-, hkept⟩ := pass_frame s answer.deletable
      refine ⟨fun event other hcalls _ => ?_, fun entry rest hevents' => ?_⟩
      · obtain ⟨hstate, _, _, hevents', -⟩ := hcalls
        rw [hevents] at hevents'
        cases hevents'
        exact absurd ((h.states _).mp haborted) hstate
      · rw [hevents] at hevents'
        cases hevents'
        rw [hkept]
        exact haborted
  | @abort execTime event rest rest' acted hevents hstate haccount hacted hstops hevents' =>
      obtain ⟨hstates, hkept⟩ := pass_frame acted answer.deletable
      refine ⟨fun event other hcalls hmem => ?_, fun entry rest'' hevents'' => ?_⟩
      · simpa only [Stopped, hstates] using hstops other hmem
      · rw [hevents] at hevents''
        cases hevents''
        rw [hkept, hacted.aborted]
        exact List.mem_append_right _ (List.mem_singleton_self _)

theorem stops_step (h : s.Account) {e : ProcessorEvent} (hproper : s.ProperStep e) : s.Stops e := by
  cases e with
  | act action =>
      cases action with
      | create | addEvent => trivial
      | scheduleAbort event =>
          intro hloop
          simp only [ProperStep, hloop] at hproper
          simp only [step, hloop, act, if_pos hproper.1]
          have hlt := (List.getElem?_eq_some_iff.mp hproper.1).1
          exact ⟨.abortScheduled, List.getElem?_set_self hlt, by simp⟩
  | update | killAllEvents | destroy => trivial
  | round answer =>
      cases hloop : s.loop with
      | idle | destroyed =>
          refine ⟨fun event other hcalls => ?_, fun force final passed entry rest heq => ?_⟩
          · obtain ⟨-, _, _, -, habsurd⟩ := hcalls
            simp only [hloop] at habsurd
          · rw [hloop] at heq
            cases heq
      | updating =>
          refine ⟨fun event other hcalls hmem => ?_, fun force final passed entry rest heq => ?_⟩
          · simp only [step, hloop]
            exact stops_updateRound h hloop hproper hcalls hmem
          · rw [hloop] at heq
            cases heq
      | killing force final passed =>
          obtain ⟨hstops, haborted⟩ := stops_killRound h hloop hproper
          have haccount := (h.step hproper).states
          simp only [Stops, step, hloop] at haccount ⊢
          refine ⟨hstops, fun _ _ _ entry rest _ hevents => ?_⟩
          have hmem := haborted entry rest hevents
          exact ⟨hmem, .aborted, (haccount _).mp hmem, by simp⟩

end Stops

section Destructor

variable {s : EventProcessor}

/-- The destructor kills by force, and nothing is left when it ends. -/
def Closing (s : EventProcessor) : Prop :=
  match s.loop with
  | .killing force final _ => final = true → force = true
  | .destroyed => s.events = []
  | .idle | .updating => True

theorem Closing.pass {force final : Bool} {passed : List (Nat × Nat)}
    (hloop : s.loop = .killing force final passed) (hclosing : final = true → force = true)
    (deletable : Bool) : (s.pass deletable).Closing := by
  cases hevents : s.events with
  | nil => simpa only [EventProcessor.pass, hloop, hevents, Closing] using hclosing
  | cons entry rest =>
      simp only [EventProcessor.pass, hloop, hevents]
      split
      · exact hclosing
      · split
        · exact hclosing
        · simpa only [Closing, EventProcessor.delete, hloop] using hclosing

theorem closing_of_loop (hloop : s.loop = .idle ∨ s.loop = .updating) : s.Closing := by
  rcases hloop with hloop | hloop <;> simp only [Closing, hloop]

theorem Closing.updateRound (h : s.Account) (hloop : s.loop = .updating) {answer : Answer}
    (hproper : s.ProperStep (.round answer)) : (s.updateRound answer).Closing := by
  have hdiscard : ∀ {t : EventProcessor} (event : Nat), t.loop = .updating →
      (t.discard event answer.deletable).Closing := by
    intro t event hloop
    refine closing_of_loop (Or.inr ?_)
    simp only [EventProcessor.discard]
    split
    · exact hloop
    · rw [addEvent_loop (by simp [hloop])]
      exact hloop
  have hround := updateRound_cases h hloop hproper
  generalize s.updateRound answer = s' at hround ⊢
  cases hround with
  | leave _ => exact closing_of_loop (Or.inl rfl)
  | execute _ _ _ _ hacted _ =>
      exact closing_of_loop (Or.inr ((hacted.still (by simp [hloop])).trans hloop))
  | abort _ _ _ hacted _ _ => exact hdiscard _ ((hacted.still (by simp [hloop])).trans hloop)
  | again _ _ _ => exact hdiscard _ hloop

theorem Closing.killRound (h : s.Account) {force final : Bool} {passed : List (Nat × Nat)}
    (hloop : s.loop = .killing force final passed) (hclosing : final = true → force = true)
    {answer : Answer} (hproper : s.ProperStep (.round answer)) :
    (s.killRound force final passed answer).Closing := by
  have hround := killRound_cases h hloop hproper
  generalize s.killRound force final passed answer = s' at hround ⊢
  cases hround with
  | leave hevents hloop' =>
      rw [hloop] at hloop'
      cases hloop'
      cases final with
      | true => simp [Closing, leaveKilling, hclosing]
      | false => exact closing_of_loop (Or.inl rfl)
  | again _ _ => exact Closing.pass hloop hclosing answer.deletable
  | abort _ _ _ hacted _ _ =>
      obtain ⟨passed', hloop', -⟩ := hacted.killing force final passed hloop
      exact Closing.pass hloop' hclosing answer.deletable

theorem Closing.step (h : s.Account) (hclosing : s.Closing) {e : ProcessorEvent}
    (hproper : s.ProperStep e) : (s.step e).Closing := by
  cases hloop : s.loop with
  | idle =>
      cases e with
      | act action =>
          simp only [ProperStep, hloop] at hproper
          simp only [EventProcessor.step, hloop]
          have hat : s.AtEntry := by simp [AtEntry, hloop]
          obtain ⟨-, -, hacted⟩ :=
            act_proper h hat hproper (fun event offset _ => Option.some_ne_none event)
          exact closing_of_loop (Or.inl ((hacted.still (by simp [hloop])).trans hloop))
      | update | killAllEvents | destroy => simp [EventProcessor.step, hloop, Closing]
      | round answer => simpa only [EventProcessor.step, hloop] using hclosing
  | updating =>
      cases e with
      | round answer =>
          simp only [EventProcessor.step, hloop]
          exact Closing.updateRound h hloop hproper
      | act | update | killAllEvents | destroy =>
          simpa only [EventProcessor.step, hloop] using hclosing
  | killing force final passed =>
      simp only [Closing, hloop] at hclosing
      cases e with
      | round answer =>
          simp only [EventProcessor.step, hloop]
          exact Closing.killRound h hloop hclosing hproper
      | act | update | killAllEvents | destroy =>
          simpa only [EventProcessor.step, hloop, Closing] using hclosing
  | destroyed => simpa only [EventProcessor.step, hloop] using hclosing

end Destructor

/-- The life of every event, in a run in which no handler that KillAllEvents by force calls
adds an event before the iterator. -/
theorem life_cycle {events : List ProcessorEvent}
    (hproper : Lib.Along step ProperStep {} events) :
    Lib.Along step Stops {} events ∧
      (∀ before after, events = before ++ after → Later none (run {} before) (run {} events)) ∧
      (run {} events).executed.Pairwise (·.execTime ≤ ·.execTime) ∧
      (∀ x ∈ (run {} events).executed, x.execTime ≤ x.time) ∧
      (run {} events).aborted.Nodup ∧
      ((run {} events).queued ++ (run {} events).deleted).Nodup ∧
      (∀ event ∈ (run {} events).deleted, event ∈ (run {} events).aborted ∨
        ∃ x ∈ (run {} events).executed, x.event = event ∧ x.finished = true) ∧
      (∀ x ∈ (run {} events).executed, x.finished = true →
        x.event ∈ (run {} events).deleted ∧ x.event ∉ (run {} events).aborted) ∧
      ((run {} events).loop = .destroyed → (run {} events).queued = []) := by
  have hkeep : ∀ (s : EventProcessor) (e : ProcessorEvent), s.Account ∧ s.Closing →
      s.ProperStep e → (s.step e).Account ∧ (s.step e).Closing := fun s e h hstep =>
    ⟨h.1.step hstep, h.2.step h.1 hstep⟩
  have hinit : ({} : EventProcessor).Account ∧ ({} : EventProcessor).Closing :=
    ⟨Account.init, trivial⟩
  obtain ⟨haccount, hclosing⟩ : (run {} events).Account ∧ (run {} events).Closing :=
    Lib.run_invariant hkeep hinit hproper
  refine ⟨Lib.along_of_invariant hkeep (fun s e h => stops_step h.1) hinit hproper, ?_,
    haccount.order, fun x hmem => (haccount.due x hmem).1, haccount.aborted, haccount.nodup,
    haccount.reason, haccount.finished, ?_⟩
  · intro before after heq
    subst heq
    obtain ⟨hbefore, hafter⟩ := (Lib.along_append step ProperStep _ before after).mp hproper
    obtain ⟨haccount', -⟩ : (run {} before).Account ∧ (run {} before).Closing :=
      Lib.run_invariant hkeep hinit hbefore
    have hlater := Later.run haccount' hafter
    simpa only [run, Lib.run_append] using hlater
  · intro hloop
    simp only [Closing, hloop] at hclosing
    simp only [queued, queue, hloop, hclosing, List.map_nil]

/-- The first event schedules the abort of the second when it is executed, and the third
adds a fourth when the destructor aborts it. -/
def fourEvents : List ProcessorEvent :=
  [.act .create, .act .create, .act .create, .act (.addEvent 0 10), .act (.addEvent 1 20),
    .act (.addEvent 2 30), .update 15, .round { actions := [.scheduleAbort 1] }, .round {},
    .update 10, .round {}, .round {}, .destroy,
    .round { actions := [.create, .addEvent 3 5] }, .round {}, .round {}]

theorem fourEvents_proper : Lib.Along step ProperStep {} fourEvents := by
  simp [fourEvents, ProperStep, ProperUpdate, ProperAll, Proper, Outside, Reached, step, act,
    addEvent, calculateTime, queued, queue, updateRound, killRound, pass, setState, delete,
    discard, actAll, Lib.MultiMap.emplaceEntries]

theorem fourEvents_life :
    (run {} fourEvents).loop = .destroyed ∧ (run {} fourEvents).queued = [] := by
  have hloop : (run {} fourEvents).loop = .destroyed := by decide
  exact ⟨hloop, (life_cycle fourEvents_proper).2.2.2.2.2.2.2.2 hloop⟩

/-- The event that an Abort handler adds before the iterator is dropped. -/
theorem dropped_by_destructor :
    let s := run {} [.act .create, .act .create, .act (.addEvent 0 1000), .destroy,
      .round { actions := [.addEvent 1 10] }]
    1 ∈ s.entries.map Prod.snd ∧ (s.step (.round {})).loop = .destroyed ∧
      (s.step (.round {})).entries = [] ∧ 1 ∉ (s.step (.round {})).aborted ∧
      1 ∉ (s.step (.round {})).deleted := by
  decide

end EventProcessor

end TortoiseWow.Utilities
