import Mathlib.Data.List.Basic

/-!
Execution of a queued transaction on a connection: the retry loop, its failing
statements and the replies of the server that can get lost.
-/

namespace TortoiseWow.Sql

structure SqlStatement (ε : Type) where
  effects : List ε

structure SqlTransaction (ε : Type) where
  queue : List (SqlStatement ε)
  retryDeadlock : Bool

def SqlTransaction.effects {ε : Type} (trans : SqlTransaction ε) : List ε :=
  trans.queue.flatMap SqlStatement.effects

/-- What was asked of the connection, with the response that came back. -/
inductive Action where
  | begin (response : Bool)
  | statement (response : Bool)
  | commit (response : Bool)
  | rollback (response : Bool)
  deriving Repr, DecidableEq

def Action.isBegin : Action → Bool
  | .begin _ => true
  | _ => false

/-- A command is done, or fails after the server has or has not carried it out. -/
inductive Reply where
  | done
  | lost (happened : Bool)
  deriving Repr, DecidableEq

def Reply.response : Reply → Bool
  | .done => true
  | .lost _ => false

def Reply.happened : Reply → Bool
  | .done => true
  | .lost happened => happened

/-- What the server does with the effects of a statement. Most wait for the COMMIT; in a
table without transactions they are kept at once; and CREATE TABLE or COMMIT ends the open
transaction, which the server keeps or, at ROLLBACK, gives up. -/
inductive Durability where
  | inTransaction
  | atOnce
  | endsTransaction (keeps : Bool)
  deriving Repr, DecidableEq

/-- A failing statement may have left some effects. -/
inductive StatementReply (ε : Type) where
  | done
  | failed (deadlock : Bool) (remains : List ε)

/-- The behaviour of the connection, from everything asked of it so far. -/
structure Script (ε : Type) where
  begin : List Action → Reply
  statement : List Action → StatementReply ε
  commit : List Action → Reply
  rollback : List Action → Reply

/-- `committed` is what the server keeps, `pending` the effects since the last
START TRANSACTION, `trace` the actions since the connection was locked. -/
structure SqlConnection (ε : Type) where
  committed : List ε
  pending : List ε
  canReplayTransaction : Bool
  statementDeadlock : Bool
  trace : List Action
  deriving Repr, DecidableEq

namespace SqlConnection

variable {ε : Type}

def lock (conn : SqlConnection ε) : SqlConnection ε := { conn with trace := [] }

def record (conn : SqlConnection ε) (action : Action) : SqlConnection ε :=
  { conn with trace := conn.trace ++ [action] }

def setStatementDeadlock (conn : SqlConnection ε) (deadlock : Bool) : SqlConnection ε :=
  { conn with statementDeadlock := deadlock }

def lastStatementWasDeadlock (conn : SqlConnection ε) : Bool := conn.statementDeadlock

def beginTransaction (script : Script ε) (conn : SqlConnection ε) : Bool × SqlConnection ε :=
  let reply := script.begin conn.trace
  let conn := conn.record (.begin reply.response)
  (reply.response,
    if reply.happened then
      { conn with committed := conn.committed ++ conn.pending, pending := [] }
    else conn)

/-- The outcome of a failed commit is unknown but final. -/
def commitTransaction (script : Script ε) (conn : SqlConnection ε) : Bool × SqlConnection ε :=
  let reply := script.commit conn.trace
  let conn := conn.record (.commit reply.response)
  (reply.response,
    if reply.happened then
      { conn with committed := conn.committed ++ conn.pending, pending := [] }
    else { conn with pending := [] })

def rollbackTransaction (script : Script ε) (conn : SqlConnection ε) : Bool × SqlConnection ε :=
  let reply := script.rollback conn.trace
  let conn := conn.record (.rollback reply.response)
  (reply.response, if reply.happened then { conn with pending := [] } else conn)

def write (conn : SqlConnection ε) (effects : List ε) : Durability → SqlConnection ε
  | .inTransaction => { conn with pending := conn.pending ++ effects }
  | .atOnce => { conn with committed := conn.committed ++ effects }
  | .endsTransaction keeps =>
      { conn with
        committed := conn.committed ++ (if keeps then conn.pending else []) ++ effects
        pending := [] }

theorem beginTransaction_trace (script : Script ε) (conn : SqlConnection ε) :
    (conn.beginTransaction script).2.trace =
      conn.trace ++ [.begin (conn.beginTransaction script).1] := by
  simp only [beginTransaction, record]
  split <;> rfl

theorem beginTransaction_committed (script : Script ε) (conn : SqlConnection ε) :
    (conn.beginTransaction script).2.committed = conn.committed ∨
      (conn.beginTransaction script).2.committed = conn.committed ++ conn.pending := by
  simp only [beginTransaction, record]
  split
  · exact Or.inr rfl
  · exact Or.inl rfl

theorem beginTransaction_begun {script : Script ε} {conn : SqlConnection ε}
    (h : (conn.beginTransaction script).1 = true) :
    (conn.beginTransaction script).2.committed = conn.committed ++ conn.pending ∧
      (conn.beginTransaction script).2.pending = [] := by
  simp only [beginTransaction, record] at h ⊢
  cases hreply : script.begin conn.trace with
  | done => exact ⟨rfl, rfl⟩
  | lost happened => simp [hreply, Reply.response] at h

theorem commitTransaction_trace (script : Script ε) (conn : SqlConnection ε) :
    (conn.commitTransaction script).2.trace =
      conn.trace ++ [.commit (conn.commitTransaction script).1] := by
  simp only [commitTransaction, record]
  split <;> rfl

theorem commitTransaction_committed (script : Script ε) (conn : SqlConnection ε) :
    (conn.commitTransaction script).2.committed = conn.committed ∨
      (conn.commitTransaction script).2.committed = conn.committed ++ conn.pending := by
  simp only [commitTransaction, record]
  split
  · exact Or.inr rfl
  · exact Or.inl rfl

theorem commitTransaction_done {script : Script ε} {conn : SqlConnection ε}
    (h : (conn.commitTransaction script).1 = true) :
    (conn.commitTransaction script).2.committed = conn.committed ++ conn.pending := by
  simp only [commitTransaction, record] at h ⊢
  cases hreply : script.commit conn.trace with
  | done => rfl
  | lost happened => simp [hreply, Reply.response] at h

theorem rollbackTransaction_trace (script : Script ε) (conn : SqlConnection ε) :
    (conn.rollbackTransaction script).2.trace =
      conn.trace ++ [.rollback (conn.rollbackTransaction script).1] := by
  simp only [rollbackTransaction, record]
  split <;> rfl

theorem rollbackTransaction_committed (script : Script ε) (conn : SqlConnection ε) :
    (conn.rollbackTransaction script).2.committed = conn.committed := by
  simp only [rollbackTransaction, record]
  split <;> rfl

theorem rollbackTransaction_done {script : Script ε} {conn : SqlConnection ε}
    (h : (conn.rollbackTransaction script).1 = true) :
    (conn.rollbackTransaction script).2.pending = [] := by
  simp only [rollbackTransaction, record] at h ⊢
  cases hreply : script.rollback conn.trace with
  | done => rfl
  | lost happened => simp [hreply, Reply.response] at h

end SqlConnection

variable {ε : Type}

/-- Where nothing else is said of the durability, a statement waits for the COMMIT. -/
def SqlStatement.execute (script : Script ε) (statement : SqlStatement ε)
    (conn : SqlConnection ε) (durability : List Action → Durability := fun _ => .inTransaction) :
    Bool × SqlConnection ε :=
  match script.statement conn.trace with
  | .done =>
      (true, { conn.write statement.effects (durability conn.trace) with
        statementDeadlock := false
        trace := conn.trace ++ [.statement true] })
  | .failed deadlock remains =>
      (false, { conn.write remains (durability conn.trace) with
        statementDeadlock := deadlock
        trace := conn.trace ++ [.statement false] })

namespace SqlTransaction

/-- The statement loop, with `failed` and `deadlock` as it leaves them. -/
def executeStatements (script : Script ε) (queue : List (SqlStatement ε))
    (conn : SqlConnection ε) (durability : List Action → Durability := fun _ => .inTransaction) :
    (Bool × Bool) × SqlConnection ε :=
  match queue with
  | [] => ((false, false), conn)
  | statement :: rest =>
      let (done, conn) := statement.execute script (conn.setStatementDeadlock false) durability
      if done then executeStatements script rest conn durability
      else ((true, conn.lastStatementWasDeadlock), conn)

/-- One round of the retry loop: the value returned, or none to go round again.
`last` says that no attempt is left. -/
def attempt (script : Script ε) (trans : SqlTransaction ε) (last : Bool)
    (conn : SqlConnection ε) (durability : List Action → Durability := fun _ => .inTransaction) :
    Option Bool × SqlConnection ε :=
  let (begun, conn) := conn.beginTransaction script
  if !begun then (some false, conn)
  else
    let ((failed, deadlock), conn) := executeStatements script trans.queue conn durability
    if !failed then
      let (committed, conn) := conn.commitTransaction script
      if committed then (some true, conn)
      else
        let (_, conn) := conn.rollbackTransaction script
        (some false, conn)
    else
      let (rolledBack, conn) := conn.rollbackTransaction script
      if !rolledBack then (some false, conn)
      else if !deadlock || last then (some false, conn)
      else (none, conn)

def executeAttempts (script : Script ε) (trans : SqlTransaction ε) (remaining : Nat)
    (conn : SqlConnection ε) (durability : List Action → Durability := fun _ => .inTransaction) :
    Bool × SqlConnection ε :=
  match remaining with
  | 0 => (false, conn)
  | remaining + 1 =>
      match trans.attempt script (remaining == 0) conn durability with
      | (some result, conn) => (result, conn)
      | (none, conn) => executeAttempts script trans remaining conn durability

def attempts (trans : SqlTransaction ε) (conn : SqlConnection ε) : Nat :=
  if trans.retryDeadlock && conn.canReplayTransaction then 3 else 1

def execute (script : Script ε) (trans : SqlTransaction ε) (conn : SqlConnection ε)
    (durability : List Action → Durability := fun _ => .inTransaction) :
    Bool × SqlConnection ε :=
  if trans.queue.isEmpty then (true, conn.lock)
  else executeAttempts script trans (trans.attempts conn) conn.lock durability

/-- The log holds what was there before, and nothing of this transaction: the
first START TRANSACTION may have committed what an earlier one left open. -/
def Untouched (conn : SqlConnection ε) (log : List ε) : Prop :=
  log = conn.committed ∨ log = conn.committed ++ conn.pending

theorem executeStatements_cons_done {script : Script ε} {conn : SqlConnection ε}
    (h : script.statement conn.trace = .done) (statement : SqlStatement ε)
    (rest : List (SqlStatement ε)) :
    executeStatements script (statement :: rest) conn =
      executeStatements script rest { conn with
        pending := conn.pending ++ statement.effects
        statementDeadlock := false
        trace := conn.trace ++ [.statement true] } := by
  simp [executeStatements, SqlStatement.execute, SqlConnection.setStatementDeadlock,
    SqlConnection.write, h]

theorem executeStatements_cons_failed {script : Script ε} {conn : SqlConnection ε}
    {deadlock : Bool} {remains : List ε}
    (h : script.statement conn.trace = .failed deadlock remains) (statement : SqlStatement ε)
    (rest : List (SqlStatement ε)) :
    executeStatements script (statement :: rest) conn =
      ((true, deadlock), { conn with
        pending := conn.pending ++ remains
        statementDeadlock := deadlock
        trace := conn.trace ++ [.statement false] }) := by
  simp [executeStatements, SqlStatement.execute, SqlConnection.setStatementDeadlock,
    SqlConnection.write, SqlConnection.lastStatementWasDeadlock, h]

/-- The statement loop only works inside the open transaction: it leaves every
effect there, or it stops at a failing statement. -/
theorem executeStatements_spec (script : Script ε) (queue : List (SqlStatement ε))
    (conn : SqlConnection ε) :
    (executeStatements script queue conn).2.committed = conn.committed ∧
      (∃ actions, (executeStatements script queue conn).2.trace = conn.trace ++ actions ∧
        ∀ action ∈ actions, action.isBegin = false) ∧
      ((executeStatements script queue conn).1.1 = false →
        (executeStatements script queue conn).2.pending =
          conn.pending ++ queue.flatMap SqlStatement.effects) := by
  induction queue generalizing conn with
  | nil => exact ⟨rfl, ⟨[], by simp [executeStatements]⟩, fun _ => by simp [executeStatements]⟩
  | cons statement rest ih =>
      cases h : script.statement conn.trace with
      | done =>
          rw [executeStatements_cons_done h]
          obtain ⟨hcommitted, ⟨actions, htrace, hbegin⟩, hpending⟩ := ih { conn with
            pending := conn.pending ++ statement.effects
            statementDeadlock := false
            trace := conn.trace ++ [.statement true] }
          refine ⟨hcommitted, ⟨.statement true :: actions, ?_, ?_⟩, ?_⟩
          · simpa using htrace
          · simpa [Action.isBegin] using hbegin
          · intro hdone
            simpa [List.append_assoc] using hpending hdone
      | failed deadlock remains =>
          rw [executeStatements_cons_failed h]
          exact ⟨rfl, ⟨[.statement false], rfl, by simp [Action.isBegin]⟩, by simp⟩

/-- What one round of the retry loop can do to the connection. The transaction
gets in once and whole, or not at all; only a lost commit leaves that open, and
the loop goes round again only over a rollback that succeeded. -/
inductive Attempted (trans : SqlTransaction ε) (last : Bool) (conn : SqlConnection ε) :
    Option Bool → SqlConnection ε → Prop where
  | committed (conn' : SqlConnection ε)
      (log : conn'.committed = conn.committed ++ conn.pending ++ trans.effects) :
      Attempted trans last conn (some true) conn'
  | untouched (conn' : SqlConnection ε) (log : Untouched conn conn'.committed) :
      Attempted trans last conn (some false) conn'
  | lostCommit (conn' : SqlConnection ε) (before : List Action) (response : Bool)
      (trace : conn'.trace = before ++ [.commit false, .rollback response])
      (log : conn'.committed = conn.committed ++ conn.pending ++ trans.effects) :
      Attempted trans last conn (some false) conn'
  | again (conn' : SqlConnection ε) (before : List Action) (left : last = false)
      (trace : conn'.trace = before ++ [.rollback true])
      (log : conn'.committed = conn.committed ++ conn.pending)
      (pending : conn'.pending = []) :
      Attempted trans last conn none conn'

theorem attempt_attempted (script : Script ε) (trans : SqlTransaction ε) (last : Bool)
    (conn : SqlConnection ε) :
    Attempted trans last conn (trans.attempt script last conn).1
      (trans.attempt script last conn).2 := by
  have hbegun := @SqlConnection.beginTransaction_begun ε script conn
  have hbegin := SqlConnection.beginTransaction_committed script conn
  unfold attempt
  generalize conn.beginTransaction script = begun at hbegun hbegin ⊢
  rcases begun with ⟨_ | _, conn₁⟩
  · exact .untouched conn₁ hbegin
  obtain ⟨hcommitted₁, hpending₁⟩ := hbegun rfl
  have hstatements := executeStatements_spec script trans.queue conn₁
  dsimp only at hcommitted₁ hpending₁ ⊢
  generalize executeStatements script trans.queue conn₁ = executed at hstatements ⊢
  rcases executed with ⟨⟨failed, deadlock⟩, conn₂⟩
  obtain ⟨hcommitted₂, -, hpending₂⟩ := hstatements
  dsimp only at hcommitted₂ hpending₂ ⊢
  cases failed with
  | false =>
      have hwhole : conn₂.committed ++ conn₂.pending =
          conn.committed ++ conn.pending ++ trans.effects := by
        rw [hcommitted₂, hcommitted₁, hpending₂ rfl, hpending₁]
        rfl
      have hdone := @SqlConnection.commitTransaction_done ε script conn₂
      have hlost := SqlConnection.commitTransaction_committed script conn₂
      have htrace₃ := SqlConnection.commitTransaction_trace script conn₂
      generalize conn₂.commitTransaction script = committed at hdone hlost htrace₃ ⊢
      rcases committed with ⟨_ | _, conn₃⟩
      · have hkeep := SqlConnection.rollbackTransaction_committed script conn₃
        have htrace₄ := SqlConnection.rollbackTransaction_trace script conn₃
        dsimp only at hlost htrace₃ ⊢
        rcases hlost with hlost | hlost
        · refine .untouched _ (Or.inr ?_)
          exact hkeep.trans (hlost.trans (hcommitted₂.trans hcommitted₁))
        · refine .lostCommit _ conn₂.trace (conn₃.rollbackTransaction script).1 ?_ ?_
          · simp [htrace₄, htrace₃]
          · exact hkeep.trans (hlost.trans hwhole)
      · exact .committed conn₃ ((hdone rfl).trans hwhole)
  | true =>
      have hkeep := SqlConnection.rollbackTransaction_committed script conn₂
      have hdone := @SqlConnection.rollbackTransaction_done ε script conn₂
      have htrace₃ := SqlConnection.rollbackTransaction_trace script conn₂
      generalize conn₂.rollbackTransaction script = rolledBack at hkeep hdone htrace₃ ⊢
      rcases rolledBack with ⟨_ | _, conn₃⟩
      · exact .untouched conn₃ (Or.inr (hkeep.trans (hcommitted₂.trans hcommitted₁)))
      · have hlog := hkeep.trans (hcommitted₂.trans hcommitted₁)
        dsimp only at htrace₃ ⊢
        by_cases hstop : (!deadlock || last) = true
        · rw [if_neg (by simp), if_neg (by simp), if_pos hstop]
          exact .untouched conn₃ (Or.inr hlog)
        · rw [if_neg (by simp), if_neg (by simp), if_neg hstop]
          have hleft : last = false := by
            cases last <;> simp_all
          exact .again conn₃ conn₂.trace hleft htrace₃ hlog (hdone rfl)

theorem attempt_trace (script : Script ε) (trans : SqlTransaction ε) (last : Bool)
    (conn : SqlConnection ε) :
    ∃ response actions,
      (trans.attempt script last conn).2.trace = conn.trace ++ .begin response :: actions ∧
        ∀ action ∈ actions, action.isBegin = false := by
  have htrace₁ := SqlConnection.beginTransaction_trace script conn
  unfold attempt
  generalize conn.beginTransaction script = begun at htrace₁ ⊢
  rcases begun with ⟨_ | _, conn₁⟩
  · exact ⟨false, [], htrace₁, by simp⟩
  obtain ⟨-, ⟨statements, htrace₂, hnone⟩, -⟩ := executeStatements_spec script trans.queue conn₁
  dsimp only at htrace₁ ⊢
  generalize executeStatements script trans.queue conn₁ = executed at htrace₂ ⊢
  rcases executed with ⟨⟨failed, deadlock⟩, conn₂⟩
  dsimp only at htrace₂ ⊢
  cases failed with
  | false =>
      have htrace₃ := SqlConnection.commitTransaction_trace script conn₂
      generalize conn₂.commitTransaction script = committed at htrace₃ ⊢
      rcases committed with ⟨_ | _, conn₃⟩
      · have htrace₄ := SqlConnection.rollbackTransaction_trace script conn₃
        dsimp only at htrace₃ ⊢
        refine ⟨true, statements ++ [.commit false,
          .rollback (conn₃.rollbackTransaction script).1], ?_, ?_⟩
        · simpa [htrace₁, htrace₂, htrace₃] using htrace₄
        · simpa [or_imp, forall_and, Action.isBegin] using hnone
      · refine ⟨true, statements ++ [.commit true], ?_, ?_⟩
        · simpa [htrace₁, htrace₂] using htrace₃
        · simpa [or_imp, forall_and, Action.isBegin] using hnone
  | true =>
      have htrace₃ := SqlConnection.rollbackTransaction_trace script conn₂
      generalize conn₂.rollbackTransaction script = rolledBack at htrace₃ ⊢
      rcases rolledBack with ⟨response, conn₃⟩
      have hround : conn₃.trace = conn.trace ++
          .begin true :: (statements ++ [.rollback response]) := by
        simpa [htrace₁, htrace₂] using htrace₃
      have hbegin : ∀ action ∈ statements ++ [Action.rollback response],
          action.isBegin = false := by
        simpa [or_imp, forall_and, Action.isBegin] using hnone
      refine ⟨true, statements ++ [.rollback response], ?_, hbegin⟩
      dsimp only
      cases response <;> cases deadlock <;> cases last <;> exact hround

/-- A second attempt begins only right after a rollback that succeeded. -/
def BeginsAfterRollback (trace : List Action) : Prop :=
  ∀ before response after, trace = before ++ .begin response :: after →
    before = [] ∨ ∃ earlier, before = earlier ++ [.rollback true]

theorem BeginsAfterRollback.round {trace actions : List Action} (h : BeginsAfterRollback trace)
    (hlast : trace = [] ∨ ∃ earlier, trace = earlier ++ [.rollback true])
    (hnone : ∀ action ∈ actions, action.isBegin = false) (response : Bool) :
    BeginsAfterRollback (trace ++ .begin response :: actions) := by
  intro before response' after heq
  rcases List.append_eq_append_iff.mp heq with ⟨rest, hbefore, hrest⟩ | ⟨rest, htrace, hrest⟩
  · cases rest with
    | nil => simpa [hbefore] using hlast
    | cons action rest =>
        have hmem : Action.begin response' ∈ actions := by
          simp only [List.cons_append, List.cons.injEq] at hrest
          simp [hrest.2]
        cases hnone _ hmem
  · cases rest with
    | nil => simpa [htrace] using hlast
    | cons action rest =>
        simp only [List.cons_append, List.cons.injEq] at hrest
        obtain ⟨rfl, -⟩ := hrest
        exact h before response' rest htrace

/-- The transaction's effects are in the log once and whole, or not at all. A
false result with the effects in the log comes of a commit whose response was
lost, after which the connection saw a rollback and nothing else. -/
structure AllOrNothing (trans : SqlTransaction ε) (conn : SqlConnection ε) (result : Bool)
    (conn' : SqlConnection ε) : Prop where
  committed : result = true →
    ∃ before, Untouched conn before ∧ conn'.committed = before ++ trans.effects
  failed : result = false → Untouched conn conn'.committed ∨
    (conn'.committed = conn.committed ++ conn.pending ++ trans.effects ∧
      ∃ before response, conn'.trace = before ++ [.commit false, .rollback response])

theorem executeAttempts_allOrNothing (script : Script ε) (trans : SqlTransaction ε)
    (remaining : Nat) (conn : SqlConnection ε) :
    AllOrNothing trans conn (executeAttempts script trans remaining conn).1
      (executeAttempts script trans remaining conn).2 := by
  induction remaining generalizing conn with
  | zero => exact ⟨fun h => by simp [executeAttempts] at h, fun _ => Or.inl (Or.inl rfl)⟩
  | succ remaining ih =>
      have hround := attempt_attempted script trans (remaining == 0) conn
      unfold executeAttempts
      generalize trans.attempt script (remaining == 0) conn = round at hround ⊢
      rcases round with ⟨returned, conn'⟩
      cases hround with
      | committed _ hlog =>
          exact ⟨fun _ => ⟨_, Or.inr rfl, hlog⟩, fun h => by simp at h⟩
      | untouched _ hlog => exact ⟨fun h => by simp at h, fun _ => Or.inl hlog⟩
      | lostCommit _ before response htrace hlog =>
          exact ⟨fun h => by simp at h, fun _ => Or.inr ⟨hlog, before, response, htrace⟩⟩
      | again _ before _ _ hlog hpending =>
          -- the next round starts over nothing but what the first one found
          have hsame : ∀ {log}, Untouched conn' log → log = conn.committed ++ conn.pending := by
            rintro log (rfl | rfl)
            · exact hlog
            · rw [hpending, List.append_nil, hlog]
          refine ⟨fun h => ?_, fun h => ?_⟩
          · obtain ⟨log, huntouched, hcommitted⟩ := (ih conn').committed h
            exact ⟨log, Or.inr (hsame huntouched), hcommitted⟩
          · rcases (ih conn').failed h with huntouched | ⟨hcommitted, hlost⟩
            · exact Or.inl (Or.inr (hsame huntouched))
            · refine Or.inr ⟨?_, hlost⟩
              rw [hcommitted, hpending, List.append_nil, hlog]

theorem executeAttempts_begins (script : Script ε) (trans : SqlTransaction ε)
    (remaining : Nat) (conn : SqlConnection ε) (h : BeginsAfterRollback conn.trace)
    (hlast : conn.trace = [] ∨ ∃ earlier, conn.trace = earlier ++ [.rollback true]) :
    BeginsAfterRollback (executeAttempts script trans remaining conn).2.trace ∧
      (executeAttempts script trans remaining conn).2.trace.countP Action.isBegin ≤
        conn.trace.countP Action.isBegin + remaining := by
  induction remaining generalizing conn with
  | zero => exact ⟨h, Nat.le_refl _⟩
  | succ remaining ih =>
      have hround := attempt_attempted script trans (remaining == 0) conn
      obtain ⟨response, actions, htrace, hnone⟩ :=
        attempt_trace script trans (remaining == 0) conn
      unfold executeAttempts
      generalize trans.attempt script (remaining == 0) conn = round at hround htrace ⊢
      rcases round with ⟨returned, conn'⟩
      dsimp only at htrace
      have hkeep : BeginsAfterRollback conn'.trace := by
        rw [htrace]
        exact h.round hlast hnone response
      have hcount : conn'.trace.countP Action.isBegin =
          conn.trace.countP Action.isBegin + 1 := by
        have hzero : actions.countP Action.isBegin = 0 := by
          simpa [List.countP_eq_zero] using hnone
        simp [htrace, List.countP_cons, Action.isBegin, hzero]
      cases returned with
      | some result => exact ⟨hkeep, by dsimp only; omega⟩
      | none =>
          cases hround with
          | again _ before _ hrollback _ _ =>
              obtain ⟨hbegins, hle⟩ := ih conn' hkeep (Or.inr ⟨before, hrollback⟩)
              exact ⟨hbegins, by dsimp only; omega⟩

/-- A transaction gets into the database once and whole, or not at all, however
the connection behaves. -/
theorem execute_allOrNothing (script : Script ε) (trans : SqlTransaction ε)
    (conn : SqlConnection ε) :
    AllOrNothing trans conn (trans.execute script conn).1 (trans.execute script conn).2 ∧
      BeginsAfterRollback (trans.execute script conn).2.trace ∧
      (trans.execute script conn).2.trace.countP Action.isBegin ≤ 3 := by
  unfold execute
  cases hqueue : trans.queue.isEmpty with
  | true =>
      have hnone : trans.effects = [] := by
        simp [effects, List.isEmpty_iff.mp hqueue]
      refine ⟨⟨fun _ => ⟨_, Or.inl rfl, ?_⟩, fun h => by simp at h⟩, ?_, ?_⟩
      · simp [hnone, SqlConnection.lock]
      · intro before response after h
        simp [SqlConnection.lock] at h
      · simp [SqlConnection.lock]
  | false =>
      have hall := executeAttempts_allOrNothing script trans (trans.attempts conn) conn.lock
      have hbegins := executeAttempts_begins script trans (trans.attempts conn) conn.lock
        (fun before response after h => by simp [SqlConnection.lock] at h) (Or.inl rfl)
      have hattempts : trans.attempts conn ≤ 3 := by
        unfold attempts
        split <;> omega
      refine ⟨⟨hall.committed, hall.failed⟩, hbegins.1, ?_⟩
      have hle := hbegins.2
      simp only [SqlConnection.lock, List.countP_nil] at hle
      simp only [Bool.false_eq_true, if_false]
      exact Nat.le_trans hle (by omega)

/-- The server commits but the response is lost, and the rollback sent after it
succeeds with nothing left to undo. -/
def lostResponse : Script Nat where
  begin _ := .done
  statement _ := .done
  commit _ := .lost true
  rollback _ := .done

def oneStatement : SqlTransaction Nat := { queue := [⟨[7]⟩], retryDeadlock := true }

def idleConnection : SqlConnection Nat :=
  { committed := [], pending := [], canReplayTransaction := true,
    statementDeadlock := false, trace := [] }

theorem committed_before_successful_rollback :
    (oneStatement.execute lostResponse idleConnection).1 = false ∧
      (oneStatement.execute lostResponse idleConnection).2.committed = [7] ∧
      (oneStatement.execute lostResponse idleConnection).2.trace =
        [.begin true, .statement true, .commit false, .rollback true] := by
  decide

end SqlTransaction

end TortoiseWow.Sql
