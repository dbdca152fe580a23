import TortoiseWow.Sql.Migrations

/-!
What a migration that fails leaves: in the tables, in the open transaction of the connection
and in the transaction of the thread.
-/

namespace TortoiseWow.Sql

variable {ε : Type} {script : Script ε}

namespace SqlConnection

end SqlConnection

namespace SqlTransaction

/-- What the statements leave in the tables when the transaction they stand in is given up at
the end, each with what the server does with its effects: those that are kept at once, and
with a statement that ends a transaction and keeps it what is open by then. -/
def durable : List ε → List (Durability × List ε) → List ε
  | _, [] => []
  | opened, (.inTransaction, effects) :: rest => durable (opened ++ effects) rest
  | opened, (.atOnce, effects) :: rest => effects ++ durable opened rest
  | opened, (.endsTransaction keeps, effects) :: rest =>
      (if keeps then opened else []) ++ effects ++ durable [] rest

theorem durable_nothing {opened : List ε} {ran : List (Durability × List ε)}
    (waits : ∀ entry ∈ ran, entry.1 = .inTransaction) : durable opened ran = [] := by
  induction ran generalizing opened with
  | nil => rfl
  | cons entry rest ih =>
      obtain ⟨durability, effects⟩ := entry
      obtain rfl : durability = .inTransaction := waits _ List.mem_cons_self
      exact ih fun entry member => waits entry (List.mem_cons_of_mem _ member)

/-- What the COMMIT would keep of them. -/
theorem durable_whole {opened : List ε} {ran : List (Durability × List ε)}
    (waits : ∀ entry ∈ ran, entry.1 = .inTransaction) :
    durable opened (ran ++ [(.endsTransaction true, [])]) = opened ++ ran.flatMap Prod.snd := by
  induction ran generalizing opened with
  | nil => simp [durable]
  | cons entry rest ih =>
      obtain ⟨durability, effects⟩ := entry
      obtain rfl : durability = .inTransaction := waits _ List.mem_cons_self
      have later := @ih (opened ++ effects) fun entry member =>
        waits entry (List.mem_cons_of_mem _ member)
      rw [List.flatMap_cons, ← List.append_assoc]
      exact later

/-- The statements of a queue that were sent. All of them were carried out, or the last one
failed and left a part of its effects. -/
structure Ran (durability : List Action → Durability) (queue : List (SqlStatement ε))
    (failed : Bool) (ran : List (Durability × List ε)) : Prop where
  durability : ∀ entry ∈ ran, ∃ trace, entry.1 = durability trace
  all : failed = false → ran.map Prod.snd = queue.map SqlStatement.effects
  upTo : failed = true → ∃ done statement rest remains,
    queue = done ++ statement :: rest ∧
      ran.map Prod.snd = done.map SqlStatement.effects ++ [remains]

variable {durability : List Action → Durability}

theorem Ran.cons {queue : List (SqlStatement ε)} {failed : Bool}
    {ran : List (Durability × List ε)} (h : Ran durability queue failed ran)
    (statement : SqlStatement ε) (trace : List Action) :
    Ran durability (statement :: queue) failed
      ((durability trace, statement.effects) :: ran) := by
  refine ⟨fun entry member => ?_, fun whole => ?_, fun part => ?_⟩
  · cases List.mem_cons.mp member with
    | inl first => exact ⟨trace, congrArg Prod.fst first⟩
    | inr later => exact h.durability entry later
  · rw [List.map_cons, List.map_cons, h.all whole]
  · obtain ⟨done, failing, rest, remains, split, effects⟩ := h.upTo part
    refine ⟨statement :: done, failing, rest, remains, ?_, ?_⟩
    · rw [split, List.cons_append]
    · rw [List.map_cons, effects, List.map_cons, List.cons_append]

/-- What the tables hold after the statement loop, and would hold after a COMMIT. -/
structure Settled (conn : SqlConnection ε) (ran : List (Durability × List ε))
    (conn' : SqlConnection ε) : Prop where
  committed : conn'.committed = conn.committed ++ durable conn.pending ran
  whole : conn'.committed ++ conn'.pending =
    conn.committed ++ durable conn.pending (ran ++ [(.endsTransaction true, [])])

theorem Settled.cons {conn conn₁ conn' : SqlConnection ε} {ran : List (Durability × List ε)}
    (h : Settled conn₁ ran conn') (durability : Durability) (effects : List ε)
    (committed : conn₁.committed = (conn.write effects durability).committed)
    (pending : conn₁.pending = (conn.write effects durability).pending) :
    Settled conn ((durability, effects) :: ran) conn' := by
  obtain ⟨tables, whole⟩ := h
  rw [committed, pending] at tables whole
  cases durability <;>
    simp only [SqlConnection.write, List.append_assoc] at tables whole <;>
    exact ⟨by simpa only [durable, List.append_assoc] using tables,
      by simpa only [durable, List.cons_append, List.append_assoc] using whole⟩

/-- What a refused transaction leaves in the tables: nothing, if it did not begin; what its
statements made durable before it was given up; and all of them after a COMMIT that the
server carried out but whose response was lost. -/
def LeftCommitted (durability : List Action → Durability) (trans : SqlTransaction ε)
    (conn conn' : SqlConnection ε) : Prop :=
  Untouched conn conn'.committed ∨ ∃ failed ran, Ran durability trans.queue failed ran ∧
    (conn'.committed = conn.committed ++ conn.pending ++ durable [] ran ∨
      failed = false ∧
        conn'.committed = conn.committed ++ conn.pending ++
          durable [] (ran ++ [(.endsTransaction true, [])]) ∧
        ∃ before response, conn'.trace = before ++ [.commit false, .rollback response])

theorem LeftCommitted.waiting {trans : SqlTransaction ε} {conn conn' : SqlConnection ε}
    (h : LeftCommitted durability trans conn conn')
    (waits : ∀ trace, durability trace = .inTransaction) :
    Untouched conn conn'.committed ∨
      conn'.committed = conn.committed ++ conn.pending ++ trans.effects ∧
        ∃ before response, conn'.trace = before ++ [.commit false, .rollback response] := by
  obtain untouched | ⟨failed, ran, sent, given | ⟨all, lost, trace⟩⟩ := h
  · exact .inl untouched
  · have waiting : ∀ entry ∈ ran, entry.1 = .inTransaction := fun entry member =>
      (sent.durability entry member).choose_spec.trans (waits _)
    rw [durable_nothing waiting, List.append_nil] at given
    exact .inl (.inr given)
  · have waiting : ∀ entry ∈ ran, entry.1 = .inTransaction := fun entry member =>
      (sent.durability entry member).choose_spec.trans (waits _)
    rw [durable_whole waiting, List.nil_append, List.flatMap_def, sent.all all,
      ← List.flatMap_def] at lost
    exact .inr ⟨lost, trace⟩

end SqlTransaction

end TortoiseWow.Sql

namespace TortoiseWow.DBUpdater

open Lib Sql

section Updates

variable (stored : Migration → List Migration)

end Updates

def emptyDatabase : Database where
  conn := {
    committed := []
    pending := []
    canReplayTransaction := false
    statementDeadlock := false
    trace := [] }

def fileOf (fileData : String) : FileMigration :=
  { hash := "00".toList, name := "a".toList, moduleName := [], fileData := fileData.toList,
    modifiedAt := 0 }

/-- A file that ends inside a string is refused after the transaction was begun, and nothing
ends it: the next BeginTransaction of the thread fails. -/
theorem open_string_keeps_transaction :
    emptyDatabase.beginTransaction.1 = true ∧
    (executeUpdate (fun migration => [migration]) (fun _ => smooth) (fileOf "DO 'a;")
      emptyDatabase).1 = false ∧
    (executeUpdate (fun migration => [migration]) (fun _ => smooth) (fileOf "DO 'a;")
      emptyDatabase).2.beginTransaction.1 = false := by
  decide +kernel

end TortoiseWow.DBUpdater
