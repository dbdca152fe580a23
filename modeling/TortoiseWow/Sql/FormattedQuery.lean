import TortoiseWow.Lib.CString
import Mathlib.Data.Multiset.AddSub

/-!
The calls that take a format and its arguments. Each of them prints into a buffer of its own
and gives the buffer to the call that takes a text. What `printf` makes of a format and its
arguments, and what a connection answers, are parameters.
-/

namespace TortoiseWow.FormattedSql

open Lib

def maxQueryLen : Nat := 32 * 1024

def intMax : Nat := 2147483647

/-- The value returned and what is in the buffer, from the whole text that the format and the
arguments make; none where printing it fails. A length that is no `int` is an error too. -/
def vsnprintf (size : Nat) : Option CString → Int × CString
  | some text =>
      if text.length ≤ intMax then (text.length, text.take (size - 1))
        else (-1, text.take (size - 1))
  | none => (-1, [])

/-- What a call returns (true also for a result that is not null), what it logs and what it
leaves. -/
structure Outcome (σ : Type) where
  ok : Bool
  errors : List CString
  state : σ

def Outcome.map {σ τ : Type} (f : σ → τ) (outcome : Outcome σ) : Outcome τ :=
  { outcome with state := f outcome.state }

/-- `sent` has the texts that went to a connection at once, `logged` the lines of the SQL
log, whose name is that of the day. -/
structure Database where
  asyncConn : Bool
  allowAsyncTransactions : Bool
  resultQueue : Bool
  logSQL : Bool
  logName : CString
  logOpens : Bool
  transaction : Option (List CString)
  delayQueue : List CString
  sent : List CString
  logged : List CString

structure SqlQueryHolder where
  queries : List (Option CString)

def truncatedError (format : CString) : CString :=
  "SQL Query truncated (and not execute) for format: ".toList ++ format

def loggingError (logName : CString) : CString :=
  "SQL-Logging is disabled - Log file for the SQL commands could not be openend: ".toList ++ logName

def emptyError (index : Nat) : CString :=
  "Query (index: ".toList ++ decimal index ++ ") is empty.".toList

def rangeError (index size : Nat) (sql : CString) : CString :=
  "Query index (".toList ++ decimal index ++ ") out of range (size: ".toList ++ decimal size ++
    ") for query: ".toList ++ sql

def storedError (index : Nat) (old sql : CString) : CString :=
  "Attempt assign query to holder index (".toList ++ decimal index ++
    ") where other query stored (Old: [".toList ++ old ++ "] New: [".toList ++ sql ++ "])".toList

section Calls

variable {α : Type} (printf : CString → α → Option CString) (reply : CString → Bool)

/-- The body that the calls share, with what they log for a missing format. -/
def formatted {σ : Type} (missing : List CString) (next : CString → σ → Outcome σ)
    (format : Option CString) (args : α) (s : σ) : Outcome σ :=
  match format with
  | none => ⟨false, missing, s⟩
  | some format =>
      let (res, szQuery) := vsnprintf maxQueryLen (printf format args)
      if res = -1 then ⟨false, [truncatedError format], s⟩
      else next (cstr szQuery) s

namespace Database

/-- `Query` and `QueryNamed`: a connection of the pool is asked. -/
def query (sql : CString) (db : Database) : Outcome Database :=
  ⟨reply sql, [], { db with sent := db.sent ++ [sql] }⟩

def directExecute (sql : CString) (db : Database) : Outcome Database :=
  if db.asyncConn then ⟨reply sql, [], { db with sent := db.sent ++ [sql] }⟩
  else ⟨false, [], db⟩

def execute (sql : CString) (db : Database) : Outcome Database :=
  if db.asyncConn then
    match db.transaction with
    | some queue => ⟨true, [], { db with transaction := some (queue ++ [sql]) }⟩
    | none =>
        if db.allowAsyncTransactions then
          ⟨true, [], { db with delayQueue := db.delayQueue ++ [sql] }⟩
        else db.directExecute reply sql
  else ⟨false, [], db⟩

def asyncQuery (sql : CString) (db : Database) : Outcome Database :=
  if db.resultQueue then ⟨true, [], { db with delayQueue := db.delayQueue ++ [sql] }⟩
  else ⟨false, [], db⟩

def executeLog (sql : CString) (db : Database) : Outcome Database :=
  if db.logSQL then
    if db.logOpens then
      { db with logged := db.logged ++ [sql ++ ";\n".toList] }.execute reply sql
    else
      let outcome := db.execute reply sql
      { outcome with errors := loggingError db.logName :: outcome.errors }
  else db.execute reply sql

def pQuery : Option CString → α → Database → Outcome Database :=
  formatted printf [] (query reply)

def pQueryNamed : Option CString → α → Database → Outcome Database :=
  formatted printf [] (query reply)

def pExecute : Option CString → α → Database → Outcome Database :=
  formatted printf [] (execute reply)

def pExecuteCallback : Option CString → α → Database → Outcome Database :=
  formatted printf [] (execute reply)

def directPExecute : Option CString → α → Database → Outcome Database :=
  formatted printf [] (directExecute reply)

def pExecuteLog : Option CString → α → Database → Outcome Database :=
  formatted printf [] (executeLog reply)

def asyncPQuery : Option CString → α → Database → Outcome Database :=
  formatted printf [] asyncQuery

end Database

namespace SqlQueryHolder

def setQuery (index : Nat) (sql : CString) (holder : SqlQueryHolder) : Outcome SqlQueryHolder :=
  match holder.queries[index]? with
  | none => ⟨false, [rangeError index holder.queries.length sql], holder⟩
  | some (some old) => ⟨false, [storedError index old sql], holder⟩
  | some none => ⟨true, [], { queries := holder.queries.set index (some sql) }⟩

def setPQuery (index : Nat) : Option CString → α → SqlQueryHolder → Outcome SqlQueryHolder :=
  formatted printf [emptyError index] (setQuery index)

end SqlQueryHolder

/-- Where a statement can be put. -/
structure World where
  db : Database
  holder : SqlQueryHolder

inductive Entry where
  | pQuery
  | pQueryNamed
  | pExecute
  | pExecuteCallback
  | directPExecute
  | pExecuteLog
  | asyncPQuery
  | setPQuery (index : Nat)

def Entry.call (entry : Entry) (format : Option CString) (args : α) (w : World) : Outcome World :=
  let onDatabase := Outcome.map fun db => { w with db }
  match entry with
  | .pQuery => onDatabase (w.db.pQuery printf reply format args)
  | .pQueryNamed => onDatabase (w.db.pQueryNamed printf reply format args)
  | .pExecute => onDatabase (w.db.pExecute printf reply format args)
  | .pExecuteCallback => onDatabase (w.db.pExecuteCallback printf reply format args)
  | .directPExecute => onDatabase (w.db.directPExecute printf reply format args)
  | .pExecuteLog => onDatabase (w.db.pExecuteLog printf reply format args)
  | .asyncPQuery => onDatabase (w.db.asyncPQuery printf format args)
  | .setPQuery index =>
      (w.holder.setPQuery printf index format args).map fun holder => { w with holder }

/-- Whether the call takes a text at all: there is a connection for writes, a queue for the
results, a free place in the holder. -/
def Entry.Accepts (w : World) : Entry → Prop
  | .pQuery | .pQueryNamed => True
  | .pExecute | .pExecuteCallback | .directPExecute | .pExecuteLog => w.db.asyncConn = true
  | .asyncPQuery => w.db.resultQueue = true
  | .setPQuery index => w.holder.queries[index]? = some none

end Calls

def Database.given (db : Database) : Multiset CString :=
  ↑(db.transaction.getD []) + ↑db.delayQueue + ↑db.sent

def SqlQueryHolder.given (holder : SqlQueryHolder) : Multiset CString :=
  ↑(holder.queries.filterMap id)

def World.given (w : World) : Multiset CString := w.db.given + w.holder.given

section Handing

variable {σ τ α : Type}

/-- The whole text is handed over, or nothing is and the caller is told. -/
def CompleteOrRefused (given : σ → Multiset CString) (text : Option CString) (s : σ)
    (outcome : Outcome σ) : Prop :=
  (∃ whole, text = some whole ∧ given outcome.state = whole ::ₘ given s) ∨
    outcome.ok = false ∧ given outcome.state = given s

def Fits (text : CString) : Prop := text.length < maxQueryLen ∧ '\x00' ∉ text

/-- What a call that takes a text does with it. -/
structure Hands (given : σ → Multiset CString) (accepts : Prop) (next : CString → σ → Outcome σ)
    (s : σ) : Prop where
  accepted : accepts → ∀ sql, given (next sql s).state = sql ::ₘ given s
  refused : ¬ accepts → ∀ sql, (next sql s).ok = false ∧ given (next sql s).state = given s

theorem buffer_eq_iff {text : CString} :
    cstr (text.take (maxQueryLen - 1)) = text ↔ Fits text := by
  constructor
  · intro same
    have short : text.length ≤ maxQueryLen - 1 := by
      have le :
        (cstr (text.take (maxQueryLen - 1))).length ≤ (text.take (maxQueryLen - 1)).length :=
        (List.takeWhile_prefix _).length_le
      rw [same, List.length_take] at le
      omega
    rw [List.take_of_length_le short, cstr_eq_self_iff] at same
    exact ⟨Nat.lt_of_le_pred (by decide) short, same⟩
  · intro fits
    have short : text.length ≤ maxQueryLen - 1 := Nat.le_pred_of_lt fits.1
    rw [List.take_of_length_le short, cstr_eq_self_iff]
    exact fits.2

variable (printf : CString → α → Option CString)

/-- The buffer goes on however long the text is. -/
theorem formatted_sent {format text : CString} {args : α} (printed : printf format args = some text)
    (representable : text.length ≤ intMax) (missing : List CString)
    (next : CString → σ → Outcome σ) (s : σ) :
    formatted printf missing next (some format) args s =
      next (cstr (text.take (maxQueryLen - 1))) s := by
  have length : ¬ (text.length : Int) = -1 := by omega
  simp only [formatted, printed, vsnprintf, if_pos representable, if_neg length]

theorem formatted_refused {format : CString} {args : α}
    (failed : ∀ text, printf format args = some text → ¬ text.length ≤ intMax)
    (missing : List CString) (next : CString → σ → Outcome σ) (s : σ) :
    formatted printf missing next (some format) args s = ⟨false, [truncatedError format], s⟩ := by
  cases printed : printf format args with
  | none => simp only [formatted, printed, vsnprintf, if_true]
  | some text =>
      simp only [formatted, printed, vsnprintf, if_neg (failed text printed), if_true]

theorem formatted_complete_iff {given : σ → Multiset CString} {accepts : Prop}
    {next : CString → σ → Outcome σ} {s : σ} (hands : Hands given accepts next s)
    (missing : List CString) (format : Option CString) (args : α) :
    CompleteOrRefused given (format.bind fun format => printf format args) s
        (formatted printf missing next format args s) ↔
      ¬ accepts ∨ ∀ text, (format.bind fun format => printf format args) = some text →
        text.length ≤ intMax → Fits text := by
  cases format with
  | none =>
      constructor
      · exact fun _ => Or.inr fun _ none => absurd none.symm (Option.some_ne_none _)
      · exact fun _ => Or.inr ⟨rfl, rfl⟩
  | some format =>
      rw [Option.bind_some]
      by_cases sent : ∃ text, printf format args = some text ∧ text.length ≤ intMax
      · obtain ⟨text, printed, representable⟩ := sent
        rw [formatted_sent printf printed representable]
        have condition : (∀ whole, printf format args = some whole → whole.length ≤ intMax →
            Fits whole) ↔ Fits text := by
          simp only [printed, Option.some.injEq, forall_eq', representable, forall_const]
        rw [condition, ← buffer_eq_iff]
        by_cases taken : accepts
        · have put := hands.accepted taken (cstr (text.take (maxQueryLen - 1)))
          have more : ∀ sql, ¬ sql ::ₘ given s = given s := fun sql same => by
            simpa using congrArg Multiset.card same
          simp only [CompleteOrRefused, put, printed, Option.some.injEq, exists_eq_left',
            Multiset.cons_inj_left, more, and_false, or_false, taken, not_true, false_or]
        · exact ⟨fun _ => Or.inl taken, fun _ => Or.inr (hands.refused taken _)⟩
      · have failed : ∀ text, printf format args = some text → ¬ text.length ≤ intMax :=
          fun text printed representable => sent ⟨text, printed, representable⟩
        rw [formatted_refused printf failed]
        constructor
        · exact fun _ => Or.inr fun text printed representable =>
            absurd representable (failed text printed)
        · exact fun _ => Or.inr ⟨rfl, rfl⟩

theorem completeOrRefused_map {givenσ : σ → Multiset CString} {givenτ : τ → Multiset CString}
    {f : σ → τ} {rest : Multiset CString} (frame : ∀ s, givenτ (f s) = givenσ s + rest)
    (text : Option CString) (s : σ) (outcome : Outcome σ) :
    CompleteOrRefused givenτ text (f s) (outcome.map f) ↔
      CompleteOrRefused givenσ text s outcome := by
  simp only [CompleteOrRefused, Outcome.map, frame, ← Multiset.cons_add, add_left_inj]

end Handing

theorem coe_snoc (texts : List CString) (sql : CString) :
    (↑(texts ++ [sql]) : Multiset CString) = sql ::ₘ ↑texts := by
  rw [← Multiset.coe_add, Multiset.coe_singleton, Multiset.add_comm, Multiset.singleton_add]

namespace Database

variable (reply : CString → Bool) (db : Database)

theorem given_sent (sql : CString) :
    { db with sent := db.sent ++ [sql] }.given = sql ::ₘ db.given := by
  simp only [given, coe_snoc, Multiset.add_cons]

theorem given_delayed (sql : CString) :
    { db with delayQueue := db.delayQueue ++ [sql] }.given = sql ::ₘ db.given := by
  simp only [given, coe_snoc, Multiset.add_cons, Multiset.cons_add]

theorem given_queued {queue : List CString} (begun : db.transaction = some queue)
    (sql : CString) :
    { db with transaction := some (queue ++ [sql]) }.given = sql ::ₘ db.given := by
  simp only [given, begun, Option.getD_some, coe_snoc, Multiset.cons_add]

theorem hands_query : Hands given True (query reply) db where
  accepted _ sql := db.given_sent sql
  refused no := absurd trivial no

theorem hands_directExecute : Hands given (db.asyncConn = true) (directExecute reply) db where
  accepted conn sql := by
    rw [directExecute, if_pos conn]
    exact db.given_sent sql
  refused none sql := by
    rw [directExecute, if_neg none]
    exact ⟨rfl, rfl⟩

theorem hands_execute : Hands given (db.asyncConn = true) (execute reply) db where
  accepted conn sql := by
    cases begun : db.transaction with
    | some queue =>
        simp only [execute, if_pos conn, begun]
        exact db.given_queued begun sql
    | none =>
        cases allowed : db.allowAsyncTransactions with
        | true =>
            have put := db.given_delayed sql
            simp only [execute, if_pos conn, begun, allowed, if_true] at put ⊢
            exact put
        | false =>
            simp only [execute, if_pos conn, begun, allowed]
            exact (db.hands_directExecute reply).accepted conn sql
  refused none sql := by
    rw [execute, if_neg none]
    exact ⟨rfl, rfl⟩

/-- Apart from the log it is the plain call, on a database with another line in the log. -/
theorem executeLog_base (sql : CString) :
    ∃ base : Database, base.given = db.given ∧ base.asyncConn = db.asyncConn ∧
      (db.executeLog reply sql).ok = (base.execute reply sql).ok ∧
      (db.executeLog reply sql).state = (base.execute reply sql).state := by
  rw [executeLog]
  split
  · split
    · exact ⟨{ db with logged := db.logged ++ [sql ++ ";\n".toList] }, rfl, rfl, rfl, rfl⟩
    · exact ⟨db, rfl, rfl, rfl, rfl⟩
  · exact ⟨db, rfl, rfl, rfl, rfl⟩

theorem hands_executeLog : Hands given (db.asyncConn = true) (executeLog reply) db where
  accepted conn sql := by
    obtain ⟨base, same, connection, _, state⟩ := db.executeLog_base reply sql
    rw [state, ← same]
    exact (base.hands_execute reply).accepted (connection.trans conn) sql
  refused none sql := by
    obtain ⟨base, same, connection, ok, state⟩ := db.executeLog_base reply sql
    rw [ok, state, ← same]
    exact (base.hands_execute reply).refused (fun conn => none (connection.symm.trans conn)) sql

theorem hands_asyncQuery : Hands given (db.resultQueue = true) asyncQuery db where
  accepted queue sql := by
    rw [asyncQuery, if_pos queue]
    exact db.given_delayed sql
  refused none sql := by
    rw [asyncQuery, if_neg none]
    exact ⟨rfl, rfl⟩

end Database

theorem filterMap_set_free {queries : List (Option CString)} {index : Nat}
    (free : queries[index]? = some none) (sql : CString) :
    (↑((queries.set index (some sql)).filterMap id) : Multiset CString) =
      sql ::ₘ ↑(queries.filterMap id) := by
  induction queries generalizing index with
  | nil => cases free
  | cons query queries ih =>
      cases index with
      | zero =>
          have empty : query = none := Option.some.inj free
          rw [empty]
          rfl
      | succ index =>
          have ih := ih free
          cases query with
          | none => exact ih
          | some query =>
              change query ::ₘ ↑((queries.set index (some sql)).filterMap id) =
                sql ::ₘ query ::ₘ ↑(queries.filterMap id)
              rw [ih]
              exact Multiset.cons_swap query sql _

theorem SqlQueryHolder.hands_setQuery (index : Nat) (holder : SqlQueryHolder) :
    Hands given (holder.queries[index]? = some none) (setQuery index) holder where
  accepted free sql := by
    simp only [setQuery, free]
    exact filterMap_set_free free sql
  refused taken sql := by
    cases found : holder.queries[index]? with
    | none =>
        simp only [setQuery, found]
        exact ⟨trivial, trivial⟩
    | some query =>
        cases query with
        | none => exact absurd found taken
        | some old =>
            simp only [setQuery, found]
            exact ⟨trivial, trivial⟩

/-- Each call hands over the whole text or refuses, except where it takes a text, the text can
be printed and does not fit. -/
theorem call_complete_iff {α : Type} (printf : CString → α → Option CString)
    (reply : CString → Bool) (entry : Entry) (format : Option CString) (args : α) (w : World) :
    CompleteOrRefused World.given (format.bind fun format => printf format args) w
        (entry.call printf reply format args w) ↔
      ¬ entry.Accepts w ∨ ∀ text, (format.bind fun format => printf format args) = some text →
        text.length ≤ intMax → Fits text := by
  have onDatabase := @completeOrRefused_map Database World Database.given World.given
    (fun db => { w with db }) w.holder.given (fun _ => rfl)
    (format.bind fun format => printf format args) w.db
  have frame : ∀ holder, ({ w with holder } : World).given = holder.given + w.db.given :=
    fun holder => Multiset.add_comm _ _
  cases entry with
  | pQuery =>
      exact (onDatabase _).trans
        (formatted_complete_iff printf (w.db.hands_query reply) [] format args)
  | pQueryNamed =>
      exact (onDatabase _).trans
        (formatted_complete_iff printf (w.db.hands_query reply) [] format args)
  | pExecute =>
      exact (onDatabase _).trans
        (formatted_complete_iff printf (w.db.hands_execute reply) [] format args)
  | pExecuteCallback =>
      exact (onDatabase _).trans
        (formatted_complete_iff printf (w.db.hands_execute reply) [] format args)
  | directPExecute =>
      exact (onDatabase _).trans
        (formatted_complete_iff printf (w.db.hands_directExecute reply) [] format args)
  | pExecuteLog =>
      exact (onDatabase _).trans
        (formatted_complete_iff printf (w.db.hands_executeLog reply) [] format args)
  | asyncPQuery =>
      exact (onDatabase _).trans
        (formatted_complete_iff printf w.db.hands_asyncQuery [] format args)
  | setPQuery index =>
      exact (completeOrRefused_map frame _ _ _).trans
        (formatted_complete_iff printf (w.holder.hands_setQuery index) [emptyError index] format
          args)

/-- `printf` for a format that is one %s. -/
def printText : CString → CString → Option CString := fun _ text => some text

def deleteText : CString := "DELETE FROM `a` WHERE `b` = 1".toList

def conditionText : CString := "AND `c` = 2".toList

/-- The second condition stands behind what fits into the buffer. -/
def paddedDelete : CString := deleteText ++ List.replicate maxQueryLen ' ' ++ conditionText

theorem deleteText_length : deleteText.length = 29 := by decide +kernel

theorem conditionText_length : conditionText.length = 11 := by decide +kernel

theorem paddedDelete_length : paddedDelete.length = 29 + maxQueryLen + 11 := by
  rw [paddedDelete, List.length_append, List.length_append, List.length_replicate,
    deleteText_length, conditionText_length]

def asyncDatabase : World where
  db := {
    asyncConn := true, allowAsyncTransactions := true, resultQueue := true
    logSQL := false, logName := [], logOpens := true
    transaction := none, delayQueue := [], sent := [], logged := [] }
  holder := { queries := [] }

/-- What is queued is the beginning of the statement, with the second condition cut off. -/
theorem delete_sent_short :
    ¬ CompleteOrRefused World.given (some paddedDelete) asyncDatabase
      (Entry.pExecute.call printText (fun _ => true) (some "%s".toList) paddedDelete
        asyncDatabase) := by
  have representable : paddedDelete.length ≤ intMax := by
    rw [paddedDelete_length]
    exact Nat.le_of_ble_eq_true rfl
  have hands := asyncDatabase.db.hands_execute fun _ => true
  have onDatabase := @completeOrRefused_map Database World Database.given World.given
    (fun db => { asyncDatabase with db }) asyncDatabase.holder.given (fun _ => rfl)
    (some paddedDelete) asyncDatabase.db
  intro claimed
  have claimed := (onDatabase _).mp claimed
  cases (formatted_complete_iff printText hands [] (some "%s".toList) paddedDelete).mp claimed with
  | inl refused => exact refused rfl
  | inr fits =>
      have short := (fits paddedDelete rfl representable).1
      rw [paddedDelete_length] at short
      omega

end TortoiseWow.FormattedSql
