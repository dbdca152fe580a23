import TortoiseWow.Lib.SqlScript
import TortoiseWow.Sql.Migrations

/-!
The queries that the updater makes of a file, against the statements the file says.
-/

namespace TortoiseWow.DBUpdater

open Lib Lib.SqlScript Sql

/-- The scopes of the updater where the reader of a script is. -/
def statusOf : Quote → StringStatus
  | .single => .singleQuotes
  | .double => .doubleQuotes

def stringScopeOf : Scope → StringStatus
  | .literal quote _ => statusOf quote
  | .text | .line | .opening | .opened | .block | .closing => .none

def commentScopeOf : Scope → CommentScope
  | .line => .singleline
  | .opening | .opened | .block | .closing => .multiline
  | .text | .literal _ _ => .none

def scanned (r : Reader) : SplitState where
  queries := r.statements
  query := r.statement
  stringScope := stringScopeOf r.scope
  commentScope := commentScopeOf r.scope

/-- The characters at which the updater goes wrong: a carriage return without a line feed, two
dashes in front of something else than a blank, a line break in a literal, a quote that closes a
literal behind an escaped backslash, the opening of a block comment in a line comment, and a
slash right behind the opening of a block comment. -/
def defect (ch : Char) (rest : List Char) : Scope → Bool
  | .text => ch == '\r' && rest.head? != some '\n' ||
      ch == '-' && rest.head? == some '-' && !opensLine ch rest
  | .literal quote escape => ch == '\r' || ch == '\n' || escape == .pair && ch == quote.char
  | .line => ch == '\r' && rest.head? != some '\n' || opensBlock ch rest
  | .opened => ch == '/'
  | .opening | .block | .closing => false

/-- No such character is in the script, as it is to be read. -/
def clean : Scope → List Char → Bool
  | _, [] => true
  | scope, ch :: rest => !defect ch rest scope && clean (scope.next ch rest) rest

def Linked (previous : Option Char) (ahead : List Char) : Scope → Prop
  | .text | .line => True
  | .literal _ .none => previous ≠ some '\\'
  | .literal _ .mark | .literal _ .pair => previous = some '\\'
  | .opening => ahead.head? = some '*'
  | .opened => previous = some '*'
  | .block => previous = some '*' → ahead.head? ≠ some '/'
  | .closing => previous = some '*' ∧ ahead.head? = some '/'

variable {previous : Option Char} {ch : Char} {rest : List Char} {statements : List CString}
  {statement : CString}

theorem Linked.next {scope : Scope} (linked : Linked previous (ch :: rest) scope) :
    Linked (some ch) rest (scope.next ch rest) := by
  cases scope with
  | text =>
      simp only [Scope.next]
      split
      · next quote => simp [Linked, quote]
      · split
        · next quote => simp [Linked, quote]
        · split
          · next opens => simp_all [Linked, opensBlock]
          · split <;> trivial
  | literal quote escape =>
      simp only [Scope.next]
      split
      · trivial
      · rw [Escape.next]
        split
        · next mark => cases escape <;> simp [Linked, mark]
        · next other => simp [Linked, other]
  | line =>
      simp only [Scope.next]
      split <;> trivial
  | opening =>
      have star : ch = '*' := by simpa [Linked] using linked
      simp [Scope.next, Linked, star]
  | opened | block =>
      simp only [Scope.next]
      split
      · next ends => simp [Linked, ends]
      · next goes => simp_all [Linked]
  | closing => trivial

theorem splitStep_text :
    splitStep previous ch rest.head? (scanned ⟨statements, statement, .text⟩) =
        scanned (Reader.step ⟨statements, statement, .text⟩ ch rest) ↔
      defect ch rest .text = false := by
  by_cases lf : ch = '\n'
  · subst lf
    simp [splitStep, scanned, Reader.step, Scope.next, Scope.added, Scope.inLiteral, defect,
      opensBlock, opensLine, stringScopeOf, commentScopeOf]
  by_cases cr : ch = '\r'
  · subst cr
    by_cases follows : rest.head? = some '\n' <;>
      simp [splitStep, scanned, Reader.step, Scope.next, Scope.added, Scope.inLiteral, defect,
        opensBlock, opensLine, breaksLine, stringScopeOf, commentScopeOf, follows]
  by_cases slash : ch = '/'
  · subst slash
    by_cases follows : rest.head? = some '*' <;>
      simp [splitStep, scanned, Reader.step, Scope.next, Scope.added, Scope.inLiteral, defect,
        opensBlock, opensLine, breaksLine, stringScopeOf, commentScopeOf,
          StringStatus.next, follows]
  by_cases dash : ch = '-'
  · subst dash
    by_cases follows : rest.head? = some '-'
    · -- two dashes open a comment for the updater, whatever comes next
      cases blank : blankBehind rest <;>
        simp [splitStep, scanned, Reader.step, Scope.next, Scope.added, Scope.inLiteral, defect,
          opensBlock, opensLine, breaksLine, stringScopeOf, commentScopeOf, follows, blank]
    · simp [splitStep, scanned, Reader.step, Scope.next, Scope.added, Scope.inLiteral, defect,
        opensBlock, opensLine, breaksLine, stringScopeOf, commentScopeOf,
          StringStatus.next, follows]
  have plain : defect ch rest .text = false := by simp [defect, cr, dash]
  have text : opensBlock ch rest = false ∧ opensLine ch rest =
    false ∧ breaksLine ch rest = false := by
    simp [opensBlock, opensLine, breaksLine, slash, dash, lf, cr]
  simp only [plain, iff_true]
  by_cases quote : ch = '\''
  · subst quote
    simp [splitStep, scanned, Reader.step, Scope.next, Scope.added, Scope.inLiteral, text,
      stringScopeOf, statusOf, commentScopeOf, StringStatus.next]
  by_cases double : ch = '"'
  · subst double
    simp [splitStep, scanned, Reader.step, Scope.next, Scope.added, Scope.inLiteral, text,
      stringScopeOf, statusOf, commentScopeOf, StringStatus.next]
  by_cases cut : ch = ';'
  · subst cut
    simp [splitStep, scanned, Reader.step, Scope.next, Scope.added, Scope.inLiteral, text,
      stringScopeOf, commentScopeOf, StringStatus.next]
  · simp [splitStep, scanned, Reader.step, Scope.next, Scope.added, Scope.inLiteral, text,
      stringScopeOf, commentScopeOf, StringStatus.next, lf, cr, slash, dash, quote, double, cut]

/-- The updater looks at the character in front of a quote only. -/
theorem splitStep_in_literal (lf : ch ≠ '\n') (cr : ch ≠ '\r') (quote : Quote)
    (following : Option Char) :
    splitStep previous ch following ⟨statements, statement, statusOf quote, .none⟩ =
      ⟨statements, statement ++ [ch],
        if ch = quote.char ∧ previous ≠ some '\\' then .none else statusOf quote, .none⟩ := by
  cases quote with
  | single =>
      by_cases closes : ch = '\'' ∧ previous ≠ some '\\'
      · simp [splitStep, StringStatus.next, statusOf, Quote.char, closes]
      · simp [splitStep, StringStatus.next, statusOf, Quote.char, closes, lf, cr]
  | double =>
      by_cases closes : ch = '"' ∧ previous ≠ some '\\'
      · simp [splitStep, StringStatus.next, statusOf, Quote.char, closes]
      · simp [splitStep, StringStatus.next, statusOf, Quote.char, closes, lf, cr]

theorem scanned_in_literal (quote : Quote) (escape : Escape) :
    scanned (Reader.step ⟨statements, statement, .literal quote escape⟩ ch rest) =
      ⟨statements, statement ++ [ch],
        if escape ≠ .mark ∧ ch = quote.char then .none else statusOf quote, .none⟩ := by
  by_cases closes : escape ≠ .mark ∧ ch = quote.char <;>
    simp [scanned, Reader.step, Scope.next, Scope.added, Scope.inLiteral, stringScopeOf,
      commentScopeOf, closes]

theorem splitStep_literal {quote : Quote} {escape : Escape}
    (linked : Linked previous (ch :: rest) (.literal quote escape)) :
    splitStep previous ch rest.head? (scanned ⟨statements, statement, .literal quote escape⟩) =
        scanned (Reader.step ⟨statements, statement, .literal quote escape⟩ ch rest) ↔
      defect ch rest (.literal quote escape) = false := by
  by_cases lf : ch = '\n'
  · subst lf
    simp [splitStep, scanned, Reader.step, Scope.added, Scope.inLiteral, defect]
  by_cases cr : ch = '\r'
  · subst cr
    simp [splitStep, scanned, Reader.step, Scope.added, Scope.inLiteral, defect]
  have inString : statusOf quote ≠ .none := by cases quote <;> decide
  have step := @splitStep_in_literal previous ch statements statement lf cr quote rest.head?
  rw [scanned_in_literal]
  simp only [scanned, stringScopeOf, commentScopeOf, step, defect]
  cases escape with
  | none =>
      have bare : previous ≠ some '\\' := linked
      simp [bare, lf, cr]
  | mark =>
      have marked : previous = some '\\' := linked
      simp [marked, lf, cr]
  | pair =>
      have marked : previous = some '\\' := linked
      by_cases closes : ch = quote.char <;> simp [marked, closes, inString, lf, cr]

theorem splitStep_line :
    splitStep previous ch rest.head? (scanned ⟨statements, statement, .line⟩) =
        scanned (Reader.step ⟨statements, statement, .line⟩ ch rest) ↔
      defect ch rest .line = false := by
  by_cases lf : ch = '\n'
  · subst lf
    simp [splitStep, scanned, Reader.step, Scope.next, Scope.added, Scope.inLiteral, defect,
      breaksLine, opensBlock, stringScopeOf, commentScopeOf]
  by_cases cr : ch = '\r'
  · subst cr
    by_cases follows : rest.head? = some '\n' <;>
      simp [splitStep, scanned, Reader.step, Scope.next, Scope.added, Scope.inLiteral, defect,
        breaksLine, opensBlock, stringScopeOf, commentScopeOf, follows]
  have open_iff : opensBlock ch rest = true ↔ ch = '/' ∧ rest.head? = some '*' := by
    simp [opensBlock]
  cases opens : opensBlock ch rest with
  | false =>
      have other := mt open_iff.mpr (Bool.eq_false_iff.mp opens)
      simp [splitStep, scanned, Reader.step, Scope.next, Scope.added, Scope.inLiteral, defect,
        breaksLine, stringScopeOf, commentScopeOf, lf, cr, opens, other]
  | true =>
      obtain ⟨slash, star⟩ := open_iff.mp opens
      subst slash
      simp [splitStep, scanned, Reader.step, Scope.next, Scope.added, Scope.inLiteral, defect,
        breaksLine, stringScopeOf, commentScopeOf, opens, star]

/-- In a block comment only a slash matters, and it closes the comment behind any star. -/
theorem splitStep_in_block :
    splitStep previous ch rest.head? ⟨statements, statement, .none, .multiline⟩ =
      ⟨statements, if ch = '\n' then statement ++ [' '] else statement, .none,
        if ch = '/' ∧ previous = some '*' then .none else .multiline⟩ := by
  by_cases lf : ch = '\n'
  · subst lf
    simp [splitStep]
  by_cases cr : ch = '\r'
  · subst cr
    simp [splitStep]
  by_cases slash : ch = '/'
  · subst slash
    by_cases closes : previous = some '*' <;> simp [splitStep, closes]
  · simp [splitStep, lf, cr, slash]

theorem scanned_in_block {scope : Scope} (inside : scope = .opened ∨ scope = .block) :
    scanned (Reader.step ⟨statements, statement, scope⟩ ch rest) =
      ⟨statements, if ch = '\n' then statement ++ [' '] else statement, .none, .multiline⟩ := by
  cases inside with
  | inl opened =>
      subst opened
      by_cases lf : ch = '\n' <;> by_cases ends : ch = '*' ∧ rest.head? = some '/' <;>
        simp [scanned, Reader.step, Scope.next, Scope.added, Scope.inLiteral, stringScopeOf,
          commentScopeOf, lf, ends]
  | inr block =>
      subst block
      by_cases lf : ch = '\n' <;> by_cases ends : ch = '*' ∧ rest.head? = some '/' <;>
        simp [scanned, Reader.step, Scope.next, Scope.added, Scope.inLiteral, stringScopeOf,
          commentScopeOf, lf, ends]

theorem splitStep_opened (linked : Linked previous (ch :: rest) .opened) :
    splitStep previous ch rest.head? (scanned ⟨statements, statement, .opened⟩) =
        scanned (Reader.step ⟨statements, statement, .opened⟩ ch rest) ↔
      defect ch rest .opened = false := by
  have star : previous = some '*' := linked
  rw [scanned_in_block (Or.inl rfl), scanned]
  simp only [stringScopeOf, commentScopeOf, splitStep_in_block, star, defect]
  by_cases slash : ch = '/' <;> simp [slash]

theorem splitStep_block (linked : Linked previous (ch :: rest) .block) :
    splitStep previous ch rest.head? (scanned ⟨statements, statement, .block⟩) =
      scanned (Reader.step ⟨statements, statement, .block⟩ ch rest) := by
  have goes : ¬ (ch = '/' ∧ previous = some '*') := fun both =>
    (linked : previous = some '*' → _) both.2 (congrArg some both.1)
  rw [scanned_in_block (Or.inr rfl), scanned]
  simp only [stringScopeOf, commentScopeOf, splitStep_in_block, if_neg goes]

theorem splitStep_opening (linked : Linked previous (ch :: rest) .opening) :
    splitStep previous ch rest.head? (scanned ⟨statements, statement, .opening⟩) =
        scanned (Reader.step ⟨statements, statement, .opening⟩ ch rest) := by
  have star : ch = '*' := by simpa [Linked] using linked
  subst star
  simp [splitStep, scanned, Reader.step, Scope.next, Scope.added, Scope.inLiteral, stringScopeOf,
    commentScopeOf]

theorem splitStep_closing (linked : Linked previous (ch :: rest) .closing) :
    splitStep previous ch rest.head? (scanned ⟨statements, statement, .closing⟩) =
        scanned (Reader.step ⟨statements, statement, .closing⟩ ch rest) := by
  have slash : ch = '/' := by simpa [Linked] using linked.2
  subst slash
  simp [splitStep, scanned, Reader.step, Scope.next, Scope.added, Scope.inLiteral, stringScopeOf,
    commentScopeOf, linked.1]

/-- One character: the updater does what the reader does if and only if it is no defect. -/
theorem splitStep_scanned {r : Reader} (linked : Linked previous (ch :: rest) r.scope) :
    splitStep previous ch rest.head? (scanned r) = scanned (r.step ch rest) ↔
      defect ch rest r.scope = false := by
  cases r with
  | mk statements statement scope =>
      cases scope with
      | text => exact splitStep_text
      | literal quote escape => exact splitStep_literal linked
      | line => exact splitStep_line
      | opening => exact iff_of_true (splitStep_opening linked) rfl
      | opened => exact splitStep_opened linked
      | block => exact iff_of_true (splitStep_block linked) rfl
      | closing => exact iff_of_true (splitStep_closing linked) rfl

/-- After each character the updater is where the reader is: the same scopes, the same queries
and the same text of the one it is in. -/
def Follows : Option Char → CString → SplitState → Reader → Prop
  | _, [], _, _ => True
  | previous, ch :: rest, s, r =>
      splitStep previous ch rest.head? s = scanned (r.step ch rest) ∧
        Follows (some ch) rest (splitStep previous ch rest.head? s) (r.step ch rest)

theorem follows_iff_clean {previous : Option Char} (script : CString) {r : Reader}
    (linked : Linked previous script r.scope) :
    Follows previous script (scanned r) r ↔ clean r.scope script = true := by
  induction script generalizing previous r with
  | nil => exact iff_of_true trivial rfl
  | cons ch rest ih =>
      have step := splitStep_scanned linked
      have scope : (r.step ch rest).scope = r.scope.next ch rest := by
        rw [Reader.step]
        split <;> rfl
      have later := linked.next
      rw [← scope] at later
      rw [Follows, clean, ← scope, Bool.and_eq_true, Bool.not_eq_true', ← step]
      constructor
      · intro both
        have goes := both.2
        rw [both.1] at goes
        exact ⟨both.1, (ih later).mp goes⟩
      · intro both
        refine ⟨both.1, ?_⟩
        rw [both.1]
        exact (ih later).mpr both.2

theorem splitLoop_of_follows {previous : Option Char} (script : CString) {s : SplitState}
    {r : Reader} (start : s = scanned r) (follows : Follows previous script s r) :
    splitLoop previous script s = scanned (readFrom script r) := by
  induction script generalizing previous s r with
  | nil => exact start
  | cons ch rest ih => exact ih follows.1 follows.2

theorem stringScopeOf_eq_none {scope : Scope} :
    stringScopeOf scope = .none ↔ scope.inLiteral = false := by
  cases scope with
  | literal quote escape => cases quote <;> simp [stringScopeOf, statusOf, Scope.inLiteral]
  | text | line | opening | opened | block | closing => simp [stringScopeOf, Scope.inLiteral]

theorem splitQueries_of_follows {script : CString} (follows : Follows none script {} {}) :
    splitQueries script = SqlScript.statements script := by
  have start : ({} : SplitState) = scanned {} := rfl
  have loop := splitLoop_of_follows script start follows
  rw [splitQueries, loop, SqlScript.statements]
  have ends : (scanned (readFrom script {})).stringScope = .none ↔
      (readFrom script {}).scope.inLiteral = false := stringScopeOf_eq_none
  cases inLiteral : (readFrom script {}).scope.inLiteral with
  | true =>
      have inString := mt ends.mp (by simp [inLiteral])
      simp only [if_neg inString, if_true]
  | false =>
      simp only [ends.mpr inLiteral, if_true, Bool.false_eq_true, if_false]
      rfl

/-- The texts that `ExecuteUpdate` executes for the queries of a file: each of them ends at a
NUL. -/
def executedQueries (script : CString) : Option (List CString) :=
  (splitQueries script).map fun queries => queries.map cstr

def NulFree (script : CString) : Prop :=
  ∀ queries ∈ SqlScript.statements script, ∀ query ∈ queries, '\x00' ∉ query

theorem map_cstr_eq_self_iff {queries : List CString} :
    queries.map cstr = queries ↔ ∀ query ∈ queries, '\x00' ∉ query := by
  induction queries with
  | nil => exact iff_of_true rfl nofun
  | cons query queries ih =>
      rw [List.map_cons, List.cons.injEq, cstr_eq_self_iff, ih, List.forall_mem_cons]

/-- The updater follows the reader through a script if and only if the script has none of the
defects; then the statements of the script are executed if and only if there is no NUL in
them. -/
theorem executedQueries_of_clean (script : CString) :
    (Follows none script {} {} ↔ clean .text script = true) ∧
      (clean .text script = true →
        (executedQueries script = SqlScript.statements script ↔ NulFree script)) := by
  have iff : Follows none script {} {} ↔ clean .text script = true :=
    @follows_iff_clean none script {} trivial
  refine ⟨iff, fun noDefect => ?_⟩
  rw [executedQueries, splitQueries_of_follows (iff.mpr noDefect), NulFree]
  cases SqlScript.statements script with
  | none => simp
  | some queries => simp [map_cstr_eq_self_iff]

/-- A quote behind a backslash, a comment marker in a literal, a comment of each kind, one of
them with a NUL. -/
theorem commented_script_executed :
    executedQueries "DO 'it\\'s; -- no';-- yes\x00\r\nDO /* ; */ 2;".toList =
      SqlScript.statements "DO 'it\\'s; -- no';-- yes\x00\r\nDO /* ; */ 2;".toList := by
  refine ((executedQueries_of_clean "DO 'it\\'s; -- no';-- yes\x00\r\nDO /* ; */ 2;".toList).2
    (by decide +kernel)).mpr ?_
  have read : SqlScript.statements "DO 'it\\'s; -- no';-- yes\x00\r\nDO /* ; */ 2;".toList =
      some ["DO 'it\\'s; -- no';".toList, " DO  2;".toList] := by
    decide +kernel
  rintro queries inside
  rw [read] at inside
  cases inside
  decide +kernel

/-- One script for each of the defects and one with a NUL, with what is executed and what the script
says. -/
theorem defects_executed :
    executedQueries "DO 1; -- a /* b\nDO 2;".toList = some ["DO 1;".toList] ∧
    SqlScript.statements "DO 1; -- a /* b\nDO 2;".toList =
      some ["DO 1;".toList, "  DO 2;".toList] ∧
    executedQueries "DO 3--1;".toList = some ["DO 3".toList] ∧
    SqlScript.statements "DO 3--1;".toList = some ["DO 3--1;".toList] ∧
    executedQueries "DO 'a\nb';".toList = some ["DO 'a b';".toList] ∧
    SqlScript.statements "DO 'a\nb';".toList = some ["DO 'a\nb';".toList] ∧
    executedQueries "DO '\\\\'; DO 2;".toList = none ∧
    SqlScript.statements "DO '\\\\'; DO 2;".toList =
      some ["DO '\\\\';".toList, " DO 2;".toList] ∧
    executedQueries "DO /*/ 1; */ 2;".toList = some ["DO  1;".toList, " */ 2;".toList] ∧
    SqlScript.statements "DO /*/ 1; */ 2;".toList = some ["DO  2;".toList] ∧
    executedQueries "DO\r1;".toList = some ["DO1;".toList] ∧
    SqlScript.statements "DO\r1;".toList = some ["DO\r1;".toList] ∧
    executedQueries "DO 'a\x00b';".toList = some ["DO 'a".toList] ∧
    SqlScript.statements "DO 'a\x00b';".toList = some ["DO 'a\x00b';".toList] := by
  decide +kernel

end TortoiseWow.DBUpdater
