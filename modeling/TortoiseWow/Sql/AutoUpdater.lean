import TortoiseWow.Lib.CString
import TortoiseWow.Sql.Transaction
import Mathlib.Data.List.Sort
import Mathlib.Data.List.Lex
import Mathlib.Logic.Function.Basic
import Mathlib.Order.Lattice

/-!
The updater that applies migration files to the databases when the server starts. A file
is known by its module and the hash of its content, and the table `migrations` of each
database says which were applied there. The hash function and what the server makes of the
values in an INSERT statement are parameters.
-/

namespace TortoiseWow.DBUpdater

open Lib Sql

structure Migration where
  hash : CString
  name : CString
  moduleName : CString
  deriving Repr, DecidableEq

structure FileMigration extends Migration where
  fileData : CString
  modifiedAt : Int
  deriving Repr, DecidableEq

structure DirectoryEntry where
  filename : CString
  isRegularFile : Bool := true
  lastWriteTime : Int
  canOpen : Bool := true
  content : CString
  deriving Repr, DecidableEq

/-- The part of the file name from its last dot on, if something stands before it. -/
def extension (filename : CString) : CString :=
  let suffix := (filename.reverse.takeWhile (· != '.')).reverse
  if suffix.length + 1 < filename.length then '.' :: suffix else []

def stem (filename : CString) : CString :=
  filename.take (filename.length - (extension filename).length)

def updateExtension : CString := ".sql".toList

def DirectoryEntry.isUpdate (entry : DirectoryEntry) : Bool :=
  entry.isRegularFile && extension entry.filename == updateExtension

def getMigrationKey (moduleName hash : CString) : CString := moduleName ++ ':' :: hash

def Migration.key (migration : Migration) : CString :=
  getMigrationKey migration.moduleName migration.hash

def hexDigit (n : Nat) : Char := if n < 10 then Char.ofNat (48 + n) else Char.ofNat (55 + n)

def byteArrayToHexStr (bytes : List UInt8) : CString :=
  bytes.flatMap fun byte => [hexDigit (byte.toNat / 16), hexDigit (byte.toNat % 16)]

def insertNew {α : Type} (map : List (CString × α)) (key : CString) (value : α) :
    List (CString × α) :=
  if map.any (·.1 == key) then map else map ++ [(key, value)]

section Files

variable (sha1 : CString → List UInt8)

def calculateFileHash (entry : DirectoryEntry) : Option (CString × CString) :=
  if entry.canOpen then some (byteArrayToHexStr (sha1 entry.content), entry.content) else none

def loadFile (moduleName : CString) (fileMigrations : List (CString × FileMigration))
    (entry : DirectoryEntry) : List (CString × FileMigration) :=
  match calculateFileHash sha1 entry with
  | some (hash, fileData) =>
      insertNew fileMigrations (getMigrationKey moduleName hash)
        { hash, name := stem entry.filename, moduleName, fileData
          modifiedAt := entry.lastWriteTime }
  | none => fileMigrations

/-- A directory that does not exist is created and holds no migrations. -/
def loadFileMigrations (targetPath : Option (List DirectoryEntry)) (moduleName : CString) :
    List (CString × FileMigration) :=
  match targetPath with
  | some entries => (entries.filter DirectoryEntry.isUpdate).foldl (loadFile sha1 moduleName) []
  | none => []

end Files

inductive StringStatus where
  | none
  | singleQuotes
  | doubleQuotes
  deriving Repr, DecidableEq

inductive CommentScope where
  | none
  | singleline
  | multiline
  deriving Repr, DecidableEq

structure SplitState where
  queries : List CString := []
  query : CString := []
  stringScope : StringStatus := .none
  commentScope : CommentScope := .none
  deriving Repr, DecidableEq

def StringStatus.next (scope : StringStatus) (previous : Option Char) (ch : Char) :
    StringStatus :=
  match scope with
  | .none => if ch = '\'' then .singleQuotes else if ch = '"' then .doubleQuotes else .none
  | .singleQuotes => if ch = '\'' ∧ previous ≠ some '\\' then .none else .singleQuotes
  | .doubleQuotes => if ch = '"' ∧ previous ≠ some '\\' then .none else .doubleQuotes

/-- The loop body, with the characters before and after the current one. -/
def splitStep (previous : Option Char) (ch : Char) (following : Option Char)
    (s : SplitState) : SplitState :=
  if ch = '\r' ∨ ch = '\n' then
    { s with
      query := if ch = '\n' then s.query ++ [' '] else s.query
      commentScope := if s.commentScope = .singleline then .none else s.commentScope }
  else if ch = '/' ∧ s.commentScope = .multiline ∧ previous = some '*' then
    { s with commentScope := .none }
  else if ch = '/' ∧ s.stringScope = .none ∧ following = some '*' then
    { s with commentScope := .multiline }
  else if s.commentScope ≠ .none then s
  else if ch = '-' ∧ s.stringScope = .none ∧ following = some '-' then
    { s with commentScope := .singleline }
  else
    let stringScope := s.stringScope.next previous ch
    let query := s.query ++ [ch]
    if ch = ';' ∧ stringScope = .none then
      { s with stringScope, queries := s.queries ++ [query], query := [] }
    else { s with stringScope, query }

def splitLoop : Option Char → CString → SplitState → SplitState
  | _, [], s => s
  | previous, ch :: rest, s => splitLoop (some ch) rest (splitStep previous ch rest.head? s)

def splitQueries (sqlString : CString) : Option (List CString) :=
  let s := splitLoop none sqlString {}
  let queries :=
    if s.query.any fun ch => !("\t\r\n ".toList.contains ch) then s.queries ++ [s.query]
    else s.queries
  if s.stringScope = .none then some queries else none

/-- What a committed statement did: a query of a file, or a row of `migrations`. -/
inductive Effect where
  | query (text : CString)
  | insert (migration : Migration)
  deriving Repr, DecidableEq

def Effect.row : Effect → Option Migration
  | .insert migration => some migration
  | .query _ => none

/-- The connection for writes, the transaction that the thread has begun, and how many
transactions were executed. -/
structure Database where
  conn : SqlConnection Effect
  transaction : Option (SqlTransaction Effect) := none
  commits : Nat := 0

namespace Database

def beginTransaction (db : Database) : Bool × Database :=
  match db.transaction with
  | some _ => (false, db)
  | none => (true, { db with transaction := some { queue := [], retryDeadlock := false } })

/-- Inside a transaction the statement is put into its queue. The updater executes nothing
outside of one. -/
def execute (db : Database) (statement : SqlStatement Effect) : Database :=
  match db.transaction with
  | some begun =>
      { db with transaction := some { begun with queue := begun.queue ++ [statement] } }
  | none => db

/-- Each transaction meets a connection that behaves as it likes. -/
def commitTransactionDirect (scripts : Nat → Script Effect) (db : Database)
    (durability : Nat → List Action → Durability := fun _ _ => .inTransaction) :
    Bool × Database :=
  match db.transaction with
  | some begun =>
      let (res, conn) := begun.execute (scripts db.commits) db.conn (durability db.commits)
      (res, { conn, transaction := none, commits := db.commits + 1 })
  | none => (false, db)

def migrations (db : Database) : List Migration := db.conn.committed.filterMap Effect.row

end Database

/-- The result of a SELECT that fails is the same as that of an empty table. -/
def loadDatabaseMigrations (selectFails : Bool) (db : Database) : List (CString × Migration) :=
  if selectFails then []
  else db.migrations.foldl (fun map migration => insertNew map migration.key migration) []

def plainRequest (text : CString) : SqlStatement Effect := ⟨[.query (cstr text)]⟩

/-- The order of the migrations of one directory. -/
def FileMigration.before (sortByName : Bool) (e1 e2 : FileMigration) : Bool :=
  if sortByName then
    if e1.name ≠ e2.name then decide (e1.name < e2.name)
    else decide (e1.modifiedAt < e2.modifiedAt)
  else if e1.modifiedAt ≠ e2.modifiedAt then decide (e1.modifiedAt < e2.modifiedAt)
  else decide (e1.name < e2.name)

def sortUpdates (sortByName : Bool) (updates : List FileMigration) : List FileMigration :=
  updates.insertionSort fun e1 e2 => e2.before sortByName e1 = false

section Updates

variable (sha1 : CString → List UInt8) (stored : Migration → List Migration)

/-- The values stand in the statement between quotes, as they are. What rows it adds is up
to the server. -/
def insertRequest (migration : Migration) : SqlStatement Effect :=
  ⟨(stored migration).map .insert⟩

def executeUpdate (scripts : Nat → Script Effect) (migration : FileMigration) (db : Database)
    (durability : Nat → List Action → Durability := fun _ _ => .inTransaction) :
    Bool × Database :=
  let (begun, db) := db.beginTransaction
  if !begun then (false, db)
  else
    match splitQueries migration.fileData with
    | none => (false, db)
    | some queries =>
        let db := queries.foldl (fun db query => db.execute (plainRequest query)) db
        let db := db.execute (insertRequest stored migration.toMigration)
        db.commitTransactionDirect scripts durability

def executeUpdates (scripts : Nat → Script Effect) :
    List FileMigration → Database → Bool × Database
  | [], db => (true, db)
  | update :: updates, db =>
      let (done, db) := executeUpdate stored scripts update db
      if done then executeUpdates scripts updates db else (false, db)

def newMigrations (selectFails : Bool) (targetPath : Option (List DirectoryEntry))
    (moduleName : CString) (db : Database) : List FileMigration :=
  let dbMigrations := loadDatabaseMigrations selectFails db
  ((loadFileMigrations sha1 targetPath moduleName).filter fun entry =>
    !(dbMigrations.any fun applied => applied.1 == entry.1)).map Prod.snd

def processTargetUpdates (scripts : Nat → Script Effect) (selectFails sortByName : Bool)
    (targetPath : Option (List DirectoryEntry)) (moduleName : CString) (db : Database) :
    Bool × Database :=
  executeUpdates stored scripts
    (sortUpdates sortByName (newMigrations sha1 selectFails targetPath moduleName db)) db

end Updates

def trim (value : CString) : CString :=
  ((value.dropWhile isSpace).reverse.dropWhile isSpace).reverse

def toLower (value : CString) : CString := value.map Char.toLower

def splitAt (separator : Char) : CString → CString → List CString
  | item, [] => [item]
  | item, c :: rest =>
      if c = separator then item :: splitAt separator [] rest
      else splitAt separator (item ++ [c]) rest

def splitCommaSeparated (value : CString) : List CString :=
  ((splitAt ',' [] value).map trim).filter fun item => !item.isEmpty

def isAllModulesAllowed (allowedModules : List CString) : Bool :=
  allowedModules.any fun moduleName => toLower moduleName == "all".toList

structure Config where
  enabled : Bool := true
  sortByName : Bool := false
  allowedModules : CString := "all".toList
  enabledModules : CString := []
  niHao : Bool := false
  deriving Repr, DecidableEq

/-- The modules whose updates are processed, in this order. -/
def Config.moduleNames (config : Config) : List CString :=
  let allowedModules := splitCommaSeparated config.allowedModules
  if isAllModulesAllowed allowedModules then
    (splitCommaSeparated config.enabledModules).insertionSort (· ≤ ·)
  else allowedModules

inductive Target where
  | login
  | character
  | world
  deriving Repr, DecidableEq

/-- The directories on the disk; `modules` has none if the path of the modules does not
exist. -/
structure Tree where
  core : Target → Option (List DirectoryEntry)
  modules : CString → Target → Option (List DirectoryEntry)
  cn : Target → Option (List DirectoryEntry)

structure Job where
  target : Target
  targetPath : Option (List DirectoryEntry)
  moduleName : CString := []

def Tree.moduleJobs (tree : Tree) (config : Config) (target : Target) : List Job :=
  config.moduleNames.filterMap fun moduleName =>
    (tree.modules moduleName target).map fun entries => ⟨target, some entries, moduleName⟩

/-- The calls that ProcessUpdates makes, until one fails. -/
def Tree.jobs (tree : Tree) (config : Config) : List Job :=
  if config.enabled then
    let targets := [Target.login, .character, .world]
    targets.map (fun target => ⟨target, tree.core target, []⟩) ++
      targets.flatMap (tree.moduleJobs config) ++
      if config.niHao then targets.map (fun target => ⟨target, tree.cn target, []⟩) else []
  else []

/-- How the databases behave during a start: the connections for writes, and the SELECT of
each call. -/
structure Environment where
  scripts : Target → Nat → Script Effect
  selectFails : Nat → Bool

abbrev Databases := Target → Database

/-- What the servers keep from one start to the next. -/
abbrev Stored := Target → List Effect

structure Start where
  config : Config
  tree : Tree
  environment : Environment

section Starts

variable (sha1 : CString → List UInt8) (stored : Migration → List Migration)

def Job.run (environment : Environment) (sortByName : Bool) (call : Nat) (job : Job)
    (dbs : Databases) : Bool × Databases :=
  let (done, db) := processTargetUpdates sha1 stored (environment.scripts job.target)
    (environment.selectFails call) sortByName job.targetPath job.moduleName (dbs job.target)
  (done, Function.update dbs job.target db)

end Starts

end TortoiseWow.DBUpdater
