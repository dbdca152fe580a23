import TortoiseWow.Lib.Run
import TortoiseWow.Sql.AutoUpdater

/-!
Runs of the auto-updater over any number of server starts. What a database keeps is one
complete copy of each migration applied, and the migrations applied are told apart by
their keys.
-/

namespace TortoiseWow.DBUpdater

open Lib Sql

section Maps

variable {α : Type}

theorem any_key_iff {map : List (CString × α)} {key : CString} :
    (map.any fun entry => entry.1 == key) = true ↔ key ∈ map.map Prod.fst := by
  rw [List.any_eq_true, List.mem_map]
  constructor
  · rintro ⟨entry, hmem, heq⟩
    exact ⟨entry, hmem, by simpa using heq⟩
  · rintro ⟨entry, hmem, heq⟩
    exact ⟨entry, hmem, by simpa using heq⟩

theorem mem_keys_insertNew (map : List (CString × α)) (key : CString) (value : α)
    (key' : CString) :
    key' ∈ (insertNew map key value).map Prod.fst ↔ key' ∈ map.map Prod.fst ∨ key' = key := by
  unfold insertNew
  split
  · rename_i hany
    rw [any_key_iff] at hany
    constructor
    · exact Or.inl
    · rintro (hmem | rfl)
      · exact hmem
      · exact hany
  · simp

theorem nodup_insertNew {map : List (CString × α)} (h : (map.map Prod.fst).Nodup)
    (key : CString) (value : α) : ((insertNew map key value).map Prod.fst).Nodup := by
  unfold insertNew
  split
  · exact h
  · rename_i hany
    rw [any_key_iff] at hany
    rw [List.map_append, List.nodup_append]
    refine ⟨h, by simp, fun a ha b hb heq => hany ?_⟩
    rw [List.map_cons, List.map_nil, List.mem_singleton] at hb
    change b = key at hb
    rw [← hb, ← heq]
    exact ha

theorem mem_insertNew {map : List (CString × α)} {key : CString} {value : α}
    {entry : CString × α} (h : entry ∈ insertNew map key value) :
    entry ∈ map ∨ entry = (key, value) := by
  unfold insertNew at h
  split at h
  · exact Or.inl h
  · rcases List.mem_append.mp h with h | h
    · exact Or.inl h
    · exact Or.inr (List.mem_singleton.mp h)

end Maps

section Files

variable (sha1 : CString → List UInt8)

def DirectoryEntry.migration (moduleName : CString) (entry : DirectoryEntry) : FileMigration :=
  { hash := byteArrayToHexStr (sha1 entry.content), name := stem entry.filename, moduleName
    fileData := entry.content, modifiedAt := entry.lastWriteTime }

def updateFiles (targetPath : Option (List DirectoryEntry)) : List DirectoryEntry :=
  (targetPath.getD []).filter DirectoryEntry.isUpdate

theorem loadFile_eq (moduleName : CString) (map : List (CString × FileMigration))
    (entry : DirectoryEntry) :
    loadFile sha1 moduleName map entry =
      if entry.canOpen then
        insertNew map (entry.migration sha1 moduleName).key (entry.migration sha1 moduleName)
      else map := by
  unfold loadFile calculateFileHash
  cases entry.canOpen <;> rfl

structure Loaded (moduleName : CString) (entries : List DirectoryEntry)
    (map : List (CString × FileMigration)) : Prop where
  nodup : (map.map Prod.fst).Nodup
  source : ∀ p ∈ map, ∃ entry ∈ entries,
    p = ((entry.migration sha1 moduleName).key, entry.migration sha1 moduleName)
  all : ∀ entry ∈ entries, entry.canOpen = true →
    (entry.migration sha1 moduleName).key ∈ map.map Prod.fst

theorem loaded (targetPath : Option (List DirectoryEntry)) (moduleName : CString) :
    Loaded sha1 moduleName (updateFiles targetPath)
      (loadFileMigrations sha1 targetPath moduleName) := by
  have hfold : ∀ (entries before : List DirectoryEntry) (map : List (CString × FileMigration)),
      Loaded sha1 moduleName before map →
      Loaded sha1 moduleName (before ++ entries)
        (entries.foldl (loadFile sha1 moduleName) map) := by
    intro entries
    induction entries with
    | nil =>
        intro before map h
        rw [List.append_nil]
        exact h
    | cons entry entries ih =>
        intro before map h
        have hnext : Loaded sha1 moduleName (before ++ [entry])
            (loadFile sha1 moduleName map entry) := by
          rw [loadFile_eq]
          split
          · rename_i hopen
            refine ⟨nodup_insertNew h.nodup _ _, fun p hp => ?_, fun e he hcan => ?_⟩
            · rcases mem_insertNew hp with hp | rfl
              · obtain ⟨e, he, heq⟩ := h.source p hp
                exact ⟨e, List.mem_append_left _ he, heq⟩
              · exact ⟨entry, by simp, rfl⟩
            · rw [mem_keys_insertNew]
              rcases List.mem_append.mp he with he | he
              · exact Or.inl (h.all e he hcan)
              · rw [List.mem_singleton.mp he]
                exact Or.inr rfl
          · rename_i hclosed
            refine ⟨h.nodup, fun p hp => ?_, fun e he hcan => ?_⟩
            · obtain ⟨e, he, heq⟩ := h.source p hp
              exact ⟨e, List.mem_append_left _ he, heq⟩
            · rcases List.mem_append.mp he with he | he
              · exact h.all e he hcan
              · rw [List.mem_singleton.mp he] at hcan
                exact absurd hcan hclosed
        have hrest := ih _ _ hnext
        rw [List.append_assoc, List.singleton_append] at hrest
        exact hrest
  have hempty : Loaded sha1 moduleName [] [] :=
    { nodup := List.nodup_nil
      source := by simp
      all := by simp }
  cases targetPath with
  | none => exact hempty
  | some entries => exact hfold (entries.filter DirectoryEntry.isUpdate) [] [] hempty

end Files

section Updates

variable (sha1 : CString → List UInt8) (stored : Migration → List Migration)

/-- One complete copy of what a migration commits. -/
def FileMigration.effects (migration : FileMigration) : List Effect :=
  match splitQueries migration.fileData with
  | some queries =>
      queries.map (fun query => .query (cstr query)) ++
        (stored migration.toMigration).map .insert
  | none => []

/-- Nothing is begun, and nothing is left from an earlier transaction. -/
structure Database.Clean (db : Database) : Prop where
  transaction : db.transaction = none
  pending : db.conn.pending = []

def requests (queries : List CString) (migration : Migration) : List (SqlStatement Effect) :=
  queries.map plainRequest ++ [insertRequest stored migration]

structure Applied (db : Database) (updates applied : List FileMigration) (done : Bool)
    (db' : Database) : Prop where
  order : applied <+: updates
  split : ∀ migration ∈ applied, (splitQueries migration.fileData).isSome = true
  committed : db'.conn.committed =
    db.conn.committed ++ applied.flatMap (FileMigration.effects stored)
  all : done = true → applied = updates
  clean : done = true → db'.Clean

/-- If its INSERT is accepted, the server adds one row, for this module and hash. -/
def Recorded (migration : Migration) : Prop :=
  ∃ row, stored migration = [row] ∧ row.moduleName = migration.moduleName ∧
    row.hash = migration.hash

/-- What a database holds: one complete copy of each migration that was applied to it, with
different keys. -/
structure Ledger (data : List Effect) (applied : List FileMigration) : Prop where
  data : data = applied.flatMap (FileMigration.effects stored)
  keys : (applied.map fun migration => migration.key).Nodup
  recorded : ∀ migration ∈ applied, Recorded stored migration.toMigration ∧
    (splitQueries migration.fileData).isSome = true ∧ ':' ∉ migration.hash

theorem effects_rows {migration : FileMigration}
    (hrecorded : Recorded stored migration.toMigration)
    (hsplit : (splitQueries migration.fileData).isSome = true) :
    ((migration.effects stored).filterMap Effect.row).map Migration.key = [migration.key] := by
  obtain ⟨row, hstored, hmodule, hhash⟩ := hrecorded
  obtain ⟨queries, hqueries⟩ := Option.isSome_iff_exists.mp hsplit
  have hnone : (queries.map fun query => Effect.query (cstr query)).filterMap Effect.row = [] := by
    rw [List.filterMap_eq_nil_iff]
    intro effect hmem
    obtain ⟨query, -, rfl⟩ := List.mem_map.mp hmem
    rfl
  simp only [FileMigration.effects, hqueries, hstored, List.filterMap_append, hnone]
  simp [Effect.row, Migration.key, hmodule, hhash]

theorem Ledger.migrations {db : Database} {applied : List FileMigration}
    (h : Ledger stored db.conn.committed applied) :
    db.migrations.map Migration.key = applied.map fun migration => migration.key := by
  unfold Database.migrations
  rw [h.data]
  have hrecorded := h.recorded
  clear h
  induction applied with
  | nil => rfl
  | cons migration applied ih =>
      obtain ⟨hfirst, hsplit, -⟩ := hrecorded migration (by simp)
      rw [List.flatMap_cons, List.filterMap_append, List.map_append,
        effects_rows stored hfirst hsplit,
        ih fun migration hmem => hrecorded migration (List.mem_cons_of_mem _ hmem)]
      rfl

structure Fresh (targetPath : Option (List DirectoryEntry)) (moduleName : CString)
    (known : List CString) (updates : List FileMigration) : Prop where
  source : ∀ update ∈ updates, ∃ entry ∈ updateFiles targetPath,
    update = entry.migration sha1 moduleName
  nodup : (updates.map fun update => update.key).Nodup
  unknown : ∀ update ∈ updates, update.key ∉ known
  all : ∀ entry ∈ updateFiles targetPath, entry.canOpen = true →
    (entry.migration sha1 moduleName).key ∈ known ∨
      (entry.migration sha1 moduleName).key ∈ updates.map fun update => update.key

def Regular (targetPath : Option (List DirectoryEntry)) (moduleName : CString) : Prop :=
  ∀ entry ∈ updateFiles targetPath, entry.canOpen = true ∧
    Recorded stored (entry.migration sha1 moduleName).toMigration

structure Start.Regular (start : Start) : Prop where
  selects : ∀ call, call < (start.tree.jobs start.config).length →
    start.environment.selectFails call = false
  files : ∀ job ∈ start.tree.jobs start.config,
    DBUpdater.Regular sha1 stored job.targetPath job.moduleName

def Start.Present (start : Start) (target : Target) (moduleName hash : CString) : Prop :=
  ∃ job ∈ start.tree.jobs start.config, job.target = target ∧ job.moduleName = moduleName ∧
    ∃ entry ∈ updateFiles job.targetPath, byteArrayToHexStr (sha1 entry.content) = hash

end Updates

def smooth : Script Effect where
  begin _ := .done
  statement _ := .done
  commit _ := .done
  rollback _ := .done

end TortoiseWow.DBUpdater
