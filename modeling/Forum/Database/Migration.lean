import Forum.Fault

/-!
# Migrations

The steps by which the tables of the database come to be, and by which they are taken down again.
The database records which migrations it has applied, in the order of their application. Going up
applies what is not recorded, oldest first; going down takes back what is recorded, newest first.
A migration is recorded when all of its statements have been executed. If the record names a
migration that is not known here, nothing is done.
-/

namespace Forum.Database

/-- A migration: its version, the statements that apply it, and those that take it back. -/
structure Migration where
  /-- The version, by which it is recorded. -/
  version : String
  /-- The statements that apply it. -/
  up : List String
  /-- The statements that take it back. -/
  down : List String
  deriving DecidableEq, Repr

namespace Migration

/-- The table of the users. -/
def createUser : Migration where
  version := "m20250101_000001_create_user_table"
  up := [
    "CREATE TABLE IF NOT EXISTS \"user\" ( \"id\" bigint NOT NULL PRIMARY KEY, "
      ++ "\"username\" varchar(128) NOT NULL, \"username_lower\" varchar(128) NOT NULL, "
      ++ "\"token\" varchar(64) NOT NULL, "
      ++ "\"created_at\" timestamp with time zone NOT NULL DEFAULT CURRENT_TIMESTAMP )",
    "CREATE UNIQUE INDEX \"idx_user_username_lower\" ON \"user\" (\"username_lower\")",
    "CREATE UNIQUE INDEX \"idx_user_token\" ON \"user\" (\"token\")"]
  down := ["DROP TABLE \"user\""]

/-- The table of the posts. -/
def createPost : Migration where
  version := "m20250101_000002_create_post_table"
  up := [
    "CREATE TABLE IF NOT EXISTS \"post\" ( \"id\" bigint NOT NULL PRIMARY KEY, "
      ++ "\"user_id\" bigint NOT NULL, \"title\" varchar(256) NOT NULL, "
      ++ "\"content\" text NOT NULL, "
      ++ "\"created_at\" timestamp with time zone NOT NULL DEFAULT CURRENT_TIMESTAMP, "
      ++ "CONSTRAINT \"fk_post_user\" FOREIGN KEY (\"user_id\") REFERENCES \"user\" (\"id\") "
      ++ "ON DELETE CASCADE )",
    "CREATE INDEX \"idx_post_user_id_id\" ON \"post\" (\"user_id\", \"id\")"]
  down := ["DROP TABLE \"post\""]

/-- All migrations, oldest first. -/
def all : List Migration :=
  [createUser, createPost]

/-- Whether a migration has a version. -/
def isKnown (version : String) : Bool :=
  all.any (·.version = version)

end Migration

/-- Which way to go. -/
inductive MigrationDirection where
  | up
  | down
  deriving DecidableEq, Repr

/-- How far a run of migrations has come. -/
structure MigrationRun where
  /-- The recorded versions, in the order of their application. -/
  recorded : List String
  /-- The statements that were executed or failed, in order. -/
  issued : List String
  deriving DecidableEq, Repr

namespace MigrationRun

/-- Executes statements one after the other. The places of those that fail are given, counted from
the start of the run. -/
def executeAll (failing : List Nat) : List String → MigrationRun → Except Fault Unit × MigrationRun
  | [], r => (.ok (), r)
  | s :: rest, r =>
    let place := r.issued.length
    let r := { r with issued := r.issued ++ [s] }
    if place ∈ failing then (.error Failure.injected.fault, r) else executeAll failing rest r

/-- Applies a migration, or takes it back. -/
def step (failing : List Nat) (direction : MigrationDirection) (m : Migration) (r : MigrationRun) :
    Except Fault Unit × MigrationRun :=
  match direction with
  | .up =>
    match executeAll failing m.up r with
    | (.ok (), r) => (.ok (), { r with recorded := r.recorded ++ [m.version] })
    | (.error f, r) => (.error f, r)
  | .down =>
    match executeAll failing m.down r with
    | (.ok (), r) => (.ok (), { r with recorded := r.recorded.filter (· ≠ m.version) })
    | (.error f, r) => (.error f, r)

/-- Goes through migrations until one fails. -/
def steps (failing : List Nat) (direction : MigrationDirection) :
    List Migration → MigrationRun → Except Fault Unit × MigrationRun
  | [], r => (.ok (), r)
  | m :: rest, r =>
    match step failing direction m r with
    | (.ok (), r) => steps failing direction rest r
    | (.error f, r) => (.error f, r)

/-- The migrations that are still to be gone through. -/
def due (direction : MigrationDirection) (recorded : List String) : List Migration :=
  match direction with
  | .up => Migration.all.filter (·.version ∉ recorded)
  | .down => Migration.all.reverse.filter (·.version ∈ recorded)

end MigrationRun

/-- Goes up or down from the recorded versions, by at most the given number of migrations. -/
def migrate (recorded : List String) (direction : MigrationDirection) (count : Option Nat)
    (failing : List Nat) : Except Fault Unit × MigrationRun :=
  match recorded.filter (!Migration.isKnown ·) with
  | [] =>
    let due := MigrationRun.due direction recorded
    MigrationRun.steps failing direction (due.take (count.getD due.length)) ⟨recorded, []⟩
  | unknown => (.error (Failure.unknownMigration unknown).fault, ⟨recorded, []⟩)

end Forum.Database
