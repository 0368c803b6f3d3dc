import Forum.Service.Rules
import Forum.Settings.Environment
import Forum.Settings.File
import Forum.Settings.Node
import Forum.Settings.Reading

/-!
# The settings of the forum

All settings, and how they are put together. From the weakest to the strongest they come from
their usual values, the file `config/default`, the file of the environment that `AGORA_ENV` names,
and the variables of the process; the file `.env` adds variables that the process does not have.
-/

namespace Forum

-- Powers of numbers are the built-in ones, whatever else is in scope.
attribute [local instance (high)] instPowNat

namespace Settings

/-- Where the server listens. -/
structure Server where
  /-- The address. -/
  host : String
  /-- The port. -/
  port : Nat
  deriving DecidableEq, Repr

/-- How the database is reached. -/
structure Database where
  /-- The address. -/
  url : String
  /-- The greatest number of connections. -/
  maxConnections : Nat
  /-- The least number of connections. -/
  minConnections : Nat
  deriving DecidableEq, Repr

/-- How the key-value server is reached. -/
structure Redis where
  /-- The address. -/
  url : String
  /-- What the keys of the forum begin with. -/
  keyspace : String
  deriving DecidableEq, Repr

/-- How identifiers are made. -/
structure Identifiers where
  /-- The time from which they count. -/
  epoch : String
  /-- The number of this worker. -/
  worker : Nat
  deriving DecidableEq, Repr

/-- Where votes and scores are kept. -/
inductive Backend where
  /-- In the process. -/
  | memory
  /-- By the key-value server. -/
  | redis
  deriving DecidableEq, Repr

/-- The name of a backend. -/
def Backend.name : Backend → String
  | memory => "memory"
  | redis => "redis"

/-- The backend with a name, in any mixture of capitals. -/
def Backend.ofName? (name : String) : Option Backend :=
  [memory, redis].find? (·.name = LetterCase.lower name)

/-- The backend that a setting chooses: its name, or a table whose only entry has that name. -/
def Backend.ofNode? : Node → Option Backend
  | .text s => ofName? s
  | .table [(name, _)] => ofName? name
  | _ => none

/-- How votes and scores are kept. -/
structure Engagement where
  /-- Where they are kept. -/
  backend : Backend
  /-- Whether unknown posts count as registered. -/
  autoRegister : Bool
  /-- How long an answer may take, in milliseconds. -/
  deadline : Nat
  /-- How often a vote is tried again. -/
  maxRetries : Nat
  deriving DecidableEq, Repr

end Settings

/-- All settings. -/
structure Settings where
  server : Settings.Server
  database : Settings.Database
  redis : Settings.Redis
  identifiers : Settings.Identifiers
  engagement : Settings.Engagement
  pages : Page.Sizes
  deriving DecidableEq, Repr

namespace Settings

/-- The greatest port. -/
def maxPort : Nat := 2 ^ (16 : Nat) - 1

/-- The greatest unsigned number of 32 bits. -/
def maxCount : Nat := 2 ^ (32 : Nat) - 1

/-- Reads where the server listens. -/
def Server.read (g : Group) : Except Problem Server := do
  return ⟨← g.readOr "server" "host" 0 Node.text? "0.0.0.0",
    ← g.readOr "server" "port" 1 (Node.upTo? maxPort) 3000⟩

/-- Reads how the database is reached. The address has no usual value; that it is missing is
reported last. -/
def Database.read (g : Group) : Except Problem Database := do
  let url ← g.read? "database" "url" 0 Node.text?
  let max ← g.readOr "database" "max_connections" 1 (Node.upTo? maxCount) 100
  let min ← g.readOr "database" "min_connections" 2 (Node.upTo? maxCount) 5
  match url with
  | some url => return ⟨url, max, min⟩
  | none => throw (g.missing "url")

/-- Reads how the key-value server is reached. -/
def Redis.read (g : Group) : Except Problem Redis := do
  return ⟨← g.readOr "redis" "url" 0 Node.text? "redis://127.0.0.1:6379",
    ← g.readOr "redis" "prefix" 1 Node.text? "agora"⟩

/-- Reads how identifiers are made. -/
def Identifiers.read (g : Group) : Except Problem Identifiers := do
  return ⟨← g.readOr "id" "epoch" 0 Node.text? "2024-01-01T00:00:00Z",
    ← g.readOr "id" "worker_id" 1 Node.unsigned? 0⟩

/-- Reads which backend is chosen. -/
def Backend.read (g : Group) : Except Problem Backend :=
  match g.find? "backend" 0 with
  | none => .ok .memory
  | some n => (Backend.ofNode? n).elim (.error .malformed) .ok

/-- Reads how votes and scores are kept. -/
def Engagement.read (g : Group) : Except Problem Engagement := do
  return ⟨← Backend.read g, ← g.readOr "engagement" "auto_register" 1 Node.boolean? true,
    ← g.readOr "engagement" "deadline_ms" 2 Node.unsigned? 2000,
    ← g.readOr "engagement" "max_commit_retries" 3 (Node.upTo? maxCount) 8⟩

/-- Reads the sizes of pages. -/
def readSizes (g : Group) : Except Problem Page.Sizes := do
  return ⟨← g.readOr "pagination" "default_page_size" 0 Node.unsigned? 20,
    ← g.readOr "pagination" "max_page_size" 1 Node.unsigned? 100⟩

/-- Reads a group, if it is there. -/
def readGroup? {α : Type} (root : List (String × Node)) (name : String)
    (read : Group → Except Problem α) : Except Problem (Option α) :=
  match Node.lookup? name root with
  | none => .ok none
  | some n =>
    match Group.ofNode? n with
    | some g => (read g).map some
    | none => .error .malformed

/-- A group that must be there. -/
def required {α : Type} (name : String) : Option α → Except Problem α
  | some a => .ok a
  | none => .error (.missing name)

/-- Reads all settings from a tree. Groups that must be there are looked for last; a group that may
be left out is read as an empty one. -/
def read (root : List (String × Node)) : Except Problem Settings := do
  let empty := Group.named []
  let server ← readGroup? root "server" Server.read
  let database ← readGroup? root "database" Database.read
  let redis ← readGroup? root "redis" Redis.read
  let identifiers ← readGroup? root "id" Identifiers.read
  let engagement ← readGroup? root "engagement" Engagement.read
  let pages ← readGroup? root "pagination" readSizes
  return ⟨← required "server" server, ← required "database" database,
    ← redis.elim (Redis.read empty) .ok, ← identifiers.elim (Identifiers.read empty) .ok,
    ← engagement.elim (Engagement.read empty) .ok, ← pages.elim (readSizes empty) .ok⟩

/-- The settings of a file, by their top-level keys; none if there is no such file. -/
def layerOf [Formats] (files : Files) (name : String) : Except Problem (List (String × Node)) :=
  match find? files name with
  | none => .ok []
  | some (format, text) => (format.readFile? text).elim (.error .unreadableFile) .ok

/-- The file that adds variables. -/
def envFileName : String := ".env"

/-- The variables of the process together with those of the file that adds some. -/
def fullEnvironment (env : Environment) (files : Files) : Environment :=
  match files.get? (pathParts envFileName) with
  | some text => EnvFile.load text env
  | none => env

/-- The names of the files of settings, the weakest first. -/
def layerNames (env : Environment) : List String :=
  ["config/default", "config/" ++ (env.get? "AGORA_ENV").getD "development"]

/-- The paths of the files that settings are looked for in. -/
def fileNames [Formats] (env : Environment) : List String :=
  (layerNames env).flatMap fun name => name :: (extended name).map (·.2)

/-- The tree of all layers, the strongest merged last. -/
def tree [Formats] (env : Environment) (files : Files) : Except Problem (List (String × Node)) := do
  let env := fullEnvironment env files
  let layers ← (layerNames env).mapM (layerOf files)
  let files := layers.foldl (fun root layer => merge layer root) (.table [])
  return (merge env.settings files).entries

/-- Puts the settings together. -/
def load [Formats] (env : Environment) (files : Files) : Except Problem Settings := do
  read (← tree env files)

end Settings

end Forum
