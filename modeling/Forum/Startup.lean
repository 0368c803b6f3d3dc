import Forum.Fault
import Forum.Identifier.Generator
import Forum.Settings.Load
import Forum.Url.Address

/-!
# Startup

The address of the database, and what the server does before it reaches it.
-/

/-! ## Addresses of databases

The check of a database's address before it is reached. The address has to be a URL, and its scheme
has to be one of the kind of database that there is a driver for. -/

namespace Forum.Database

/-- The schemes of the databases that can be reached. -/
def schemes : List String :=
  ["postgres", "postgresql"]

/-- Checks an address. -/
def checkAddress (url : String) : Except Failure Unit :=
  match Url.scheme? url with
  | none => .error (.unreadableAddress url)
  | some scheme => if scheme ∈ schemes then .ok () else .error (.unsupportedAddress url)

end Forum.Database

/-! ## Startup

What the server does before it reaches the database: it puts the settings together, sets up the
generator of identifiers, and looks at the address of the database. The first of these that fails
ends the startup. -/

namespace Forum

namespace Startup

/-- Why the server does not start. -/
inductive Failure where
  /-- The settings cannot be used. -/
  | settings (problem : Settings.Problem)
  /-- No identifiers can be issued. -/
  | identifiers (error : Identifier.Error)
  /-- The database cannot be reached. -/
  | database (failure : Database.Failure)
  deriving DecidableEq, Repr

/-- An error of the identifiers, in the form for diagnostics. -/
def identifierText : Identifier.Error → String
  | .invalidWorker worker max =>
    "InvalidWorker \x7b worker: " ++ toString worker ++ ", max: " ++ toString max ++ " \x7d"
  | .invalidEpoch reason => "InvalidEpoch(" ++ Quoted.encode reason ++ ")"
  | .invalidLayout reason => "InvalidLayout(" ++ Quoted.encode reason ++ ")"
  | .clockSkew last now =>
    "ClockSkew \x7b last: " ++ toString last ++ ", now: " ++ toString now ++ " \x7d"
  | .timestampOverflow => "TimestampOverflow"

/-- A failure, in the form for diagnostics. -/
def Failure.text : Failure → String
  | settings _ => "configuration"
  | identifiers error => identifierText error
  | database failure => "Database(" ++ Quoted.encode failure.message ++ ")"

/-- What the server has when it is about to reach the database. -/
structure Ready where
  /-- The settings. -/
  settings : Settings
  /-- The generator of identifiers. -/
  generator : Identifier.Generator
  /-- The clock as the generator has left it. -/
  clock : Identifier.Clock

end Startup

/-- Starts the server up to the point where it reaches the database. -/
def start [Settings.Formats] (env : Settings.Environment) (files : Settings.Files)
    (clock : Identifier.Clock) : Except Startup.Failure Startup.Ready := do
  let settings ← (Settings.load env files).mapError .settings
  let ids := settings.identifiers
  let (generator, clock) ←
    (Identifier.Generator.start .standard ids.worker ids.epoch clock).mapError .identifiers
  (Database.checkAddress settings.database.url).mapError .database
  return ⟨settings, generator, clock⟩

end Forum
