import Forum.Settings.Environment
import Forum.Text.Scan

/-!
# Local databases

How a database for trying things out is reached: the parts of its address come from variables of
their own, each with a usual value.
-/

namespace Forum.Database

-- Powers of numbers are the built-in ones, whatever else is in scope.
attribute [local instance (high)] instPowNat

/-- A database for trying things out. -/
structure Local where
  /-- The host. -/
  host : String
  /-- The port. -/
  port : Nat
  /-- The name of the user. -/
  username : String
  /-- The password. -/
  password : String
  /-- The name of the database. -/
  database : String
  deriving DecidableEq, Repr

namespace Local

/-- The usual port. -/
def usualPort : Nat := 5433

/-- The database that the variables describe. A port that is not a number of 16 bits is the usual
one. -/
def ofEnvironment (env : Settings.Environment) : Local where
  host := (env.get? "TEST_DB_HOST").getD "localhost"
  port := ((env.get? "TEST_DB_PORT").bind fun s =>
    Numeral.below? (2 ^ (16 : Nat)) s.toList).getD usualPort
  username := (env.get? "TEST_DB_USER").getD "agora_test"
  password := (env.get? "TEST_DB_PASSWORD").getD "agora_test"
  database := (env.get? "TEST_DB_NAME").getD "agora_test"

/-- The address, with the parts as they are. -/
def url (d : Local) : String :=
  s!"postgres://{d.username}:{d.password}@{d.host}:{d.port}/{d.database}"

end Local

end Forum.Database
