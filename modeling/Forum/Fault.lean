import Forum.Identifier.Layout
import Forum.Text.CharClass

/-!
# Faults

What goes wrong and how it is reported, for all services and for the database.
-/

/-! ## Faults

Everything a request to the forum can fail with. Each fault has a wording, a short code and the
status of the response that reports it. A fault of the server's own has a status from 500 on, and
two causes pass by themselves, so that the caller may try again. -/

namespace Forum

/-- Why a request failed. -/
inductive Fault where
  /-- Something named does not exist. -/
  | notFound (what : String)
  /-- A post does not exist. -/
  | postNotFound (post : Int64)
  /-- The caller is not known. -/
  | unauthorized
  /-- The caller may not do this. -/
  | forbidden (reason : String)
  /-- The input is not acceptable. -/
  | validation (reason : String)
  /-- The request competes with another one, or with what is stored. -/
  | conflict (reason : String)
  /-- The vote is a like, and a like is recorded. -/
  | alreadyLiked (post : Int64)
  /-- The vote is a dislike, and no like is recorded. -/
  | notPreviouslyLiked (post : Int64)
  /-- No identifier can be had. -/
  | identifier (error : Identifier.Error)
  /-- The engagement store does not answer. -/
  | storeUnavailable (reason : String)
  /-- The database refuses a statement. -/
  | database (reason : String)
  /-- The settings cannot be used. -/
  | configuration (reason : String)
  /-- Anything else. -/
  | internal (reason : String)
  deriving DecidableEq, Repr

namespace Fault

/-- The wording of a fault. -/
def message : Fault → String
  | notFound what => s!"Not found: {what}"
  | postNotFound post => s!"Post not found: {post}"
  | unauthorized => "Unauthorized"
  | forbidden reason => s!"Forbidden: {reason}"
  | validation reason => s!"Validation error: {reason}"
  | conflict reason => s!"Conflict: {reason}"
  | alreadyLiked post => s!"Post {post} already liked"
  | notPreviouslyLiked post => s!"Post {post} has no like to turn into a dislike"
  | identifier error => s!"ID generation failed: {error.message}"
  | storeUnavailable reason => s!"Store unavailable: {reason}"
  | database reason => s!"Database error: {reason}"
  | configuration reason => s!"Configuration error: {reason}"
  | internal reason => s!"Internal error: {reason}"

/-- The fault of a setting that is not there. -/
def missingProperty (name : String) : Fault :=
  configuration ("configuration property " ++ Quoted.encode name ++ " not found")

/-- Whether the caller may try the same request again later. -/
def isRetryable : Fault → Bool
  | storeUnavailable _ => true
  | identifier error => error.isRetryable
  | _ => false

/-- The code by which programs tell faults apart. -/
def code : Fault → String
  | notFound _ => "NOT_FOUND"
  | postNotFound _ => "POST_NOT_FOUND"
  | unauthorized => "UNAUTHORIZED"
  | forbidden _ => "FORBIDDEN"
  | validation _ => "VALIDATION_ERROR"
  | conflict _ => "CONFLICT"
  | alreadyLiked _ => "ALREADY_LIKED"
  | notPreviouslyLiked _ => "NOT_PREVIOUSLY_LIKED"
  | identifier error => if error.isRetryable then "CLOCK_SKEW" else "ID_GENERATION_ERROR"
  | storeUnavailable _ => "STORE_UNAVAILABLE"
  | database _ => "DATABASE_ERROR"
  | configuration _ => "CONFIG_ERROR"
  | internal _ => "INTERNAL_ERROR"

/-- The status of the response that reports a fault. -/
def status : Fault → Nat
  | notFound _ | postNotFound _ => 404
  | unauthorized => 401
  | forbidden _ => 403
  | validation _ | notPreviouslyLiked _ => 400
  | conflict _ | alreadyLiked _ => 409
  | identifier error => if error.isRetryable then 503 else 500
  | storeUnavailable _ => 503
  | database _ | configuration _ | internal _ => 500

/-- Whether the fault is the server's own. -/
def isServerError (f : Fault) : Bool :=
  500 ≤ f.status

end Fault

end Forum

/-! ## Failures of the database

Why a statement, a migration or a connection fails, and the fault that reports it. -/

namespace Forum.Database

/-- Why the database refuses. -/
inductive Failure where
  /-- A value that must be unique is there already. -/
  | duplicateKey (column : String)
  /-- The failure was asked for. -/
  | injected
  /-- A migration is recorded as applied, but is not known. -/
  | unknownMigration (versions : List String)
  /-- The address of the database is not a URL. -/
  | unreadableAddress (url : String)
  /-- The address belongs to another kind of database. -/
  | unsupportedAddress (url : String)
  deriving DecidableEq, Repr

/-- The report on one migration that is applied but not known. -/
def unknownMigrationText (version : String) : String :=
  s!"Migration file of version '{version}' is missing, "
    ++ "this migration has been applied but its file is missing"

/-- The wording of a failure. -/
def Failure.message : Failure → String
  | .duplicateKey column => s!"Custom Error: duplicate key: {column}"
  | .injected => "Custom Error: injected failure"
  | .unknownMigration versions =>
    "Custom Error: " ++ "\n".intercalate (versions.map unknownMigrationText)
  | .unreadableAddress url =>
    s!"Connection Error: The connection string '{url}' cannot be parsed."
  | .unsupportedAddress url =>
    s!"Connection Error: The connection string '{url}' has no supporting driver."

/-- The fault that reports a failure. -/
def Failure.fault (f : Failure) : Fault :=
  .database f.message

end Forum.Database
