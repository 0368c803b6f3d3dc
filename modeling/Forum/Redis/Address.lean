import Forum.Fault
import Forum.Url.Address

/-!
# The key-value server

The address under which the server is reached, and the commands that it is sent.
-/

namespace Forum.Redis

/-! ## Addresses of key-value servers

The check of a key-value server's address before it is reached. -/

/-- Checks an address: it has to be a URL. -/
def checkAddress (url : String) : Except Fault Unit :=
  if (Url.scheme? url).isSome then .ok ()
  else .error (.storeUnavailable s!"The address '{url}' cannot be parsed.")

/-! ## Commands of the key-value server

The commands that the shared engagement store sends, each as a name and arguments. Two scripts run
on the server as one step each: one records a vote together with its score, the other removes
both. -/

/-- The scripts that run on the server. -/
inductive Script where
  /-- Record a vote if the recorded one is still the expected one, and move the score. -/
  | commitVote
  /-- Forget the votes and the score of a post. -/
  | removePost
  deriving DecidableEq, Repr

/-- A command. -/
inductive Command where
  /-- The value of a field of a hash. -/
  | hashGet (key field : String)
  /-- Run a script on keys with arguments. -/
  | eval (script : Script) (keys arguments : List String)
  /-- Enter a member with score zero into a sorted set, unless it is there. -/
  | sortedAdd (key member : String)
  /-- Add to the score of a member of a sorted set. -/
  | sortedIncrement (key delta member : String)
  /-- The score of a member of a sorted set. -/
  | sortedScore (key member : String)
  /-- The members of a sorted set between two places, counted from the greatest score. -/
  | sortedRange (key : String) (start stop : Int)
  /-- The number of members of a sorted set. -/
  | sortedCount (key : String)
  deriving DecidableEq, Repr

/-- The words of a command, given the text of each script. -/
def Command.words (text : Script → String) : Command → List String
  | .hashGet key field => ["HGET", key, field]
  | .eval script keys arguments =>
    ["EVAL", text script, toString keys.length] ++ keys ++ arguments
  | .sortedAdd key member => ["ZADD", key, "NX", "0", member]
  | .sortedIncrement key delta member => ["ZINCRBY", key, delta, member]
  | .sortedScore key member => ["ZSCORE", key, member]
  | .sortedRange key start stop => ["ZRANGE", key, toString start, toString stop, "REV"]
  | .sortedCount key => ["ZCARD", key]

end Forum.Redis
