import Forum.Redis.Store
import Std.Data.ExtTreeMap

/-!
# The keyspace of the key-value server

What the server does with the commands of the shared engagement store. A key holds a value of one
type, and a command for another type is refused. Scores are whole numbers here: the server's own
numbers are exact up to 2^53. A script is not undone when one of its steps is refused, so the
script that commits a vote makes all its checks before it writes anything.
-/

namespace Forum.Redis

/-- What a key can hold. -/
inductive Value where
  /-- A text. -/
  | text (s : String)
  /-- Texts in order. -/
  | list (items : List String)
  /-- Texts without order. -/
  | set (members : List String)
  /-- A text for each field. -/
  | hash (fields : Std.ExtTreeMap String String)
  /-- A score for each member. -/
  | sortedSet (scores : Std.ExtTreeMap String Int)
  /-- A value of a type that the store has no command for. -/
  | other (content : String)

/-- The keys with their values. -/
structure Keyspace where
  /-- The value of each key. -/
  values : Std.ExtTreeMap String Value := ∅

namespace Keyspace

/-- A server without keys. -/
def empty : Keyspace := {}

/-- The answer to a command for another type of value. -/
def wrongType : Reply :=
  .error "WRONGTYPE Operation against a key holding the wrong kind of value"

/-- The fields of a hash; a key without a value counts as an empty one. -/
def fields? (k : Keyspace) (key : String) : Option (Std.ExtTreeMap String String) :=
  match k.values[key]? with
  | none => some ∅
  | some (.hash fields) => some fields
  | some _ => none

/-- The scores of a sorted set; a key without a value counts as an empty one. -/
def scores? (k : Keyspace) (key : String) : Option (Std.ExtTreeMap String Int) :=
  match k.values[key]? with
  | none => some ∅
  | some (.sortedSet scores) => some scores
  | some _ => none

/-- Gives a key a value. -/
def put (k : Keyspace) (key : String) (v : Value) : Keyspace :=
  ⟨k.values.insert key v⟩

/-- Takes a key away. -/
def erase (k : Keyspace) (key : String) : Keyspace :=
  ⟨k.values.erase key⟩

/-- The value of a field of a hash. -/
def hashGet (k : Keyspace) (key field : String) : Reply :=
  match k.fields? key with
  | none => wrongType
  | some fields => (fields[field]?).elim .nil .bulk

/-- Enters a member with score zero into a sorted set, and says how many were entered. -/
def sortedAdd (k : Keyspace) (key member : String) : Reply × Keyspace :=
  match k.scores? key with
  | none => (wrongType, k)
  | some scores =>
    if member ∈ scores then (.integer 0, k)
    else (.integer 1, k.put key (.sortedSet (scores.insert member 0)))

/-- Adds to the score of a member, which is entered first if it is not there. -/
def sortedIncrement (k : Keyspace) (key delta member : String) : Reply × Keyspace :=
  match Numeral.integer? delta.toList, k.scores? key with
  | none, _ => (.error "ERR value is not a valid float", k)
  | some _, none => (wrongType, k)
  | some n, some scores =>
    let score := scores[member]?.getD 0 + n
    (.bulk (toString score), k.put key (.sortedSet (scores.insert member score)))

/-- The score of a member. -/
def sortedScore (k : Keyspace) (key member : String) : Reply :=
  match k.scores? key with
  | none => wrongType
  | some scores => (scores[member]?).elim .nil fun score => .bulk (toString score)

/-- The order of a sorted set from its end: falling score, equal scores by falling member. -/
def precedes (a b : String × Int) : Bool :=
  b.2 < a.2 || (a.2 = b.2 && b.1 ≤ a.1)

/-- The members of a sorted set from its end. -/
def descending (scores : Std.ExtTreeMap String Int) : List String :=
  (scores.toList.mergeSort precedes).map (·.1)

/-- A place in a list of the given length; negative places count from the end. -/
def place (n : Int) (length : Nat) : Int :=
  if 0 ≤ n then n else max 0 (n + length)

/-- The items between two places, both included. -/
def between {α : Type} (start stop : Int) (items : List α) : List α :=
  let first := place start items.length
  let last := if 0 ≤ stop then stop else stop + items.length
  (items.drop first.toNat).take (last - first + 1).toNat

/-- The members of a sorted set between two places, counted from its end. -/
def sortedRange (k : Keyspace) (key : String) (start stop : Int) : Reply :=
  match k.scores? key with
  | none => wrongType
  | some scores => .array ((between start stop (descending scores)).map .bulk)

/-- The number of members of a sorted set. -/
def sortedCount (k : Keyspace) (key : String) : Reply :=
  match k.scores? key with
  | none => wrongType
  | some scores => .integer scores.size

/-- Takes a member out of a sorted set. A set without members is no value. -/
def sortedRemove (k : Keyspace) (key member : String) : Reply × Keyspace :=
  match k.scores? key with
  | none => (wrongType, k)
  | some scores =>
    if member ∈ scores then
      let scores := scores.erase member
      (.integer 1, if scores.isEmpty then k.erase key else k.put key (.sortedSet scores))
    else (.integer 0, k)

/-- Records a vote in a hash and adds to the score of its post, if the recorded vote is the
expected one. The answer is one and the new score, or two zeros. -/
def commitVote (k : Keyspace) (votes scores user expected next delta post : String) :
    Reply × Keyspace :=
  match k.fields? votes with
  | none => (wrongType, k)
  | some fields =>
    if fields[user]?.getD "" ≠ expected then (.array [.integer 0, .integer 0], k)
    else if (k.scores? scores).isNone then
      (.error "WRONGTYPE score index is not a sorted set", k)
    else
      match (k.put votes (.hash (fields.insert user next))).sortedIncrement scores delta post with
      | (.bulk score, k) =>
        (.array [.integer 1, .integer ((Numeral.integer? score.toList).getD 0)], k)
      | (reply, k) => (reply, k)

/-- Forgets the votes and the score of a post. -/
def removePost (k : Keyspace) (votes scores post : String) : Reply × Keyspace :=
  match (k.erase votes).sortedRemove scores post with
  | (.error text, k) => (.error text, k)
  | (_, k) => (.integer 1, k)

/-- Runs a script. -/
def runScript (k : Keyspace) : Script → List String → List String → Reply × Keyspace
  | .commitVote, [votes, scores], [user, expected, next, delta, post] =>
    k.commitVote votes scores user expected next delta post
  | .removePost, [votes, scores], [post] => k.removePost votes scores post
  | _, _, _ => (.error "ERR wrong number of arguments", k)

/-- Executes a command. -/
def execute (k : Keyspace) : Command → Reply × Keyspace
  | .hashGet key field => (k.hashGet key field, k)
  | .eval script keys arguments => k.runScript script keys arguments
  | .sortedAdd key member => k.sortedAdd key member
  | .sortedIncrement key delta member => k.sortedIncrement key delta member
  | .sortedScore key member => (k.sortedScore key member, k)
  | .sortedRange key start stop => (k.sortedRange key start stop, k)
  | .sortedCount key => (k.sortedCount key, k)

end Keyspace

/-- Answers a call of the engagement store by way of the server. -/
def Store.answer (s : Store) (k : Keyspace) (c : Engagement.Call) :
    Except Fault c.Reply × Keyspace :=
  match s.command? c with
  | none => (Store.immediate c, k)
  | some command =>
    let (reply, k) := k.execute command
    (Store.interpret reply c, k)

end Forum.Redis

/-! ## Scripts step by step

A script is a program that the server runs on its own keys, one command after the other. A command
that is refused ends the script with its error, and what the commands before it have written stays:
nothing is taken back. `Steps.commitVote` is the script that records a vote together with its score,
written in this way. -/

namespace Forum.Redis

/-- What the server answers when it is asked for the type of a value. -/
inductive Kind where
  /-- The key has no value. -/
  | nothing
  | text
  | list
  | set
  | hash
  | sortedSet
  | other
  deriving DecidableEq, Repr

/-- The type of a value. -/
def Kind.ofValue : Value → Kind
  | .text _ => text
  | .list _ => list
  | .set _ => set
  | .hash _ => hash
  | .sortedSet _ => sortedSet
  | .other _ => other

namespace Keyspace

/-- The type of what a key holds. -/
def kind (k : Keyspace) (key : String) : Kind :=
  (k.values[key]?).elim .nothing .ofValue

/-- Sets a field of a hash, and says how many fields are new. -/
def hashSet (k : Keyspace) (key field value : String) : Reply × Keyspace :=
  match k.fields? key with
  | none => (wrongType, k)
  | some fields =>
    (.integer (if field ∈ fields then 0 else 1), k.put key (.hash (fields.insert field value)))

end Keyspace

/-- The steps of a script. They end early with a reply, and the keys are then as they were left. -/
abbrev Steps := ExceptT Reply (StateM Keyspace)

namespace Steps

/-- Calls a command. Its error ends the script. -/
def call (command : Keyspace → Reply × Keyspace) : Steps Reply :=
  ExceptT.mk fun k =>
    match command k with
    | (.error text, k) => (.error (.error text), k)
    | (reply, k) => (.ok reply, k)

/-- The text of a field; no value counts as the empty one. -/
def textOf : Reply → String
  | .bulk s => s
  | _ => ""

/-- The number that is given as text. -/
def numberOf (r : Reply) : Int :=
  (Numeral.integer? (textOf r).toList).getD 0

/-- Records a vote in a hash and adds to the score of its post, if the recorded vote is the expected
one. All checks stand before the first command that writes. -/
def commitVote (votes scores user expected next delta post : String) : Steps Reply := do
  let current ← call fun k => (k.hashGet votes user, k)
  if textOf current ≠ expected then
    return .array [.integer 0, .integer 0]
  let kind := (← getThe Keyspace).kind scores
  if kind ≠ .sortedSet ∧ kind ≠ .nothing then
    return .error "WRONGTYPE score index is not a sorted set"
  let _ ← call fun k => k.hashSet votes user next
  let score ← call fun k => k.sortedIncrement scores delta post
  return .array [.integer 1, .integer (numberOf score)]

/-- Runs the steps: the reply, and the keys as they are left. -/
def reply (steps : Steps Reply) (k : Keyspace) : Reply × Keyspace :=
  match StateT.run (ExceptT.run steps) k with
  | (.ok r, k) => (r, k)
  | (.error r, k) => (r, k)

end Steps

end Forum.Redis
