import Forum.Engagement.Tally
import Forum.Number.Binary64
import Forum.Redis.Address

/-!
# The shared engagement store

The engagement store of several processes, kept by a key-value server: the commands that it sends,
and how it reads the replies.
-/

/-! ## Replies

What the server may answer to a command, and how an answer is read as the kind of value the caller
expects. A list with one element counts as that element, and a single value as a list of one.
Whole numbers are also read from their decimal text. Anything that does not fit is no answer. -/

namespace Forum.Redis

-- Powers of numbers are the built-in ones, whatever else is in scope.
attribute [local instance (high)] instPowNat

/-- An answer of the server. -/
inductive Reply where
  /-- No value. -/
  | nil
  /-- A whole number. -/
  | integer (n : Int)
  /-- A text. -/
  | bulk (s : String)
  /-- A list of answers. -/
  | array (items : List Reply)
  /-- A number with a point. -/
  | double (x : Binary64)
  /-- The command failed. -/
  | error (text : String)
  deriving Repr, Inhabited

namespace Reply

/-- The value inside lists of one element. -/
def single : Reply → Reply
  | .array [r] => r.single
  | r => r

/-- The answer as a whole number in a range. -/
def wholeWithin? (lo hi : Int) (r : Reply) : Option Int :=
  let number := match r.single with
    | .integer n => some n
    | .bulk s => Numeral.integer? s.toList
    | _ => none
  number.filter fun n => lo ≤ n && n ≤ hi

/-- The answer as a signed number of 64 bits. -/
def int64? (r : Reply) : Option Int64 :=
  (r.wholeWithin? (-2 ^ (63 : Nat)) (2 ^ (63 : Nat) - 1)).map Int64.ofInt

/-- The answer as a count. -/
def count? (r : Reply) : Option Nat :=
  (r.wholeWithin? 0 (2 ^ (64 : Nat) - 1)).map Int.toNat

/-- The answer as a binary number. -/
def binary64? (r : Reply) : Option Binary64 :=
  match r.single with
  | .integer n => some (.ofInt n)
  | .bulk s => Binary64.parse? s.toList
  | .double x => some x
  | _ => none

/-- The answer as a text. -/
def text? (r : Reply) : Option String :=
  match r.single with
  | .integer n => some (toString n)
  | .bulk s => some s
  | _ => none

/-- The answer as a value that may be absent. -/
def orAbsent? {α : Type} (read : Reply → Option α) (r : Reply) : Option (Option α) :=
  match r.single with
  | .nil | .array [] => some none
  | r => (read r).map some

/-- The answer as a list. -/
def list? {α : Type} (read : Reply → Option α) : Reply → Option (List α)
  | .nil => some []
  | .array items => items.mapM read
  | r => (read r).map ([·])

end Reply

end Forum.Redis

/-! ## Commands

The engagement store of several processes, kept by a key-value server. Every call is at most one
command. Under a prefix of its own the store uses a hash per post, from users to their votes, and
one sorted set, from posts to their scores. Members of the set are padded to nineteen digits, so
that their order as texts, by which the server breaks ties, is their order as numbers. -/

namespace Forum.Redis

-- Powers of numbers are the built-in ones, whatever else is in scope.
attribute [local instance (high)] instPowNat

/-- A store under a prefix. -/
structure Store where
  /-- What the keys of this store begin with. -/
  keyspace : String
  deriving DecidableEq, Repr

namespace Store

/-- The key of the votes on a post. -/
def votesKey (s : Store) (post : Int64) : String :=
  s!"{s.keyspace}:votes:{post}"

/-- The key of the scores. -/
def scoresKey (s : Store) : String :=
  s!"{s.keyspace}:scores"

/-- The member that stands for a post. -/
def member (post : Int64) : String :=
  String.ofList (Numeral.padded 19 post.toInt)

/-- The post that a member stands for. -/
def ofMember? (m : String) : Option Int64 :=
  Numeral.int64? m.toList

/-- The text that stands for a recorded vote; empty if there is none. -/
def storedVote : Option Direction → String
  | some d => d.stored
  | none => ""

/-- A number of 64 bits as an index of the server: indices beyond its range become the greatest. -/
def index (n : UInt64) : Int :=
  min (n.toNat : Int) (2 ^ (63 : Nat) - 1)

/-- The places of a window, first and last. -/
def range (offset limit : UInt64) : Int × Int :=
  (index offset, min (index offset + (index limit - 1)) (2 ^ (63 : Nat) - 1))

/-- The command for a call. An empty window needs none. -/
def command? (s : Store) : Engagement.Call → Option Command
  | .voteOf post user => some (.hashGet (s.votesKey post) (toString user))
  | .commitVote c =>
    some (.eval .commitVote [s.votesKey c.post, s.scoresKey]
      [toString c.user, storedVote c.previous, c.next.stored, toString c.delta, member c.post])
  | .register post => some (.sortedAdd s.scoresKey (member post))
  | .adjustScore post delta =>
    some (.sortedIncrement s.scoresKey (Binary64.ofInt delta.toInt).text (member post))
  | .scoreOf post => some (.sortedScore s.scoresKey (member post))
  | .topByScore offset limit =>
    if limit = 0 then none
    else some (.sortedRange s.scoresKey (range offset limit).1 (range offset limit).2)
  | .cardinality => some (.sortedCount s.scoresKey)
  | .remove post => some (.eval .removePost [s.votesKey post, s.scoresKey] [member post])

/-- An answer that does not fit the call. -/
def unreadable : Fault :=
  .storeUnavailable "the reply cannot be read"

/-- What was read, or the fault that it could not be. -/
def orUnreadable {α : Type} : Option α → Except Fault α
  | some a => .ok a
  | none => .error unreadable

/-- A score as a whole number, the places after the point dropped. -/
def wholeScore (x : Binary64) : Int64 :=
  Int64.ofInt (x.truncateWithin (-2 ^ (63 : Nat)) (2 ^ (63 : Nat) - 1))

/-- The vote that is kept under a text. -/
def readVote : Option String → Except Fault (Option Direction)
  | none => .ok none
  | some s =>
    match Direction.ofStored? s with
    | some d => .ok (some d)
    | none => .error (.internal s!"Malformed vote value: {s}")

/-- The fault of a script that reports something else than an outcome. -/
def unexpected (numbers : List Int64) : Fault :=
  let list := ", ".intercalate (numbers.map toString)
  .internal s!"Unexpected commit reply: [{list}]"

/-- The outcome that the script reports: one and the score, or zero. -/
def readOutcome : List Int64 → Except Fault Engagement.Outcome
  | [done, score] =>
    if done = 1 then .ok (.committed score)
    else if done = 0 then .ok .conflict
    else .error (unexpected [done, score])
  | other => .error (unexpected other)

/-- The posts that members stand for. -/
def readMembers (members : List String) : Except Fault (List Int64) :=
  members.mapM fun m =>
    match ofMember? m with
    | some post => .ok post
    | none => .error (.internal s!"Malformed score member: {m}")

/-- The answer to a call, read from a reply of the server that is not an error. -/
def read (r : Reply) : (c : Engagement.Call) → Except Fault c.Reply
  | .voteOf .. => do readVote (← orUnreadable (r.orAbsent? Reply.text?))
  | .commitVote _ => do readOutcome (← orUnreadable (r.list? Reply.int64?))
  | .register _ => do return (0 < (← orUnreadable r.int64?))
  | .adjustScore .. => do return wholeScore (← orUnreadable r.binary64?)
  | .scoreOf _ => do return (← orUnreadable (r.orAbsent? Reply.binary64?)).map wholeScore
  | .topByScore .. => do readMembers (← orUnreadable (r.list? Reply.text?))
  | .cardinality => orUnreadable r.count?
  | .remove _ => do let _ ← orUnreadable r.int64?; return ()

/-- The answer to a call, read from the reply of the server. -/
def interpret (r : Reply) (c : Engagement.Call) : Except Fault c.Reply :=
  match r with
  | .error text => .error (.storeUnavailable text)
  | r => read r c

/-- The answer to a call that needs no command. -/
def immediate : (c : Engagement.Call) → Except Fault c.Reply
  | .topByScore .. => .ok []
  | _ => .error unreadable

end Store

end Forum.Redis
