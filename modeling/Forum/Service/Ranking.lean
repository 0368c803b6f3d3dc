import Forum.Service.Rules
import Forum.Workflow

/-!
# Ranking and voting

The services that ask the engagement store: the ranking of the posts and the votes on them.
-/

/-! ## The ranking

Posts by score. Every question to the engagement store has a deadline. Posts that the store does
not know are treated as the rules say: as registered with score zero, or as not there. -/

namespace Forum.Ranking

/-- Asks the engagement store. -/
def call (rules : Rules) (c : Engagement.Call) : Service c.Reply :=
  Service.ask (.engagement rules.deadline c)

/-- Enters a post, and says whether it was unknown. -/
def register (rules : Rules) (post : Int64) : Service Bool :=
  call rules (.register post)

/-- Fails unless the post is registered. -/
def requireRegistered (rules : Rules) (post : Int64) : Service Unit := do
  match ← call rules (.scoreOf post) with
  | some _ => return ()
  | none => throw (.postNotFound post)

/-- Adds to the score of a post. -/
def adjustScore (rules : Rules) (post delta : Int64) : Service Int64 := do
  if !rules.autoRegister then requireRegistered rules post
  call rules (.adjustScore post delta)

/-- The score of a post. -/
def scoreOf (rules : Rules) (post : Int64) : Service Int64 := do
  match ← call rules (.scoreOf post) with
  | some score => return score
  | none => if rules.autoRegister then return 0 else throw (.postNotFound post)

/-- A window of the posts by falling score. -/
def topByScore (rules : Rules) (offset limit : UInt64) : Service (List Int64) :=
  call rules (.topByScore offset limit)

/-- The number of ranked posts. -/
def cardinality (rules : Rules) : Service Nat :=
  call rules .cardinality

/-- Forgets a post and its votes. -/
def remove (rules : Rules) (post : Int64) : Service Unit :=
  call rules (.remove post)

end Forum.Ranking

/-! ## Voting

A vote is decided against the recorded one and then committed on the condition that it is still
the recorded one. When another request came in between, the decision is taken again against the
new state, at most as often as the rules allow. -/

namespace Forum.Voting

/-- A vote that was accepted. -/
structure Receipt where
  /-- The post voted on. -/
  post : Int64
  /-- The vote that is now recorded. -/
  direction : Direction
  /-- By how much it moved the score. -/
  delta : Int64
  /-- The score right after it. -/
  score : Int64
  deriving DecidableEq, Repr

/-- The recorded vote of a user on a post. -/
def voteOf (rules : Rules) (post user : Int64) : Service (Option Direction) :=
  Ranking.call rules (.voteOf post user)

/-- Reads the recorded vote, decides and commits. What to do when another request came in between
is the last argument. -/
def attempt (rules : Rules) (post user : Int64) (requested : Direction)
    (otherwise : Service Receipt) : Service Receipt := do
  let previous ← voteOf rules post user
  let change ← Vote.decide post user previous requested
  match ← Ranking.call rules (.commitVote change) with
  | .committed score => return ⟨post, requested, change.delta, score⟩
  | .conflict => otherwise

/-- One attempt, and as many more as the last argument says. -/
def attempts (rules : Rules) (post user : Int64) (requested : Direction) : Nat → Service Receipt
  | 0 => attempt rules post user requested
      (throw (.conflict s!"Vote on post {post} kept conflicting"))
  | retries + 1 => attempt rules post user requested (attempts rules post user requested retries)

/-- Records a vote. -/
def vote (rules : Rules) (post user : Int64) (requested : Direction) : Service Receipt := do
  if !rules.autoRegister then Ranking.requireRegistered rules post
  attempts rules post user requested rules.maxRetries

end Forum.Voting
