import Forum.Vote
import Std.Data.ExtTreeMap

/-!
# Engagement stores

What a store of votes and scores can be asked, and the store of a single process.
-/

/-! ## Calls

An engagement store keeps the votes on posts together with their scores, and an index of the
registered posts by score. This module lists what a store can be asked; each call is answered in
one atomic step. -/

namespace Forum.Engagement

/-- What becomes of a change of a vote. -/
inductive Outcome where
  /-- The change is recorded; the score of the post is now the given one. -/
  | committed (score : Int64)
  /-- The recorded vote is not the one the change was decided against. -/
  | conflict
  deriving DecidableEq, Repr

/-- What an engagement store can be asked. -/
inductive Call where
  /-- The vote of a user on a post. -/
  | voteOf (post user : Int64)
  /-- Record a change if it still applies. -/
  | commitVote (change : Vote.Change)
  /-- Enter a post with score zero. -/
  | register (post : Int64)
  /-- Add to the score of a post, which is entered first if it is unknown. -/
  | adjustScore (post delta : Int64)
  /-- The score of a post. -/
  | scoreOf (post : Int64)
  /-- A window of the posts by falling score, equal scores by falling identifier. -/
  | topByScore (offset limit : UInt64)
  /-- The number of registered posts. -/
  | cardinality
  /-- Forget a post and its votes. -/
  | remove (post : Int64)
  deriving DecidableEq, Repr

/-- The type of the answer to a call. -/
abbrev Call.Reply : Call → Type
  | .voteOf .. => Option Direction
  | .commitVote _ => Outcome
  | .register _ => Bool
  | .adjustScore .. => Int64
  | .scoreOf _ => Option Int64
  | .topByScore .. => List Int64
  | .cardinality => Nat
  | .remove _ => Unit

/-- The kinds of calls. -/
inductive Method where
  | voteOf
  | commitVote
  | register
  | adjustScore
  | scoreOf
  | topByScore
  | cardinality
  | remove
  deriving DecidableEq, Repr

/-- The kind of a call. -/
def Call.method : Call → Method
  | .voteOf .. => .voteOf
  | .commitVote _ => .commitVote
  | .register _ => .register
  | .adjustScore .. => .adjustScore
  | .scoreOf _ => .scoreOf
  | .topByScore .. => .topByScore
  | .cardinality => .cardinality
  | .remove _ => .remove

end Forum.Engagement

/-! ## The tally

The engagement store of a single process: a finite map from registered posts to their score and
their votes. A post that is not in the map has no votes. Scores are signed numbers of 64 bits and
wrap around. -/

namespace Forum.Engagement

/-- The score and the votes of one post. -/
structure Entry where
  /-- The score. -/
  score : Int64 := 0
  /-- The vote of each user who has voted. -/
  votes : Std.ExtTreeMap Int64 Direction := ∅

/-- The registered posts. -/
structure Tally where
  /-- The entry of each registered post. -/
  entries : Std.ExtTreeMap Int64 Entry := ∅

namespace Tally

/-- A store without posts. -/
def empty : Tally := {}

/-- The entry of a post, an unregistered one counting as just registered. -/
def entry (t : Tally) (post : Int64) : Entry :=
  t.entries[post]?.getD {}

/-- The recorded vote of a user on a post. -/
def voteOf (t : Tally) (post user : Int64) : Option Direction :=
  t.entries[post]?.bind (·.votes[user]?)

/-- The score of a post, if it is registered. -/
def scoreOf (t : Tally) (post : Int64) : Option Int64 :=
  t.entries[post]?.map (·.score)

/-- Puts the entry of a post in place. -/
def put (t : Tally) (post : Int64) (e : Entry) : Tally :=
  ⟨t.entries.insert post e⟩

/-- Records a change if the vote it was decided against is the recorded one. An unknown post is
registered in either case. -/
def commitVote (t : Tally) (c : Vote.Change) : Outcome × Tally :=
  let e := t.entry c.post
  if e.votes[c.user]? = c.previous then
    let score := e.score + c.delta
    (.committed score, t.put c.post ⟨score, e.votes.insert c.user c.next⟩)
  else (.conflict, t.put c.post e)

/-- Registers a post with score zero, and says whether it was unknown. -/
def register (t : Tally) (post : Int64) : Bool × Tally :=
  if post ∈ t.entries then (false, t) else (true, t.put post {})

/-- Adds to the score of a post, which is registered first if it is unknown. -/
def adjustScore (t : Tally) (post delta : Int64) : Int64 × Tally :=
  let e := t.entry post
  (e.score + delta, t.put post { e with score := e.score + delta })

/-- The order of the index: falling score, equal scores by falling post. -/
def precedes (a b : Int64 × Int64) : Bool :=
  b.2 < a.2 || (a.2 = b.2 && b.1 ≤ a.1)

/-- The registered posts in the order of the index. -/
def ranking (t : Tally) : List Int64 :=
  ((t.entries.toList.map fun (post, e) => (post, e.score)).mergeSort precedes).map (·.1)

/-- A window of the index. -/
def topByScore (t : Tally) (offset limit : UInt64) : List Int64 :=
  (t.ranking.drop offset.toNat).take limit.toNat

/-- The number of registered posts. -/
def cardinality (t : Tally) : Nat :=
  t.entries.size

/-- Forgets a post and its votes. -/
def remove (t : Tally) (post : Int64) : Tally :=
  ⟨t.entries.erase post⟩

/-- Answers a call. -/
def answer (t : Tally) : (c : Call) → c.Reply × Tally
  | .voteOf post user => (t.voteOf post user, t)
  | .commitVote change => t.commitVote change
  | .register post => t.register post
  | .adjustScore post delta => t.adjustScore post delta
  | .scoreOf post => (t.scoreOf post, t)
  | .topByScore offset limit => (t.topByScore offset limit, t)
  | .cardinality => (t.cardinality, t)
  | .remove post => ((), t.remove post)

/-- A change is refused exactly when the recorded vote is not the one it was decided against. -/
theorem commitVote_eq_conflict_iff (t : Tally) (c : Vote.Change) :
    (t.commitVote c).1 = .conflict ↔ t.voteOf c.post c.user ≠ c.previous := by
  unfold commitVote voteOf entry
  cases h : t.entries[c.post]? with
  | none => by_cases p : c.previous = none <;> simp [p, eq_comm]
  | some e => by_cases p : e.votes[c.user]? = c.previous <;> simp [p]

end Tally

end Forum.Engagement
