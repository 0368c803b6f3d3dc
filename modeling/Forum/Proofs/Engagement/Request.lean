import Mathlib
import Forum.Engagement.Tally
import Forum.Service.Ranking

/-!
# Requests to voting and ranking

What callers can ask of the services that need an engagement store and nothing else, one request
after the other. The store is whatever answers its calls from a state.
-/

namespace Forum.Engagement

/-- What a caller can ask for. -/
inductive Request where
  /-- Like a post, or turn a like into a dislike. -/
  | vote (post user : Int64) (direction : Direction)
  /-- The vote of a user on a post. -/
  | checkVote (post user : Int64)
  /-- Enter a post. -/
  | register (post : Int64)
  /-- Add to the score of a post. -/
  | adjustScore (post delta : Int64)
  /-- The score of a post. -/
  | scoreOf (post : Int64)
  /-- A window of the posts by falling score. -/
  | topByScore (offset limit : UInt64)
  /-- The number of ranked posts. -/
  | cardinality
  /-- Forget a post. -/
  | remove (post : Int64)
  deriving DecidableEq, Repr

namespace Request

/-- The type of what a caller gets. -/
abbrev Reply : Request → Type
  | vote .. => Voting.Receipt
  | checkVote .. => Option Direction
  | register _ => Bool
  | adjustScore .. | scoreOf _ => Int64
  | topByScore .. => List Int64
  | cardinality => Nat
  | remove _ => Unit

/-- The service that a request calls. -/
def service (rules : Rules) : (q : Request) → Service q.Reply
  | vote post user direction => Voting.vote rules post user direction
  | checkVote post user => Voting.voteOf rules post user
  | register post => Ranking.register rules post
  | adjustScore post delta => Ranking.adjustScore rules post delta
  | scoreOf post => Ranking.scoreOf rules post
  | topByScore offset limit => Ranking.topByScore rules offset limit
  | cardinality => Ranking.cardinality rules
  | remove post => Ranking.remove rules post

/-- The post that a request is about. -/
def post? : Request → Option Int64
  | vote post .. | checkVote post _ | register post | adjustScore post _ | scoreOf post
  | remove post => some post
  | topByScore .. | cardinality => none

/-- What a request adds to a score of its own accord. -/
def delta? : Request → Option Int64
  | adjustScore _ delta => some delta
  | _ => none

end Request

variable {σ : Type} (rules : Rules) (answer : σ → (c : Call) → Except Fault c.Reply × σ)

/-- Surroundings with an engagement store and nothing else. -/
def alone : (e : Effect) → σ → Except Fault e.Reply × σ
  | .engagement _ call, s => answer s call
  | .rows _, s => (.error (.database "there is no database"), s)
  | .freshId, s => (.error (.internal "there is no source of identifiers"), s)

/-- Answers a request. -/
def respond (q : Request) (s : σ) : Except Fault q.Reply × σ :=
  (q.service rules).run.run (alone answer) s

/-- The replies to requests that come one after the other, each with its request. -/
def replies : List Request → σ → List ((q : Request) × Except Fault q.Reply)
  | [], _ => []
  | q :: rest, s => ⟨q, (respond rules answer q s).1⟩ :: replies rest (respond rules answer q s).2

/-- The store after requests that came one after the other. -/
def after (requests : List Request) (s : σ) : σ :=
  requests.foldl (fun s q => (respond rules answer q s).2) s

/-- The tally as a store that never fails. -/
def Tally.inProcess (t : Tally) (c : Call) : Except Fault c.Reply × Tally :=
  (.ok (t.answer c).1, (t.answer c).2)

end Forum.Engagement
