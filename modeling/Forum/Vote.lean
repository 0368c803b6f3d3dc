import Forum.Fault
import Forum.Json

/-!
# Votes

The two directions of votes, and which requests to vote are accepted.
-/

/-! ## Directions of votes

A vote is for a post or against it. In stores a direction is written as the number it adds to the
score; elsewhere it is written by its name. -/

namespace Forum

/-- What a vote says about a post. -/
inductive Direction where
  /-- For the post. -/
  | like
  /-- Against the post. -/
  | dislike
  deriving DecidableEq, Repr

namespace Direction

/-- What a vote adds to the score of its post. -/
def value : Direction → Int64
  | like => 1
  | dislike => -1

/-- The name of a direction. -/
def name : Direction → String
  | like => "like"
  | dislike => "dislike"

/-- The direction with the given name. -/
def ofName? (s : String) : Option Direction :=
  if s = like.name then some like else if s = dislike.name then some dislike else none

/-- The text under which stores keep a direction. -/
def stored : Direction → String
  | like => "1"
  | dislike => "-1"

/-- The direction that a store keeps under the given text. -/
def ofStored? (s : String) : Option Direction :=
  if s = like.stored then some like else if s = dislike.stored then some dislike else none

/-- The direction that a JSON value stands for: its name, or an object whose only member has that
name and no value. -/
def ofJson? : Json → Option Direction
  | .string s => ofName? s
  | .object [(name, .null)] => ofName? name
  | _ => none

@[simp] theorem ofName?_name (d : Direction) : ofName? d.name = some d := by
  cases d <;> rfl

@[simp] theorem ofStored?_stored (d : Direction) : ofStored? d.stored = some d := by
  cases d <;> rfl

end Direction

end Forum

/-! ## Changes of votes

A user has at most one vote on a post, and a request to vote replaces it. Which requests are
accepted depends on the recorded vote: a like is refused only on top of a like, and a dislike is
accepted only as the reversal of a like. An accepted request becomes a change, which carries the
vote it was decided against, so that a store can refuse it if that vote is no longer the recorded
one. -/

namespace Forum.Vote

/-- What a recorded vote adds to the score; nothing if there is none. -/
def weight : Option Direction → Int64
  | some d => d.value
  | none => 0

/-- The replacement of one vote. -/
structure Change where
  /-- The post voted on. -/
  post : Int64
  /-- The user who votes. -/
  user : Int64
  /-- The vote the change was decided against. -/
  previous : Option Direction
  /-- The vote to record. -/
  next : Direction
  deriving DecidableEq, Repr

/-- By how much a change moves the score of its post. -/
def Change.delta (c : Change) : Int64 :=
  c.next.value - weight c.previous

/-- Decides a request to vote against the recorded vote. -/
def decide (post user : Int64) (previous : Option Direction) (requested : Direction) :
    Except Fault Change :=
  match requested, previous with
  | .like, some .like => .error (.alreadyLiked post)
  | .dislike, none | .dislike, some .dislike => .error (.notPreviouslyLiked post)
  | _, _ => .ok ⟨post, user, previous, requested⟩

/-- A change that was accepted carries what it was decided against and what was asked for. -/
theorem decide_eq_ok {post user : Int64} {previous : Option Direction} {requested : Direction}
    {c : Change} (h : decide post user previous requested = .ok c) :
    c = ⟨post, user, previous, requested⟩ := by
  unfold decide at h
  split at h <;> simp_all

end Forum.Vote
