import Forum.Engagement.Tally

/-!
# Writers that share a store

The store of a single process as calls see it that run at the same time. A map leads from the
registered posts to their entries, and the map and every entry have a lock of their own. A writer
keeps the reference to an entry that it has fetched while others take the post out of the map, so
entries outlive their registration. An entry that is being removed is therefore flagged under its
lock, and a writer that comes to it later starts over. `Writer.step` is what a writer does while it
holds a lock once; between two such steps others may do theirs.
-/

namespace Forum.Engagement

/-- An entry that writers share. -/
structure Cell where
  /-- The score and the votes. -/
  entry : Entry := {}
  /-- Whether the entry was removed. -/
  removed : Bool := false

/-- What writers share. -/
structure Memory where
  /-- All entries that were ever made. A reference is a place in this list. -/
  cells : List Cell := []
  /-- The registered posts with the references to their entries. -/
  posts : Std.ExtTreeMap Int64 Nat := ∅

namespace Memory

/-- The entry behind a reference. -/
def cell (m : Memory) (ref : Nat) : Cell :=
  m.cells.getD ref {}

/-- Registers a post with a new entry. -/
def enter (m : Memory) (post : Int64) : Memory :=
  ⟨m.cells ++ [({} : Cell)], m.posts.insert post m.cells.length⟩

/-- Takes a post out of the map. Its entry stays. -/
def take (m : Memory) (post : Int64) : Memory :=
  ⟨m.cells, m.posts.erase post⟩

/-- Overwrites an entry. -/
def write (m : Memory) (ref : Nat) (c : Cell) : Memory :=
  ⟨m.cells.set ref c, m.posts⟩

/-- The store that the map shows. -/
def tally (m : Memory) : Tally :=
  ⟨m.posts.map fun _ ref => (m.cell ref).entry⟩

end Memory

/-- Flags an entry as removed and forgets its votes. The score stays behind. -/
def Cell.clear (c : Cell) : Cell :=
  ⟨{ c.entry with votes := ∅ }, true⟩

/-- Something to be done to the entry of a post, which is registered first if it is unknown. -/
inductive Edit where
  /-- Record a change of a vote if it still applies. -/
  | commit (change : Vote.Change)
  /-- Add to the score. -/
  | adjust (post delta : Int64)
  deriving DecidableEq, Repr

namespace Edit

/-- The post it is about. -/
def post : Edit → Int64
  | commit change => change.post
  | adjust post _ => post

/-- The call that asks for it. -/
def call : Edit → Call
  | commit change => .commitVote change
  | adjust post delta => .adjustScore post delta

/-- The answer, and the entry after it. -/
def apply : (edit : Edit) → Entry → edit.call.Reply × Entry
  | commit change, e =>
    if e.votes[change.user]? = change.previous then
      let score := e.score + change.delta
      (.committed score, ⟨score, e.votes.insert change.user change.next⟩)
    else (.conflict, e)
  | adjust _ delta, e => (e.score + delta, { e with score := e.score + delta })

end Edit

/-- A call that writes. -/
inductive Write where
  /-- Do something to the entry of a post. -/
  | edit (edit : Edit)
  /-- Enter a post with score zero. -/
  | register (post : Int64)
  /-- Forget a post and its votes. -/
  | remove (post : Int64)
  deriving DecidableEq, Repr

/-- The call as the store is asked it. -/
def Write.call : Write → Call
  | edit e => e.call
  | register post => .register post
  | remove post => .remove post

/-- What is left of a call that writes. -/
inductive Writer where
  /-- Look the post up in the map. -/
  | lookUp (edit : Edit)
  /-- Look it up again with the map locked for writing, and register it if it is still unknown. -/
  | enter (edit : Edit)
  /-- Do what is to be done to the entry behind a reference. -/
  | apply (edit : Edit) (ref : Nat)
  /-- Register a post. -/
  | register (post : Int64)
  /-- Take a post out of the map. -/
  | take (post : Int64)
  /-- Flag the entry behind a reference, which was taken out of the map. -/
  | clear (post : Int64) (ref : Nat)
  /-- Nothing. -/
  | returned (call : Call) (reply : call.Reply)

namespace Writer

/-- A call that has not begun. -/
def begin : Write → Writer
  | .edit e => lookUp e
  | .register post => register post
  | .remove post => take post

/-- The call that a writer is busy with. -/
def call : Writer → Call
  | lookUp e | enter e | apply e _ => e.call
  | register post => .register post
  | take post | clear post _ => .remove post
  | returned c _ => c

/-- What a writer does while it holds a lock once. A call that has returned does nothing. -/
def step (m : Memory) : Writer → Option (Writer × Memory)
  | lookUp e =>
    match m.posts[e.post]? with
    | some ref => some (apply e ref, m)
    | none => some (enter e, m)
  | enter e =>
    match m.posts[e.post]? with
    | some ref => some (apply e ref, m)
    | none => some (apply e m.cells.length, m.enter e.post)
  | apply e ref =>
    if (m.cell ref).removed then some (lookUp e, m)
    else
      let (reply, entry) := e.apply (m.cell ref).entry
      some (returned e.call reply, m.write ref ⟨entry, false⟩)
  | register post =>
    match m.posts[post]? with
    | some _ => some (returned (.register post) false, m)
    | none => some (returned (.register post) true, m.enter post)
  | take post =>
    match m.posts[post]? with
    | some ref => some (clear post ref, m.take post)
    | none => some (returned (.remove post) (), m)
  | clear post ref => some (returned (.remove post) (), m.write ref (m.cell ref).clear)
  | returned .. => none

end Writer

end Forum.Engagement
