import Forum.Service.Ranking
import Forum.Service.Records
import Forum.Service.Rules

/-!
# Posts and listings

One page of post identifiers, and writing, reading and deleting single posts.
-/

/-! ## Listings

One page of post identifiers, by score from the ranking or by age from the database. The number of
posts is asked for first; a page past the end is empty and not asked for. -/

namespace Forum.Listing

/-- How many posts a listing has. -/
def total (rules : Rules) : ListOrder → Service Nat
  | .hot => Ranking.cardinality rules
  | .newest => Records.countPosts

/-- The posts of a listing within bounds. -/
def window (rules : Rules) (bounds : Page.Bounds) : Service (List Int64) :=
  match bounds.order with
  | .hot => Ranking.topByScore rules (.ofNat bounds.offset) (.ofNat bounds.size)
  | .newest => Records.recentIds (.ofNat bounds.offset) (.ofNat bounds.size)

/-- The page that a request asks for. -/
def list (rules : Rules) (request : Page.Request) : Service Page := do
  let bounds := request.resolve rules.sizes
  let total ← total rules bounds.order
  if total ≤ bounds.offset then return ⟨[], total, bounds⟩
  let ids ← window rules bounds
  return ⟨ids, total, bounds⟩

end Forum.Listing

/-! ## Posts

Writing, reading and deleting posts. A post is a row of the database and an entry of the ranking;
the row is written first and deleted first. -/

namespace Forum.Posts

/-- A post to be written. -/
structure Draft where
  /-- The title. -/
  title : String
  /-- The text. -/
  content : String
  deriving DecidableEq, Repr

/-- The rule for titles. -/
def titleRule : LengthRule := ⟨"title", some 1, 256⟩

/-- The rule for texts. -/
def contentRule : LengthRule := ⟨"content", none, 10000⟩

/-- What has to be checked of a draft. -/
def Draft.checks (d : Draft) : List (LengthRule × String) :=
  [(titleRule, d.title), (contentRule, d.content)]

/-- A post with its score. -/
structure View where
  /-- The row. -/
  post : Post
  /-- The score. -/
  score : Int64
  deriving DecidableEq, Repr

/-- Writes a post. When unknown posts count as registered, a failure to register it is passed over,
because the first vote repairs it. -/
def create (rules : Rules) (author : Int64) (draft : Draft) : Service Post := do
  LengthRule.check draft.checks
  let id ← Service.ask .freshId
  let post ← Records.addPost id author draft.title draft.content
  match ← (Ranking.register rules post.id).outcome with
  | .ok _ => return post
  | .error fault => if rules.autoRegister then return post else throw fault

/-- The score of a post that has a row: zero if the ranking does not know it. -/
def scoreOrZero (rules : Rules) (post : Int64) : Service Int64 := do
  match ← (Ranking.scoreOf rules post).outcome with
  | .ok score => return score
  | .error (.postNotFound _) => return 0
  | .error fault => throw fault

/-- A post with its score. -/
def get (rules : Rules) (id : Int64) : Service View := do
  let post ← Records.getPost id
  let score ← scoreOrZero rules id
  return ⟨post, score⟩

/-- Fails unless the post has a row. -/
def requireExisting (id : Int64) : Service Unit := do
  let _ ← Records.getPost id

/-- Deletes a post. Only its author may. -/
def delete (rules : Rules) (id user : Int64) : Service Unit := do
  let post ← Records.getPost id
  if post.author ≠ user then throw (.forbidden "Cannot delete another user's post")
  Records.deletePost id
  Ranking.remove rules id

/-- The posts of a page with their scores, in the order of the page. Posts without a row are left
out. -/
def hydrate (rules : Rules) (ids : List Int64) : Service (List View) := do
  let posts ← Records.findPosts ids
  posts.mapM fun post => do
    let score ← scoreOrZero rules post.id
    return ⟨post, score⟩

end Forum.Posts
