import Forum.Http.Message
import Forum.Json
import Forum.Json.Fields
import Forum.Service.Posts
import Forum.Service.Ranking
import Forum.Service.Rules
import Forum.Text.Utf8
import Forum.Time.Timestamp

/-!
# What callers send and see

The bodies and queries of requests as they are read, and the JSON forms of what is answered.
-/

/-! ## What requests bring

The bodies that callers send and the queries of their targets. -/

namespace Forum.Http

/-! ### Request bodies

The bodies that callers send: a draft of a post, of which the text may be left out, and the name
of a new user. -/

/-- The fields of a draft. -/
def draftFields : List Json.Field :=
  [⟨"title", false⟩, ⟨"content", true⟩]

/-- Reads a draft. A text that is left out is empty. -/
def readDraft (body : List UInt8) : Except Json.Problem Posts.Draft := do
  match ← Json.readFields draftFields body with
  | [some title, content] => return ⟨title, content.getD ""⟩
  | _ => throw .mismatch

/-- The fields of a new user. -/
def accountFields : List Json.Field :=
  [⟨"username", false⟩]

/-- Reads the name of a new user. -/
def readUsername (body : List UInt8) : Except Json.Problem String := do
  match ← Json.readFields accountFields body with
  | [some username] => return username
  | _ => throw .mismatch

/-! ### Queries

The page request in the query of a target: pairs joined by ampersands, each split at its first
equals sign. Other names are passed over. A name that is given twice, or a number that is not one,
makes the query unusable. -/

/-- The pairs of a query. Empty parts are left out. -/
def queryPairs (query : List Char) : List (String × String) :=
  ((Split.parts '&' query).filter (!·.isEmpty)).map fun part =>
    (String.ofList (decodeQueryPart (part.takeWhile (· ≠ '='))),
      String.ofList (decodeQueryPart ((part.dropWhile (· ≠ '=')).drop 1)))

/-- The value of a name that may be given once; nothing if it is given twice. -/
def once? (pairs : List (String × String)) (name : String) : Option (Option String) :=
  match pairs.filter (·.1 = name) with
  | [] => some none
  | [(_, value)] => some (some value)
  | _ => none

/-- A number that may be left out; nothing if it is there and not a number. -/
def number? : Option String → Option (Option Int64)
  | none => some none
  | some text => (Numeral.int64? text.toList).map some

/-- The page request in a query. -/
def pageRequest? (query : Option (List Char)) : Option Page.Request := do
  let pairs := queryPairs (query.getD [])
  let page ← number? (← once? pairs "page")
  let limit ← number? (← once? pairs "limit")
  let order ← once? pairs "order"
  return ⟨page, limit, order⟩

end Forum.Http

/-! ## What callers see

The JSON forms of posts, users and votes. Identifiers are written as texts, because not every
reader of JSON keeps whole numbers of 64 bits. -/

namespace Forum.Http

/-- An identifier. -/
def idView (id : Int64) : Json :=
  .string (toString id)

/-- A direction, or its absence. -/
def directionView : Option Direction → Json
  | some d => .string d.name
  | none => .null

/-- A post with its score, and the caller's vote if there is one. -/
def postView (post : Post) (score : Int64) (vote : Option Direction) : Json :=
  .object ([("id", idView post.id), ("userId", idView post.author), ("title", .string post.title),
      ("content", .string post.content), ("createdAt", .string post.createdAt.render),
      ("score", .int score.toInt)]
    ++ match vote with
      | some d => [("myVote", .string d.name)]
      | none => [])

/-- One page of posts. -/
def pageView (page : Page) (views : List Posts.View) : Json :=
  .object [("posts", .array (views.map fun v => postView v.post v.score none)),
    ("total", .int page.total), ("page", .int page.bounds.page),
    ("pageSize", .int page.bounds.size), ("order", .string page.bounds.order.name)]

/-- A user, without the token. -/
def userMembers (user : User) : List (String × Json) :=
  [("id", idView user.id), ("username", .string user.username),
    ("createdAt", .string user.createdAt.render)]

/-- A user, without the token. -/
def userView (user : User) : Json :=
  .object (userMembers user)

/-- A user who has just been entered; the only view with the token. -/
def newUserView (user : User) : Json :=
  .object (userMembers user ++ [("token", .string user.token)])

/-- A vote that was accepted. -/
def receiptView (r : Voting.Receipt) : Json :=
  .object [("postId", idView r.post), ("direction", .string r.direction.name),
    ("delta", .int r.delta.toInt), ("score", .int r.score.toInt)]

/-- The caller's vote on a post. -/
def voteView (post : Int64) (vote : Option Direction) : Json :=
  .object [("postId", idView post), ("direction", directionView vote)]

end Forum.Http
