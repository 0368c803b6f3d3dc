import Forum.Http.Message
import Forum.Http.View
import Forum.Service.Posts
import Forum.Service.Records

/-!
# The application

How a request is answered: the resource that its path names, and the handler of that resource.
-/

/-! ## Routes

Which resource a path names, and which methods the resource has. Segments are compared as they
were written; the segment that stands for a post is kept that way and may not be empty. -/

namespace Forum.Http

/-- A resource. -/
inductive Route where
  /-- Whether the server is up. -/
  | health
  /-- All users. -/
  | users
  /-- The caller. -/
  | me
  /-- All posts. -/
  | posts
  /-- One post. -/
  | post (segment : List Char)
  /-- The likes of a post. -/
  | like (segment : List Char)
  /-- The dislikes of a post. -/
  | dislike (segment : List Char)
  /-- The caller's vote on a post. -/
  | vote (segment : List Char)
  deriving DecidableEq, Repr

namespace Route

/-- The resource below a post. -/
def ofPostPart? (segment : List Char) (part : String) : Option Route :=
  if segment.isEmpty then none
  else if part = "like" then some (like segment)
  else if part = "dislike" then some (dislike segment)
  else if part = "vote" then some (vote segment)
  else none

/-- The resource that the segments of a path name. -/
def ofSegments? (segments : List (List Char)) : Option Route :=
  match segments.map String.ofList with
  | ["healthz"] => some health
  | ["api", "users"] => some users
  | ["api", "users", "me"] => some me
  | ["api", "posts"] => some posts
  | ["api", "posts", id] => if id.isEmpty then none else some (post id.toList)
  | ["api", "posts", id, part] => ofPostPart? id.toList part
  | _ => none

/-- The resource that a target names. -/
def ofTarget? (t : Target) : Option Route :=
  t.segments?.bind ofSegments?

/-- The methods of a resource, as they are listed to callers. -/
def allowed : Route → String
  | users | like _ | dislike _ => "POST"
  | health | me | vote _ => "GET,HEAD"
  | posts => "GET,HEAD,POST"
  | post _ => "GET,HEAD,DELETE"

/-- Whether a resource has a method. -/
def admits (r : Route) (m : Method) : Bool :=
  match r, m with
  | users, .post | like _, .post | dislike _, .post | posts, .post => true
  | health, .get | me, .get | vote _, .get | posts, .get | post _, .get => true
  | health, .head | me, .head | vote _, .head | posts, .head | post _, .head => true
  | post _, .delete => true
  | _, _ => false

end Route

end Forum.Http

/-! ## Handlers

How a request is answered. From the outside in: every response says that any origin may read it,
and a request for options is answered right away; a body that is declared too long is refused; the
bearer token is resolved to a user, or to none; the resource and its method are looked up; and the
handler of the resource takes what it needs, a user first, then an identifier from the path, then
the body. -/

namespace Forum.Http

-- Powers of numbers are the built-in ones, whatever else is in scope.
attribute [local instance (high)] instPowNat

/-- What handles a request: a workflow that ends in a response, an early one if something that it
needs is missing. -/
abbrev Handler := ExceptT Response Workflow

/-- The greatest number of bytes of a body. -/
def maxBodyBytes : Nat := 65536

/-- Uses a service; a fault becomes the response. -/
def useService {α : Type} (s : Service α) : Handler α :=
  ExceptT.mk (s.run.andThen fun
    | .ok a => .done (.ok a)
    | .error fault => .done (.error (.ofFault fault)))

/-- The value, or the response that is sent in its absence. -/
def orRespond {α : Type} (value : Option α) (response : Response) : Handler α :=
  match value with
  | some a => return a
  | none => throw response

/-- The caller, who must be known. -/
def requireUser (user : Option User) : Handler User :=
  orRespond user (.ofFault .unauthorized)

/-- The identifier that a segment of the path stands for. -/
def pathId (segment : List Char) : Handler Int64 :=
  orRespond ((decodePathPart? segment).bind Numeral.int64?)
    (.text 400 "Invalid URL" (some (.segment segment)))

/-- The length that the request declares for its body, if it is a number. -/
def declaredLength? (r : Request) : Option Nat :=
  (r.header? "content-length").bind fun text => Numeral.below? (2 ^ (64 : Nat)) text.toList

/-- How many bytes of the body may be read. -/
def bodyLimit (r : Request) : Nat :=
  (declaredLength? r).getD maxBodyBytes

/-- The response to a body without the fields that it was to have. -/
def unreadableBody (fields : List Json.Field) (body : List UInt8) : Json.Problem → Response
  | .malformed => .text 400 "Failed to parse the request body as JSON"
      (some (.body (fields.map (·.name)) body))
  | .mismatch => .text 422 "Failed to deserialize the JSON body into the target type"
      (some (.body (fields.map (·.name)) body))

/-- Reads the body as JSON with some fields. Its type is checked first, then its length. -/
def readBody {α : Type} (r : Request) (fields : List Json.Field)
    (read : List UInt8 → Except Json.Problem α) : Handler α := do
  if !(r.header? "content-type").any MediaType.isJson then
    throw (.text 415 "Expected request with `Content-Type" (some (.fixed "application/json`")))
  if bodyLimit r < r.body.length then
    throw (.text 413 "Failed to buffer the request body" (some (.fixed "length limit exceeded")))
  match read r.body with
  | .ok a => return a
  | .error problem => throw (unreadableBody fields r.body problem)

/-- The version that the server reports. -/
def version : String := "0.1.0"

/-- Whether the server is up. -/
def health : Handler Response :=
  return .json 200 (.object [("status", .string "ok"), ("version", .string version)])

/-- Enters a user. -/
def createUser (r : Request) : Handler Response := do
  let username ← readBody r accountFields readUsername
  let user ← useService (Accounts.create username)
  return .data (newUserView user)

/-- Shows the caller. -/
def showMe (user : Option User) : Handler Response := do
  let user ← requireUser user
  return .data (userView user)

/-- Writes a post. -/
def createPost (rules : Rules) (user : Option User) (r : Request) : Handler Response := do
  let user ← requireUser user
  let draft ← readBody r draftFields readDraft
  let post ← useService (Posts.create rules user.id draft)
  return .data (postView post 0 none)

/-- Shows one page of posts. -/
def listPosts (rules : Rules) (r : Request) : Handler Response := do
  let request ← orRespond (pageRequest? r.target.query)
    (.text 400 "Failed to deserialize query string" (some (.query (r.target.query.getD []))))
  let page ← useService (Listing.list rules request)
  let views ← useService (Posts.hydrate rules page.ids)
  return .data (pageView page views)

/-- Shows a post, and the vote of a caller who is known. -/
def showPost (rules : Rules) (user : Option User) (segment : List Char) : Handler Response := do
  let id ← pathId segment
  let view ← useService (Posts.get rules id)
  match user with
  | none => return .data (postView view.post view.score none)
  | some user =>
    let vote ← useService (Voting.voteOf rules id user.id)
    return .data (postView view.post view.score vote)

/-- Deletes a post of the caller. -/
def deletePost (rules : Rules) (user : Option User) (segment : List Char) : Handler Response := do
  let user ← requireUser user
  let id ← pathId segment
  useService (Posts.delete rules id user.id)
  return .empty 204

/-- Votes on a post. -/
def voteOn (rules : Rules) (user : Option User) (segment : List Char) (direction : Direction) :
    Handler Response := do
  let user ← requireUser user
  let id ← pathId segment
  useService (Posts.requireExisting id)
  let receipt ← useService (Voting.vote rules id user.id direction)
  return .data (receiptView receipt)

/-- Shows the caller's vote on a post. -/
def showVote (rules : Rules) (user : Option User) (segment : List Char) : Handler Response := do
  let user ← requireUser user
  let id ← pathId segment
  let vote ← useService (Voting.voteOf rules id user.id)
  return .data (voteView id vote)

/-- Handles a request for a resource. A method that the resource does not have is answered with
the list of those it has. -/
def handle (rules : Rules) (user : Option User) (r : Request) : Route → Handler Response
  | .health => if Route.health.admits r.method then health else return .empty 405
  | .users => if Route.users.admits r.method then createUser r else return .empty 405
  | .me => if Route.me.admits r.method then showMe user else return .empty 405
  | .posts =>
    match r.method with
    | .post => createPost rules user r
    | .get | .head => listPosts rules r
    | _ => return .empty 405
  | .post segment =>
    match r.method with
    | .delete => deletePost rules user segment
    | .get | .head => showPost rules user segment
    | _ => return .empty 405
  | .like segment =>
    if (Route.like segment).admits r.method then voteOn rules user segment .like
    else return .empty 405
  | .dislike segment =>
    if (Route.dislike segment).admits r.method then voteOn rules user segment .dislike
    else return .empty 405
  | .vote segment =>
    if (Route.vote segment).admits r.method then showVote rules user segment
    else return .empty 405

/-- The token of a request: what follows the word `Bearer` in its first authorization field, if
that field is plain ASCII. -/
def bearerToken? (r : Request) : Option String :=
  (r.header? "authorization").bind fun value =>
    if value.toList.all fun c => c = '\t' || (32 ≤ c.toNat && c.toNat < 127) then
      let (scheme, token) := (value.toList.take 7, value.toList.drop 7)
      if scheme = "Bearer ".toList then some (String.ofList token) else none
    else none

/-- The user whose token the request carries. Any failure to find one means that there is none. -/
def caller (r : Request) : Workflow (Option User) :=
  match bearerToken? r with
  | none => .done none
  | some token => (Accounts.authenticate token).run.andThen fun
    | .ok user => .done (some user)
    | .error _ => .done none

/-- The response of a handler that has ended. -/
def settled : Except Response Response → Response
  | .ok response => response
  | .error response => response

/-- Answers a request whose body is not declared too long. -/
def answer (rules : Rules) (r : Request) : Workflow Response :=
  (caller r).andThen fun user =>
    match Route.ofTarget? r.target with
    | none => .done (.empty 404)
    | some route => (handle rules user r route).run.andThen fun result => .done (settled result)

/-- The methods of the resource, if the request uses none of them. -/
def allowHeader (r : Request) : List Header :=
  match Route.ofTarget? r.target with
  | some route => if route.admits r.method then [] else [("allow", route.allowed)]
  | none => []

/-- The header fields that let pages of any origin read a response. -/
def originHeaders : List Header :=
  [("access-control-allow-origin", "*"),
    ("vary", "origin, access-control-request-method, access-control-request-headers")]

/-- Adds what every response has. A request for the head only gets no body. -/
def dress (r : Request) (response : Response) : Response :=
  let response := { response with headers := response.headers ++ allowHeader r ++ originHeaders }
  if r.method = .head then response.withoutBody else response

/-- Answers a request. -/
def respond (rules : Rules) (r : Request) : Workflow Response :=
  if r.method = .options then
    .done (dress r ⟨200, [("access-control-allow-methods", "*"),
      ("access-control-allow-headers", "*")], .empty⟩)
  else if (declaredLength? r).any (maxBodyBytes < ·) then
    .done (dress r (.text 413 "length limit exceeded" none))
  else (answer rules r).andThen fun response => .done (dress r response)

end Forum.Http
