import Forum.Fault
import Forum.Time.Timestamp

/-!
# The database

What the database keeps, what it is asked, and what it does then.
-/

/-! ## Rows and statements

What the database keeps and what it is asked. -/

/-! ### Rows

What the database keeps: the users of the forum and their posts. Identifiers grow with time, so
the order by identifier is the order of creation. -/

namespace Forum

/-- A user. -/
structure User where
  /-- The identifier. -/
  id : Int64
  /-- The name as the user typed it. -/
  username : String
  /-- The name in lower case, by which users are told apart. -/
  usernameLower : String
  /-- The secret by which the user is recognised. -/
  token : String
  /-- When the user was entered. -/
  createdAt : Timestamp
  deriving DecidableEq, Repr

/-- A post. -/
structure Post where
  /-- The identifier. -/
  id : Int64
  /-- The user who wrote it. -/
  author : Int64
  /-- The title. -/
  title : String
  /-- The text. -/
  content : String
  /-- When the post was entered. -/
  createdAt : Timestamp
  deriving DecidableEq, Repr

end Forum

/-! ### Statements

What the database is asked, each statement with the type of its answer. A new row is given without
the time of its creation, and a new user without a token: both are made up when the statement is
issued. -/

namespace Forum.Database

/-- By what a user is looked up. -/
inductive UserKey where
  | byId (id : Int64)
  | byToken (token : String)
  | byName (usernameLower : String)
  deriving DecidableEq, Repr

/-- A statement. -/
inductive Statement where
  /-- The first user with the given key. -/
  | findUser (key : UserKey)
  /-- Enter a user. -/
  | addUser (id : Int64) (username usernameLower : String)
  /-- The first post with the given identifier. -/
  | findPost (id : Int64)
  /-- The posts with one of the given identifiers, in the order of the table. -/
  | findPosts (ids : List Int64)
  /-- A window of the posts by falling identifier. -/
  | recentPosts (offset limit : UInt64)
  /-- The number of posts. -/
  | countPosts
  /-- Enter a post. -/
  | addPost (id author : Int64) (title content : String)
  /-- Delete a post. -/
  | deletePost (id : Int64)
  deriving DecidableEq, Repr

/-- The type of the answer to a statement. -/
abbrev Statement.Reply : Statement → Type
  | .findUser _ => Option User
  | .addUser .. => User
  | .findPost _ => Option Post
  | .findPosts _ => List Post
  | .recentPosts .. => List Post
  | .countPosts => Nat
  | .addPost .. => Post
  | .deletePost _ => Unit

end Forum.Database

/-! ## Tables in memory

The two tables as lists of rows in the order of their insertion, and what each statement does to
them. Identifiers are unique within a table, and so are the lower-cased names and the tokens of
users. A statement is executed at some time, and a new user gets a token from some source. -/

namespace Forum.Database

/-- The rows of the two tables. -/
structure Tables where
  /-- The users. -/
  users : List User
  /-- The posts. -/
  posts : List Post
  deriving DecidableEq, Repr

/-- Whether a user has a key. -/
def UserKey.matches : UserKey → User → Bool
  | .byId id, u => u.id = id
  | .byToken token, u => u.token = token
  | .byName name, u => u.usernameLower = name

/-- Where tokens come from. They are drawn by chance, one for every user that is to be entered. No
two of these have the same identifier, so any tokens at all are the ones that some source gives. -/
class Tokens where
  /-- The token drawn for the user that is to be entered under an identifier. -/
  draw : Int64 → String

/-- A source for tables that are written out: the identifiers in 32 hexadecimal digits. -/
instance Tokens.counted : Tokens where
  draw id :=
    let digits := Nat.toDigits 16 id.toUInt64.toNat
    String.ofList (List.replicate (32 - digits.length) '0' ++ digits)

namespace Tables

/-- Enters a user, unless a value that must be unique is there already. -/
def addUser (t : Tables) (row : User) : Except Fault User × Tables :=
  if t.users.any (·.id = row.id) then (.error (Failure.duplicateKey "user.id").fault, t)
  else if t.users.any (·.usernameLower = row.usernameLower) then
    (.error (Failure.duplicateKey "user.username_lower").fault, t)
  else if t.users.any (·.token = row.token) then
    (.error (Failure.duplicateKey "user.token").fault, t)
  else (.ok row, { t with users := t.users ++ [row] })

/-- Enters a post at the given time. -/
def addPost (t : Tables) (now : Timestamp) (id author : Int64) (title content : String) :
    Except Fault Post × Tables :=
  if t.posts.any (·.id = id) then (.error (Failure.duplicateKey "post.id").fault, t)
  else
    let row : Post := ⟨id, author, title, content, now⟩
    (.ok row, { t with posts := t.posts ++ [row] })

/-- The posts by falling identifier. -/
def recent (t : Tables) : List Post :=
  t.posts.mergeSort fun a b => b.id ≤ a.id

/-- Executes a statement at the given time, with a source of tokens. -/
def execute (t : Tables) (tokens : Tokens) (now : Timestamp) :
    (s : Statement) → Except Fault s.Reply × Tables
  | .findUser key => (.ok (t.users.find? key.matches), t)
  | .addUser id username usernameLower =>
    t.addUser ⟨id, username, usernameLower, tokens.draw id, now⟩
  | .findPost id => (.ok (t.posts.find? (·.id = id)), t)
  | .findPosts ids => (.ok (t.posts.filter (·.id ∈ ids)), t)
  | .recentPosts offset limit => (.ok ((t.recent.drop offset.toNat).take limit.toNat), t)
  | .countPosts => (.ok t.posts.length, t)
  | .addPost id author title content => t.addPost now id author title content
  | .deletePost id => (.ok (), { t with posts := t.posts.filter (·.id ≠ id) })

end Tables

end Forum.Database
