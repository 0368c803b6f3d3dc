import Forum.Service.Rules
import Forum.Text.LetterCase
import Forum.Workflow

/-!
# Records

The users and posts as services see them: each function is one statement, or none. Looking up many
posts keeps the order in which they were asked for, whatever the order in which the database
answers, and gives every row at most once. Accounts enter users and recognise them.
-/

namespace Forum.Records

/-- Asks the database. -/
def query (statement : Database.Statement) : Service statement.Reply :=
  Service.ask (.rows statement)

/-- The user with an identifier. -/
def findUser (id : Int64) : Service (Option User) :=
  query (.findUser (.byId id))

/-- The user with an identifier, who must exist. -/
def getUser (id : Int64) : Service User := do
  match ← findUser id with
  | some user => return user
  | none => throw (.notFound s!"User {id}")

/-- The user with a token. -/
def findUserByToken (token : String) : Service (Option User) :=
  query (.findUser (.byToken token))

/-- The user with a name, in any mixture of capitals. -/
def findUserByName (username : String) : Service (Option User) :=
  query (.findUser (.byName (LetterCase.lower username)))

/-- Enters a user. -/
def addUser (id : Int64) (username : String) : Service User :=
  query (.addUser id username (LetterCase.lower username))

/-- The post with an identifier. -/
def findPost (id : Int64) : Service (Option Post) :=
  query (.findPost id)

/-- The post with an identifier, which must exist. -/
def getPost (id : Int64) : Service Post := do
  match ← findPost id with
  | some post => return post
  | none => throw (.postNotFound id)

/-- The list without the element at a place; the last element takes the place. -/
def swapRemove {α : Type} (xs : List α) (place : Nat) : List α :=
  match xs.getLast? with
  | some last => (xs.set place last).dropLast
  | none => []

/-- The rows in the order of the identifiers. Each identifier takes the first row that has it and
is still there; identifiers without one are passed over. -/
def inOrder : List Int64 → List Post → List Post
  | [], _ => []
  | id :: ids, rows =>
    match rows.find? (·.id = id), rows.findIdx? (·.id = id) with
    | some row, some place => row :: inOrder ids (swapRemove rows place)
    | _, _ => inOrder ids rows

/-- The posts with the given identifiers, in their order. -/
def findPosts (ids : List Int64) : Service (List Post) := do
  if ids.isEmpty then return []
  let rows ← query (.findPosts ids)
  return inOrder ids rows

/-- Enters a post. -/
def addPost (id author : Int64) (title content : String) : Service Post :=
  query (.addPost id author title content)

/-- Deletes a post. -/
def deletePost (id : Int64) : Service Unit :=
  query (.deletePost id)

/-- A window of the identifiers of posts, newest first. -/
def recentIds (offset limit : UInt64) : Service (List Int64) := do
  let rows ← query (.recentPosts offset limit)
  return rows.map (·.id)

/-- The number of posts. -/
def countPosts : Service Nat :=
  query .countPosts

end Forum.Records

/-! ## Accounts

Entering users and recognising them. A name consists of letters, digits and underscores, and no
two users have names that differ only in capitals. -/

namespace Forum.Accounts

/-- The rule for names. -/
def usernameRule : LengthRule := ⟨"username", some 1, 128⟩

/-- What has to be checked of a name. -/
def checks (username : String) : List (LengthRule × String) :=
  [(usernameRule, username)]

/-- Whether a character may stand in a name. -/
def isNameChar (c : Char) : Bool :=
  c.isAlphanum || c = '_'

/-- Fails unless the name is well-formed. The length is checked before the characters. -/
def checkName (username : String) : Except Fault Unit := do
  LengthRule.check (checks username)
  if !username.toList.all isNameChar then
    throw (.validation "Username may only contain letters, digits and underscores")

/-- Enters a user. -/
def create (username : String) : Service User := do
  checkName username
  if (← Records.findUserByName username).isSome then
    throw (.conflict "Username already taken")
  let id ← Service.ask .freshId
  Records.addUser id username

/-- The user with an identifier. -/
def get (id : Int64) : Service User :=
  Records.getUser id

/-- The user who has a token. -/
def authenticate (token : String) : Service User := do
  match ← Records.findUserByToken token with
  | some user => return user
  | none => throw .unauthorized

end Forum.Accounts
