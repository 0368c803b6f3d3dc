import Forum.Database.Tables

/-!
# The text of statements

Every statement as SQL with numbered places and the values that go there. Names are quoted, and a
selection lists all columns of its table.
-/

namespace Forum.Database

/-- A value that goes into a place of a statement. -/
inductive SqlValue where
  | integer (n : Int)
  | text (s : String)
  /-- A fresh random token of 32 hexadecimal digits. -/
  | freshToken
  /-- The time at which the statement is issued. -/
  | currentTime
  deriving DecidableEq, Repr

/-- A table: its name and its columns, in order. -/
structure Table where
  /-- The name of the table. -/
  name : String
  /-- The names of its columns. -/
  columns : List String
  deriving DecidableEq, Repr

/-- A name in quotes. -/
def quoteName (name : String) : String :=
  "\"" ++ name ++ "\""

namespace Table

/-- The table of the users. -/
def user : Table :=
  ⟨"user", ["id", "username", "username_lower", "token", "created_at"]⟩

/-- The table of the posts. -/
def post : Table :=
  ⟨"post", ["id", "user_id", "title", "content", "created_at"]⟩

/-- A column with its table. -/
def column (t : Table) (name : String) : String :=
  quoteName t.name ++ "." ++ quoteName name

/-- The numbered places from one on. -/
def places (count : Nat) : String :=
  ", ".intercalate ((List.range count).map fun k => s!"${k + 1}")

/-- The selection of all columns. -/
def select (t : Table) : String :=
  "SELECT " ++ ", ".intercalate (t.columns.map t.column) ++ " FROM " ++ quoteName t.name

/-- The selection of the first row with a value in a column. -/
def selectFirst (t : Table) (name : String) : String :=
  t.select ++ " WHERE " ++ t.column name ++ " = $1 LIMIT $2"

/-- The insertion of a row, which is also the answer. -/
def insert (t : Table) : String :=
  let columns := ", ".intercalate (t.columns.map quoteName)
  "INSERT INTO " ++ quoteName t.name ++ " (" ++ columns ++ ") VALUES ("
    ++ places t.columns.length ++ ") RETURNING " ++ columns

end Table

/-- The column of a key, and the value looked for. -/
def UserKey.sql : UserKey → String × SqlValue
  | .byId id => ("id", .integer id.toInt)
  | .byToken token => ("token", .text token)
  | .byName name => ("username_lower", .text name)

/-- The text of a statement and its values. -/
def Statement.sql : Statement → String × List SqlValue
  | .findUser key => (Table.user.selectFirst key.sql.1, [key.sql.2, .integer 1])
  | .addUser id username usernameLower =>
    (Table.user.insert,
      [.integer id.toInt, .text username, .text usernameLower, .freshToken, .currentTime])
  | .findPost id => (Table.post.selectFirst "id", [.integer id.toInt, .integer 1])
  | .findPosts ids =>
    (Table.post.select ++ " WHERE " ++ Table.post.column "id" ++ " IN ("
      ++ Table.places ids.length ++ ")", ids.map fun id => .integer id.toInt)
  | .recentPosts offset limit =>
    (Table.post.select ++ " ORDER BY " ++ Table.post.column "id" ++ " DESC LIMIT $1 OFFSET $2",
      [.integer limit.toNat, .integer offset.toNat])
  | .countPosts =>
    ("SELECT COUNT(*) AS num_items FROM (" ++ Table.post.select ++ ") AS "
      ++ quoteName "sub_query", [])
  | .addPost id author title content =>
    (Table.post.insert,
      [.integer id.toInt, .integer author.toInt, .text title, .text content, .currentTime])
  | .deletePost id =>
    ("DELETE FROM " ++ quoteName Table.post.name ++ " WHERE " ++ Table.post.column "id" ++ " = $1",
      [.integer id.toInt])

end Forum.Database
