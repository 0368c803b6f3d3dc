import Mathlib
import Forum.Database.Tables

/-!
# What statements do to the tables

A new row is refused if its identifier is taken, and is the last row of its table otherwise. A
statement that only reads leaves the tables as they are.
-/

namespace Forum.Database

/-- Whether a statement only reads. -/
def Statement.reads : Statement → Prop
  | .addUser .. | .addPost .. | .deletePost _ => False
  | _ => True

/-- Whether a statement only reads posts. -/
def Statement.browses : Statement → Prop
  | .findPost _ | .findPosts _ | .recentPosts .. | .countPosts => True
  | _ => False

/-- Reading posts is reading. -/
theorem Statement.reads_of_browses {s : Statement} (h : s.browses) : s.reads := by
  cases s with
  | findUser | addUser | addPost | deletePost => exact h.elim
  | findPost | findPosts | recentPosts | countPosts => trivial

namespace Tables

variable (t : Tables) (tokens : Tokens) (now : Timestamp)

/-- Whether a post has a row. -/
def HasPost (post : Int64) : Prop :=
  ∃ row ∈ t.posts, row.id = post

instance (post : Int64) : Decidable (t.HasPost post) :=
  inferInstanceAs (Decidable (∃ row ∈ t.posts, row.id = post))

/-- Whether a user has a row. -/
def HasUser (user : Int64) : Prop :=
  ∃ row ∈ t.users, row.id = user

/-- Reading changes nothing. -/
theorem execute_of_reads {s : Statement} (h : s.reads) : (t.execute tokens now s).2 = t := by
  cases s with
  | addUser | addPost | deletePost => exact h.elim
  | findUser | findPost | findPosts | recentPosts | countPosts => rfl

/-- A post whose identifier is taken is refused. -/
theorem addPost_of_hasPost {id : Int64} (h : t.HasPost id) (author : Int64)
    (title content : String) :
    t.addPost now id author title content =
      (.error (Failure.duplicateKey "post.id").fault, t) := by
  have hany : t.posts.any (·.id = id) = true := by
    simpa only [List.any_eq_true, decide_eq_true_eq, HasPost] using h
  rw [addPost, if_pos hany]

/-- Any other post is the last row from then on. -/
theorem addPost_of_new {id : Int64} (h : ¬ t.HasPost id) (author : Int64)
    (title content : String) :
    t.addPost now id author title content = (.ok ⟨id, author, title, content, now⟩,
      { t with posts := t.posts ++ [⟨id, author, title, content, now⟩] }) := by
  have hany : ¬ t.posts.any (·.id = id) = true := by
    simpa only [List.any_eq_true, decide_eq_true_eq, HasPost] using h
  rw [addPost, if_neg hany]

/-- A user is refused, or is the last row from then on. -/
theorem addUser_cases (row : User) : (∃ fault, t.addUser row = (.error fault, t)) ∨
    t.addUser row = (.ok row, { t with users := t.users ++ [row] }) := by
  unfold addUser
  split
  · exact .inl ⟨_, rfl⟩
  · split
    · exact .inl ⟨_, rfl⟩
    · split
      · exact .inl ⟨_, rfl⟩
      · exact .inr rfl

/-- A user whose identifier and whose name in lower case are new is the last row, unless someone
has the token already. -/
theorem addUser_of_new {row : User} (hid : ∀ user ∈ t.users, user.id ≠ row.id)
    (hname : ∀ user ∈ t.users, user.usernameLower ≠ row.usernameLower) :
    t.addUser row = (.error (Failure.duplicateKey "user.token").fault, t) ∨
      t.addUser row = (.ok row, { t with users := t.users ++ [row] }) := by
  have hids : ¬ t.users.any (·.id = row.id) = true := by
    simpa only [List.any_eq_true, decide_eq_true_eq, not_exists, not_and] using hid
  have hnames : ¬ t.users.any (·.usernameLower = row.usernameLower) = true := by
    simpa only [List.any_eq_true, decide_eq_true_eq, not_exists, not_and] using hname
  rw [addUser, if_neg hids, if_neg hnames]
  split
  · exact .inl rfl
  · exact .inr rfl

/-- A user is found by the name in lower case, if no two users have the same one. -/
theorem find?_byName (distinct : (t.users.map (·.usernameLower)).Nodup) {user : User}
    (found : user ∈ t.users) :
    t.users.find? (UserKey.byName user.usernameLower).matches = some user := by
  cases hfind : t.users.find? (UserKey.byName user.usernameLower).matches with
  | none => exact absurd (decide_eq_true rfl) (List.find?_eq_none.1 hfind user found)
  | some other =>
    have hsame := List.find?_some hfind
    rw [List.inj_on_of_nodup_map distinct (List.mem_of_find?_eq_some hfind) found
      (of_decide_eq_true hsame)]

/-- A row that is found by its identifier is in the table. -/
theorem hasPost_of_find? {id : Int64} {row : Post}
    (h : t.posts.find? (·.id = id) = some row) : row ∈ t.posts ∧ row.id = id :=
  ⟨List.mem_of_find?_eq_some h, by simpa using List.find?_some h⟩

end Tables

end Forum.Database
