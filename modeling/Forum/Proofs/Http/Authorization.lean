import Mathlib
import Forum.Proofs.Http.Outcome

/-!
# Who may do what

A request acts for the user whose token it carries, and for nobody else. It can write a post of that
user, record a vote of that user, and delete a post of that user with the votes on it; it leaves all
other rows and all other votes as they are. Anyone can enter a new user, but the users that there
are stay as they are. There is one lemma for each of these changes. That two users have different
tokens is not needed, but two posts must have different identifiers: a deletion takes all rows with
an identifier and asks for the author of the first.
-/

namespace Forum.Http

/-- Whether a request carries the token of the user with an identifier. -/
def Request.IsFrom (r : Request) (w : World) (user : Int64) : Prop :=
  ∃ row ∈ w.tables.users, row.id = user ∧ r.Carries row.token

/-- Whether a request votes on a post, for the user with an identifier. -/
def Request.VotesAs (r : Request) (w : World) (post voter : Int64) : Prop :=
  r.method = .post ∧ (r.IsAt post "/like" ∨ r.IsAt post "/dislike") ∧ r.IsFrom w voter

/-- Whether a request deletes a post, for its author. -/
def Request.DeletesOwn (r : Request) (w : World) (row : Post) : Prop :=
  r.method = .delete ∧ r.IsAt row.id "" ∧ r.IsFrom w row.author

/-- Whether a request is to enter a user. -/
def Request.EntersUser (r : Request) : Prop :=
  r.method = .post ∧ r.target.path = Route.users.path

/-- What a request may have changed of the users, the posts and the votes. -/
structure Authorized (r : Request) (w w' : World) : Prop where
  /-- The users are as they were, in their order, but for one whom the request may have entered. -/
  users : w'.tables.users = w.tables.users ∨
    r.EntersUser ∧ ∃ user, w'.tables.users = w.tables.users ++ [user]
  /-- The vote of a user on a post changes when that user votes on it, or when the author of the
  post deletes it. -/
  votes : ∀ post voter, w'.tally.voteOf post voter ≠ w.tally.voteOf post voter →
    r.VotesAs w post voter ∨ ∃ row ∈ w.tables.posts, row.id = post ∧ r.DeletesOwn w row
  /-- The row of a post disappears when its author deletes it. -/
  gone : ∀ row ∈ w.tables.posts, row ∉ w'.tables.posts → r.DeletesOwn w row
  /-- The row of a post is never changed. -/
  kept : ∀ row ∈ w.tables.posts, ∀ row' ∈ w'.tables.posts, row'.id = row.id → row' = row
  /-- No two posts have the same identifier. -/
  distinct : (w'.tables.posts.map (·.id)).Nodup
  /-- A new post has the user as its author whose token the request carries. -/
  authors : ∀ row ∈ w'.tables.posts, row ∉ w.tables.posts → r.IsFrom w row.author
  /-- A request that carries no token of a user changes neither the posts nor the tally. -/
  strangers : (∀ user ∈ w.tables.users, ¬ r.Carries user.token) →
    w'.tables.posts = w.tables.posts ∧ w'.tally = w.tally

/-- A request from a user carries a token of a user. -/
theorem Request.IsFrom.not_stranger {r : Request} {w : World} {user : Int64} (h : r.IsFrom w user) :
    ¬ ∀ user ∈ w.tables.users, ¬ r.Carries user.token := by
  obtain ⟨row, hrow, -, hcarries⟩ := h
  exact fun nobody => nobody row hrow hcarries

namespace Authorized

variable {r : Request} {w w' : World} (unique : (w.tables.posts.map (·.id)).Nodup)

include unique

/-- A request that leaves the posts as they are is authorized if what it does to the votes is. -/
theorem of_posts_eq (posts : w'.tables.posts = w.tables.posts)
    (users : w'.tables.users = w.tables.users ∨
      r.EntersUser ∧ ∃ user, w'.tables.users = w.tables.users ++ [user])
    (votes : ∀ post voter, w'.tally.voteOf post voter ≠ w.tally.voteOf post voter →
      r.VotesAs w post voter)
    (strangers : (∀ user ∈ w.tables.users, ¬ r.Carries user.token) → w'.tally = w.tally) :
    Authorized r w w' where
  users := users
  votes post voter changed := .inl (votes post voter changed)
  gone _ found missing := absurd (posts ▸ found) missing
  kept _ found _ found' same := List.inj_on_of_nodup_map unique (posts ▸ found') found same
  distinct := posts ▸ unique
  authors _ found new := absurd (posts ▸ found) new
  strangers nobody := ⟨posts, strangers nobody⟩

/-- A request that changes neither the posts nor the tally, and no user that there is. -/
theorem of_same (posts : w'.tables.posts = w.tables.posts) (tally : w'.tally = w.tally)
    (users : w'.tables.users = w.tables.users ∨
      r.EntersUser ∧ ∃ user, w'.tables.users = w.tables.users ++ [user]) : Authorized r w w' :=
  of_posts_eq unique posts users (fun _ _ changed => absurd (by rw [tally]) changed) fun _ => tally

/-- A request from a user who votes on a post. -/
theorem of_voted {post voter : Int64} {direction : Direction} {change : Vote.Change}
    (tables : w'.tables = w.tables)
    (decided : Vote.decide post voter (w.tally.voteOf post voter) direction = .ok change)
    (tally : w'.tally = w.tally.put post ((w.tally.entry post).record change))
    (votes : r.VotesAs w post voter) : Authorized r w w' := by
  refine of_posts_eq unique (by rw [tables]) (.inl (by rw [tables]))
    (fun other user changed => ?_) fun nobody => absurd nobody votes.2.2.not_stranger
  have hchange : change.user = voter := by rw [Vote.decide_eq_ok decided]
  rw [tally, Engagement.Tally.voteOf_put_record, hchange] at changed
  have hsame : other = post ∧ user = voter := by
    by_contra hother
    exact changed (if_neg hother)
  rw [hsame.1, hsame.2]
  exact votes

/-- A request from a user who writes a post under a new identifier. -/
theorem of_wrote {row : Post} (new : ¬ w.tables.HasPost row.id)
    (posts : w'.tables.posts = w.tables.posts ++ [row]) (users : w'.tables.users = w.tables.users)
    (tally : w'.tally = (w.tally.register row.id).2) (author : r.IsFrom w row.author) :
    Authorized r w w' where
  users := .inl users
  votes post voter changed := by
    rw [tally, Engagement.Tally.voteOf_register] at changed
    exact absurd rfl changed
  gone other found missing := absurd (posts ▸ List.mem_append_left _ found) missing
  kept other found row' found' same := by
    rw [posts, List.mem_append, List.mem_singleton] at found'
    rcases found' with hold | rfl
    · exact List.inj_on_of_nodup_map unique hold found same
    · exact absurd ⟨other, found, same.symm⟩ new
  distinct := by
    have hfresh : row.id ∉ w.tables.posts.map (·.id) := fun hmem => new (List.mem_map.1 hmem)
    rw [posts, List.map_append, List.map_singleton, ← List.concat_eq_append, List.nodup_concat]
    exact ⟨hfresh, unique⟩
  authors other found hnew := by
    rw [posts, List.mem_append, List.mem_singleton] at found
    rcases found with hold | rfl
    · exact absurd hold hnew
    · exact author
  strangers nobody := absurd nobody author.not_stranger

/-- A request from the author of a post who deletes it. -/
theorem of_deleted {row : Post} (found : row ∈ w.tables.posts)
    (posts : w'.tables.posts = w.tables.posts.filter (·.id ≠ row.id))
    (users : w'.tables.users = w.tables.users) (tally : w'.tally = w.tally.remove row.id)
    (deletes : r.DeletesOwn w row) : Authorized r w w' where
  users := .inl users
  votes post voter changed := by
    rw [tally, Engagement.Tally.voteOf_remove] at changed
    have hpost : post = row.id := by
      by_contra hother
      exact changed (if_neg hother)
    exact .inr ⟨row, found, hpost.symm, deletes⟩
  gone other hother missing := by
    have hid : other.id = row.id := by
      by_contra hne
      exact missing (posts ▸ List.mem_filter.2 ⟨hother, decide_eq_true hne⟩)
    rwa [List.inj_on_of_nodup_map unique hother found hid]
  kept other hother row' hrow' same := by
    rw [posts] at hrow'
    exact List.inj_on_of_nodup_map unique (List.mem_of_mem_filter hrow') hother same
  distinct := by
    rw [posts]
    exact unique.sublist (List.filter_sublist.map _)
  authors other hother new := by
    rw [posts] at hother
    exact absurd (List.mem_of_mem_filter hother) new
  strangers nobody := absurd nobody deletes.2.2.not_stranger

/-- A deed that a request asks for, done for a caller whose token the request carries. -/
theorem of_done {user : Option User} {d : Deed} {reply : d.Reply} (asked : d.Asked r user)
    (known : ∀ known, user = some known → known ∈ w.tables.users ∧ r.Carries known.token)
    (done : d.Done w reply w') : Authorized r w w' := by
  have isFrom : ∀ {id : Int64}, (∃ known, user = some known ∧ known.id = id) → r.IsFrom w id :=
    fun ⟨caller, hcaller, hid⟩ => ⟨caller, (known caller hcaller).1, hid, (known caller hcaller).2⟩
  cases done with
  | entered clock drawn row same => exact of_same unique rfl rfl (.inr ⟨asked, row, rfl⟩)
  | wrote clock drawn row same new =>
    obtain ⟨-, -, author⟩ := asked
    exact of_wrote unique (same ▸ new) rfl rfl rfl (isFrom author)
  | deleted row found =>
    obtain ⟨hmethod, hat, author⟩ := asked
    exact of_deleted unique found rfl rfl rfl ⟨hmethod, hat, isFrom author⟩
  | @voted post voter direction change found decided =>
    obtain ⟨hmethod, hat, author⟩ := asked
    refine of_voted unique rfl decided rfl ⟨hmethod, ?_, isFrom author⟩
    cases direction with
    | like => exact .inl hat
    | dislike => exact .inr hat

end Authorized

/-- Whatever a request changes of the users, the posts and the votes, it may change. -/
theorem respond_authorized (rules : Rules) (w : World) (r : Request)
    (unique : (w.tables.posts.map (·.id)).Nodup) :
    Authorized r w (w.run (respond rules r)).2 := by
  have hdid := did_run rules w r
  generalize w.run (respond rules r) = ended at hdid ⊢
  cases hdid with
  | nothing idle =>
    exact .of_same unique (by rw [idle.tables]) idle.tally (.inl (by rw [idle.tables]))
  | deed asked known done => exact .of_done unique asked known done

/-- The second user, who has liked a post of the first one, cannot delete it; the first one can, and
then the vote is gone as well, but no user. -/
theorem respond_authorized_of_deletion :
    let w := World.uneven
    let rules : Rules := ⟨true, 2000, 8, ⟨20, 100⟩⟩
    let delete (token : String) : Request :=
      ⟨.delete, ⟨"/api/posts/7".toList, none⟩, [("authorization", "Bearer " ++ token)], ""⟩
    (w.tables.posts.map (·.id)).Nodup ∧
      (w.run (respond rules (delete "b"))).2.tables.posts = w.tables.posts ∧
      (w.run (respond rules (delete "a"))).2.tally.voteOf 7 2 ≠ w.tally.voteOf 7 2 ∧
      (w.run (respond rules (delete "a"))).2.tables.users = w.tables.users ∧
      ∃ row ∈ w.tables.posts, row.id = 7 ∧ (delete "a").DeletesOwn w row := by
  intro w rules delete
  have unique : (w.tables.posts.map (·.id)).Nodup := by decide
  have changed : (w.run (respond rules (delete "a"))).2.tally.voteOf 7 2 ≠ w.tally.voteOf 7 2 := by
    decide +kernel
  have authorized := respond_authorized rules w (delete "a") unique
  have users := authorized.users.resolve_right fun ⟨⟨hmethod, _⟩, _⟩ => nomatch hmethod
  refine ⟨unique, by decide +kernel, changed, users, ?_⟩
  refine (authorized.votes 7 2 changed).resolve_left ?_
  rintro ⟨hmethod, -⟩
  cases hmethod

end Forum.Http
