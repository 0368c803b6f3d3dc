import Mathlib
import Forum.Proofs.Workflow
import Forum.Service.Posts
import Forum.Service.Ranking
import Forum.Service.Records

/-!
# The programs of the services

The trees of the services that do more than pass on one question.
-/

/-! ## The programs of the ranking

The trees of the services that do more than pass on one call. What needs a registered post asks for
its score first, and goes on or ends with the answer. -/

namespace Forum.Ranking

variable (rules : Rules) (post delta : Int64)

/-- How a service goes on after the score of a post that has to be registered was read. -/
def afterScore {α : Type} (otherwise : Workflow (Except Fault α)) :
    Except Fault (Option Int64) → Workflow (Except Fault α)
  | .error fault => .done (.error fault)
  | .ok none => .done (.error (.postNotFound post))
  | .ok (some _) => otherwise

theorem requireRegistered_run_bind {α : Type} (f : Unit → Service α) :
    (requireRegistered rules post >>= f).run =
      .ask (.engagement rules.deadline (.scoreOf post)) (afterScore post (f ()).run) := by
  rw [requireRegistered, call, bind_assoc, Service.run_ask_bind]
  congr 1
  funext reply
  rcases reply with fault | _ | score <;> rfl

/-- An adjustment of posts that need not be registered is one call. -/
theorem adjustScore_run_of_auto (h : rules.autoRegister = true) :
    (adjustScore rules post delta).run =
      .ask (.engagement rules.deadline (.adjustScore post delta)) .done := by
  rw [adjustScore, h]
  rfl

/-- An adjustment of posts that have to be registered asks for the score first. -/
theorem adjustScore_run_of_registered (h : rules.autoRegister = false) :
    (adjustScore rules post delta).run =
      .ask (.engagement rules.deadline (.scoreOf post))
        (afterScore post (.ask (.engagement rules.deadline (.adjustScore post delta)) .done)) := by
  rw [adjustScore, h]
  exact requireRegistered_run_bind rules post _

/-- A question for a score is one call, and the rules say what an unknown post has. -/
theorem scoreOf_run :
    (scoreOf rules post).run = .ask (.engagement rules.deadline (.scoreOf post)) fun
      | .error fault => .done (.error fault)
      | .ok (some score) => .done (.ok score)
      | .ok none => .done (if rules.autoRegister then .ok 0 else .error (.postNotFound post)) := by
  rw [scoreOf, call, Service.run_ask_bind]
  congr 1
  funext reply
  rcases reply with fault | _ | score
  · rfl
  · cases h : rules.autoRegister <;> rfl
  · rfl

end Forum.Ranking

/-! ## The program of a new account

The tree of entering a user. A name that breaks a rule is refused without a question; any other one
is looked up, an identifier is drawn for it, and the row is entered. -/

namespace Forum.Accounts

/-- How entering a user goes on with the identifier. -/
def afterFreshId (username : String) : Except Fault Int64 → Workflow (Except Fault User)
  | .error fault => .done (.error fault)
  | .ok id => .ask (.rows (.addUser id username (LetterCase.lower username))) .done

/-- How entering a user goes on after the name was looked up. -/
def afterFindName (username : String) : Except Fault (Option User) → Workflow (Except Fault User)
  | .error fault => .done (.error fault)
  | .ok (some _) => .done (.error (.conflict "Username already taken"))
  | .ok none => .ask .freshId (afterFreshId username)

/-- A name that breaks a rule is refused without a question. -/
theorem create_run_of_broken {username : String} {fault : Fault}
    (h : checkName username = .error fault) : (create username).run = .done (.error fault) := by
  rw [create, h]
  rfl

/-- Entering a user looks up the name, draws an identifier and enters the row. -/
theorem create_run_of_checked {username : String} (h : checkName username = .ok ()) :
    (create username).run =
      .ask (.rows (.findUser (.byName (LetterCase.lower username)))) (afterFindName username) := by
  rw [create, h, Service.run_ok_bind, Records.findUserByName, Records.query, Service.run_ask_bind]
  congr 1
  funext reply
  rcases reply with fault | _ | user
  · rfl
  · change ((Service.ask .freshId >>= fun id => Records.addUser id username) : Service User).run = _
    rw [Service.run_ask_bind]
    dsimp only [afterFindName]
    congr 1
    funext reply
    cases reply <;> rfl
  · rfl

end Forum.Accounts

/-! ## The programs of the posts

The trees of writing, finding and deleting a post. Each of the first and the last makes two writes,
one to the database and then one to the engagement store, and asks for something in between, so the
places at which it can stop are the leaves of its tree. -/

namespace Forum.Posts

variable (rules : Rules)

/-- How a look-up of a post that has to exist goes on with its row. -/
def afterLookUp {α : Type} (id : Int64) (otherwise : Post → Workflow (Except Fault α)) :
    Except Fault (Option Post) → Workflow (Except Fault α)
  | .error fault => .done (.error fault)
  | .ok none => .done (.error (.postNotFound id))
  | .ok (some post) => otherwise post

/-- A post that has to exist is looked up first. -/
theorem getPost_run_bind {α : Type} (id : Int64) (f : Post → Service α) :
    (Records.getPost id >>= f).run =
      .ask (.rows (.findPost id)) (afterLookUp id fun post => (f post).run) := by
  rw [Records.getPost, Records.findPost, Records.query, bind_assoc, Service.run_ask_bind]
  congr 1
  funext reply
  rcases reply with fault | _ | post <;> rfl

/-- How writing a post ends after its registration. -/
def afterRegister (post : Post) : Except Fault Bool → Workflow (Except Fault Post)
  | .ok _ => .done (.ok post)
  | .error fault => .done (if rules.autoRegister then .ok post else .error fault)

/-- How writing a post goes on after its row was entered. -/
def afterAddPost : Except Fault Post → Workflow (Except Fault Post)
  | .error fault => .done (.error fault)
  | .ok post => .ask (.engagement rules.deadline (.register post.id)) (afterRegister rules post)

/-- How writing a post goes on with its identifier. -/
def afterFreshId (author : Int64) (draft : Draft) :
    Except Fault Int64 → Workflow (Except Fault Post)
  | .error fault => .done (.error fault)
  | .ok id => .ask (.rows (.addPost id author draft.title draft.content)) (afterAddPost rules)

/-- A draft that breaks a rule is refused without a question. -/
theorem create_run_of_broken {author : Int64} {draft : Draft} {fault : Fault}
    (h : LengthRule.check draft.checks = .error fault) :
    (create rules author draft).run = .done (.error fault) := by
  rw [create, h]
  rfl

/-- Writing a post asks for an identifier, enters the row and registers the post. -/
theorem create_run_of_checked {author : Int64} {draft : Draft}
    (h : LengthRule.check draft.checks = .ok ()) :
    (create rules author draft).run = .ask .freshId (afterFreshId rules author draft) := by
  rw [create, h, Service.run_ok_bind, Service.run_ask_bind]
  congr 1
  funext reply
  rcases reply with fault | id
  · rfl
  · dsimp only [afterFreshId]
    rw [Records.addPost, Records.query, Service.run_ask_bind]
    congr 1
    funext reply
    rcases reply with fault | post
    · rfl
    · dsimp only [afterAddPost]
      rw [Ranking.register, Ranking.call, Service.outcome, Service.ask]
      change Workflow.ask _ _ = _
      congr 1
      funext reply
      rcases reply with fault | fresh
      · cases hauto : rules.autoRegister <;> simp [Workflow.andThen, afterRegister, hauto]
        all_goals rfl
      · rfl

/-- How a deletion goes on after the row was deleted. -/
def afterDeletePost (id : Int64) : Except Fault Unit → Workflow (Except Fault Unit)
  | .error fault => .done (.error fault)
  | .ok () => .ask (.engagement rules.deadline (.remove id)) .done

/-- The fault of deleting another user's post. -/
def notTheAuthor : Fault := .forbidden "Cannot delete another user's post"

/-- A deletion looks up the row, deletes it and removes the post from the ranking. -/
theorem delete_run (id user : Int64) :
    (delete rules id user).run = .ask (.rows (.findPost id)) (afterLookUp id fun post =>
      if post.author ≠ user then .done (.error notTheAuthor)
      else .ask (.rows (.deletePost id)) (afterDeletePost rules id)) := by
  rw [delete, getPost_run_bind]
  congr 1
  funext reply
  rcases reply with fault | _ | post
  · rfl
  · rfl
  · dsimp only [afterLookUp]
    split
    · rfl
    · change ((Records.deletePost id >>= fun _ => Ranking.remove rules id) : Service Unit).run = _
      rw [Records.deletePost, Records.query, Service.run_ask_bind]
      congr 1
      funext reply
      rcases reply with fault | ⟨⟩ <;> rfl

end Forum.Posts

/-! ## The program of a vote

The tree of a vote with its places named: it may ask for the score of the post first, it asks for
the recorded vote, and it asks to commit a change. `Stage` lists these places together with the two
ends, `Stage.program` is what is left to do at each, and `Stage.next` says where an answer leads.
Every statement about votes in company of others is about these stages. -/

namespace Forum.Voting

variable (rules : Rules) (post user : Int64) (requested : Direction)

/-- How a vote goes on after the answer to a commit. -/
def afterCommit (change : Vote.Change) (otherwise : Workflow (Except Fault Receipt)) :
    Except Fault Engagement.Outcome → Workflow (Except Fault Receipt)
  | .error fault => .done (.error fault)
  | .ok (.committed score) => .done (.ok ⟨post, requested, change.delta, score⟩)
  | .ok .conflict => otherwise

/-- How a vote goes on after the recorded vote was read. -/
def afterRead (otherwise : Workflow (Except Fault Receipt)) :
    Except Fault (Option Direction) → Workflow (Except Fault Receipt)
  | .error fault => .done (.error fault)
  | .ok previous =>
    match Vote.decide post user previous requested with
    | .error fault => .done (.error fault)
    | .ok change => .ask (.engagement rules.deadline (.commitVote change))
        (afterCommit post requested change otherwise)

/-- An attempt reads, decides and commits. -/
theorem attempt_run (otherwise : Service Receipt) :
    (attempt rules post user requested otherwise).run =
      .ask (.engagement rules.deadline (.voteOf post user))
        (afterRead rules post user requested otherwise.run) := by
  rw [attempt, voteOf, Ranking.call, Service.run_ask_bind]
  congr 1
  funext reply
  cases reply with
  | error fault => rfl
  | ok previous =>
    dsimp only [afterRead]
    cases Vote.decide post user previous requested with
    | error fault => exact Service.run_error_bind _ _
    | ok change =>
      rw [Service.run_ok_bind, Ranking.call, Service.run_ask_bind]
      dsimp only
      congr 1
      funext reply
      rcases reply with fault | ⟨score⟩ | _ <;> rfl

/-- A vote on posts that need not be registered begins with an attempt. -/
theorem vote_run_of_auto (h : rules.autoRegister = true) :
    (vote rules post user requested).run =
      (attempts rules post user requested rules.maxRetries).run := by
  rw [vote, h]
  rfl

/-- A vote on posts that have to be registered asks for the score first. -/
theorem vote_run_of_registered (h : rules.autoRegister = false) :
    (vote rules post user requested).run =
      .ask (.engagement rules.deadline (.scoreOf post))
        (Ranking.afterScore post (attempts rules post user requested rules.maxRetries).run) := by
  rw [vote, h]
  exact Ranking.requireRegistered_run_bind rules post _

end Forum.Voting
