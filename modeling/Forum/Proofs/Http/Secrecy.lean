import Mathlib
import Forum.Proofs.Http.Session

/-!
# Tokens are not told

A token gets its user recognised and does nothing else. Two worlds that differ in the token of one
user answer alike, as long as nobody presents one of the two tokens or enters a user, and go on
differing in that token only. The only questions whose answers could tell the worlds apart are those
for the users, and the only one of these that such a request asks is for the user with the token
that it presents. No property of the other tokens is needed, not even that they are different.
-/

namespace Forum

variable {user : User} {token : String} {w w' : World}

/-- Whether two worlds are the same but for the token of one user. -/
def World.Twins (user : User) (token : String) (w w' : World) : Prop :=
  ∃ before after, w.tables.users = before ++ user :: after ∧ w' = { w with
    tables := { w.tables with users := before ++ { user with token := token } :: after } }

/-- Whether a question tells nothing of the token of a user, which may be either of two: it is not
for the users, or it looks for one who is not that user. -/
def Effect.Discreet (user : User) (token : String) : Effect → Prop
  | .rows (.findUser key) =>
    ¬ key.matches user ∧ ¬ key.matches { user with token := token }
  | .rows (.addUser ..) => False
  | _ => True

/-- What does not read the users tells nothing of them. -/
theorem Effect.discreet_of_browses {e : Effect} (h : e.browses) : e.Discreet user token := by
  cases e with
  | engagement | freshId => trivial
  | rows s =>
    cases s with
    | findUser | addUser => exact h.elim
    | findPost | findPosts | recentPosts | countPosts | addPost | deletePost => trivial

/-- Calls of the engagement store tell nothing of the users. -/
theorem Effect.discreet_of_isCall {e : Effect} (h : e.IsCall) : e.Discreet user token := by
  cases e with
  | engagement => trivial
  | rows | freshId => exact h.elim

/-- A user whom a search passes over can have any token. -/
theorem find?_of_not_matches {key : Database.UserKey} (hold : ¬ key.matches user)
    (hnew : ¬ key.matches { user with token := token }) (before after : List User) :
    (before ++ { user with token := token } :: after).find? key.matches =
      (before ++ user :: after).find? key.matches := by
  rw [List.find?_append, List.find?_append, List.find?_cons_of_neg hnew,
    List.find?_cons_of_neg hold]

namespace World.Twins

/-- A later time does not make twins differ more. -/
theorem at_time (h : Twins user token w w') (now : Timestamp) :
    Twins user token { w with now := now } { w' with now := now } := by
  obtain ⟨before, after, husers, rfl⟩ := h
  exact ⟨before, after, husers, rfl⟩

/-- Twins give the same answer to a question that tells nothing of the token, and are twins
afterwards. -/
theorem answer (e : Effect) (w w' : World) (h : Twins user token w w')
    (discreet : e.Discreet user token) : (World.answer e w').1 = (World.answer e w).1 ∧
      Twins user token (World.answer e w).2 (World.answer e w').2 := by
  obtain ⟨before, after, husers, rfl⟩ := h
  cases e with
  | engagement deadline call => exact ⟨rfl, before, after, husers, rfl⟩
  | freshId => exact ⟨rfl, before, after, husers, rfl⟩
  | rows s =>
    cases s with
    | findUser key =>
      have hfound := find?_of_not_matches discreet.1 discreet.2 before after
      rw [← husers] at hfound
      exact ⟨congrArg Except.ok hfound, before, after, husers, rfl⟩
    | addUser => exact discreet.elim
    | findPost | findPosts | recentPosts | countPosts | deletePost =>
      exact ⟨rfl, before, after, husers, rfl⟩
    | addPost id author title content =>
      -- Whether the identifier is taken is read off the posts, which are the same.
      simp only [World.answer, execute, Database.Tables.execute, Database.Tables.addPost]
      split <;> exact ⟨rfl, before, after, husers, rfl⟩

end World.Twins

namespace Http

open Workflow

/-- Whether a request can tell nothing of the token of a user, which may be either of two: it does
not enter a user and presents neither of the two tokens. -/
structure Request.Innocent (r : Request) (user : User) (token : String) : Prop where
  /-- It does not enter a user. -/
  enters : ¬ (r.method = .post ∧ r.target.path = Route.users.path)
  /-- It does not present the one token. -/
  old : bearerToken? r ≠ some user.token
  /-- It does not present the other one. -/
  new : bearerToken? r ≠ some token

variable (rules : Rules)

/-- What looks up a post first asks nothing about users if what follows does not. -/
theorem asks_lookUp_discreet {α : Type} {id : Int64}
    {otherwise : Post → Workflow (Except Fault α)}
    (h : ∀ row, (otherwise row).Asks (Effect.Discreet user token)) :
    (Workflow.ask (.rows (.findPost id)) (Posts.afterLookUp id otherwise)).Asks
      (Effect.Discreet user token) := by
  refine ⟨trivial, fun reply => ?_⟩
  rcases reply with fault | _ | row
  · trivial
  · trivial
  · exact h row

/-- A deed other than entering a user asks nothing about users. -/
theorem Deed.asks_discreet {d : Deed} (h : ∀ username, d ≠ .enterUser username) :
    (d.service rules).run.Asks (Effect.Discreet user token) := by
  cases d with
  | enterUser username => exact absurd rfl (h username)
  | writePost author draft =>
    cases hdraft : LengthRule.check draft.checks with
    | error fault =>
      rw [service, Posts.create_run_of_broken rules hdraft]
      trivial
    | ok =>
      rw [service, Posts.create_run_of_checked rules hdraft]
      refine ⟨trivial, fun issued => ?_⟩
      rcases issued with fault | id
      · trivial
      · refine ⟨trivial, fun added => ?_⟩
        rcases added with fault | row
        · trivial
        · exact ⟨trivial, fun registered => by cases registered <;> trivial⟩
  | deletePost author post =>
    rw [service, Posts.delete_run]
    refine asks_lookUp_discreet fun row => ?_
    split
    · trivial
    · refine ⟨trivial, fun deleted => ?_⟩
      rcases deleted with fault | ⟨⟩
      · trivial
      · exact ⟨trivial, fun _ => trivial⟩
  | vote voter post direction =>
    rw [service, voteOnExisting_run]
    exact asks_lookUp_discreet fun row =>
      (asks_vote rules post voter direction).mono fun _ => Effect.discreet_of_isCall

/-- All that an innocent request asks tells nothing of the token. -/
theorem asks_respond_discreet {r : Request} (h : r.Innocent user token) :
    (respond rules r).Asks (Effect.Discreet user token) := by
  have hbrowses : ∀ {α : Type} {program : Workflow α}, program.Asks Effect.browses →
      program.Asks (Effect.Discreet user token) :=
    fun hasks => hasks.mono fun _ => Effect.discreet_of_browses
  have hcaller : (caller r).Asks (Effect.Discreet user token) := by
    refine asks_caller fun presented hpresented => ?_
    have hold : user.token ≠ presented := fun same => h.old (same ▸ hpresented)
    have hnew : token ≠ presented := fun same => h.new (same ▸ hpresented)
    exact ⟨by simpa [Database.UserKey.matches] using hold,
      by simpa [Database.UserKey.matches] using hnew⟩
  rcases respond_cases rules r with ⟨response, hdone, -⟩ | ⟨f, hf, hpurpose⟩
  · rw [hdone]
    trivial
  · rw [hf]
    refine hcaller.andThen fun known => ?_
    cases hpurpose known with
    | shows method asks => exact (hbrowses asks).andThen fun _ => trivial
    | refuses same => rw [finish, same]; trivial
    | does d asked same =>
      rw [finish_of_does rules same]
      refine (Deed.asks_discreet rules fun username hd => ?_).andThen fun _ => trivial
      subst hd
      exact h.enters asked

/-- Any innocent requests one after another, in two worlds that are the same but for the token of
one user. They are answered alike, and the worlds that they leave differ in no more than that
token. -/
theorem tokens_not_told (arrivals : List Arrival)
    (innocent : ∀ a ∈ arrivals, a.request.Innocent user token) (twins : w.Twins user token w') :
    exchanges rules w arrivals = exchanges rules w' arrivals ∧
      (session rules w arrivals).Twins user token (session rules w' arrivals) := by
  induction arrivals generalizing w w' with
  | nil => exact ⟨rfl, twins⟩
  | cons a rest ih =>
    have hasks := asks_respond_discreet rules (innocent a List.mem_cons_self)
    obtain ⟨hresponse, hleft⟩ := run_eq_of_along World.Twins.answer (respond rules a.request)
      (twins.at_time a.now) (hasks.along World.answer _)
    obtain ⟨hrest, hend⟩ := ih (fun b hb => innocent b (List.mem_cons_of_mem a hb)) hleft
    have hfirst : exchange rules w a = exchange rules w' a :=
      congrArg (Exchange.mk a.request) hresponse.symm
    exact ⟨congrArg₂ List.cons hfirst hrest, hend⟩

/-- The second user asks who they are and likes a post of the first one; then someone who is not
known reads that post. Whether the token of the first user is `a` or `z` shows in none of the
answers. -/
theorem tokens_not_told_of_visit :
    let ann : User := ⟨1, "ann", "ann", "a", .noon⟩
    let w := World.uneven
    let w' : World := { w with tables := { w.tables with users :=
      [{ ann with token := "z" }, ⟨2, "bob", "bob", "b", .noon⟩] } }
    let rules : Rules := ⟨true, 2000, 8, ⟨20, 100⟩⟩
    let bearer : Header := ("authorization", "Bearer b")
    let visit : List Arrival :=
      [⟨.noon, .get, ⟨"/api/users/me".toList, none⟩, [bearer], ""⟩,
        ⟨.noon, .post, ⟨"/api/posts/8/like".toList, none⟩, [bearer], ""⟩,
        ⟨.noon, .get, ⟨"/api/posts/8".toList, none⟩, [], ""⟩]
    (∀ a ∈ visit, a.request.Innocent ann "z") ∧ w.Twins ann "z" w' ∧
      (exchanges rules w visit).map (·.response.status) = [200, 200, 200] ∧
      exchanges rules w visit = exchanges rules w' visit := by
  intro ann w w' rules bearer visit
  have innocent : ∀ a ∈ visit, a.request.Innocent ann "z" := by
    simp only [visit, List.forall_mem_cons]
    refine ⟨⟨?_, ?_, ?_⟩, ⟨?_, ?_, ?_⟩, ⟨?_, ?_, ?_⟩, List.forall_mem_nil _⟩ <;>
      decide +kernel
  have twins : w.Twins ann "z" w' := ⟨[], [⟨2, "bob", "bob", "b", .noon⟩], rfl, rfl⟩
  exact ⟨innocent, twins, by decide +kernel, (tokens_not_told rules visit innocent twins).1⟩

end Http

end Forum
