import Mathlib
import Forum.Proofs.Http.Purpose
import Forum.Proofs.Service.Programs
import Forum.Proofs.World.Services
import Forum.Proofs.World.Unsteady

/-!
# What a request has done

A deed is done, or it is refused and then both stores are as before, even when statements fail at
any place. `Deed.Done` says for each deed what it leaves of the world, and `did_respond` says it for
requests: one that has done anything is a request for a deed, by a user whose token it carries, and
is answered with the result of the deed. A deed that was done is answered with a success, and no
request to show something asks for one, so neither a failed request nor such a one leaves a trace.
-/

namespace Forum.Http

open Identifier (Generator)

/-- What is left when nothing was done: the stores are as they were, but the clock may have moved
and an identifier may have been drawn. -/
inductive Idle (w : World) : World → Prop
  /-- Everything but the clock is as it was. -/
  | kept (clock : Identifier.Clock) : Idle w { w with clock := clock }
  /-- An identifier was drawn in vain. -/
  | drew {id : Int64} {g : Generator} (clock : Identifier.Clock)
    (drawn : w.generator.Outcome (.ok id) g) : Idle w { w with generator := g, clock := clock }

/-- Nothing has changed at all. -/
theorem Idle.same (w : World) : Idle w w :=
  .kept w.clock

/-- The tables are as they were. -/
theorem Idle.tables {w w' : World} (h : Idle w w') : w'.tables = w.tables := by
  cases h <;> rfl

/-- So is the tally. -/
theorem Idle.tally {w w' : World} (h : Idle w w') : w'.tally = w.tally := by
  cases h <;> rfl

namespace Deed

/-- What a deed answers and leaves when it is done. -/
inductive Done (w : World) : (d : Deed) → d.Reply → World → Prop
  /-- The user is entered under a new identifier. -/
  | entered {username : String} {id : Int64} {g : Generator} (clock : Identifier.Clock)
    (drawn : w.generator.Outcome (.ok id) g) (row : User) (same : row.id = id) :
    Done w (.enterUser username) row { w with
      tables := { w.tables with users := w.tables.users ++ [row] }
      generator := g
      clock := clock }
  /-- The post is written under a new identifier and registered. -/
  | wrote {draft : Posts.Draft} {id : Int64} {g : Generator} (clock : Identifier.Clock)
    (drawn : w.generator.Outcome (.ok id) g) (row : Post) (same : row.id = id)
    (new : ¬ w.tables.HasPost id) :
    Done w (.writePost row.author draft) row { w with
      tables := { w.tables with posts := w.tables.posts ++ [row] }
      tally := (w.tally.register row.id).2
      generator := g
      clock := clock }
  /-- The post of the author is deleted and removed from the ranking. -/
  | deleted (row : Post) (found : row ∈ w.tables.posts) :
    Done w (.deletePost row.author row.id) () { w with
      tables := { w.tables with posts := w.tables.posts.filter (·.id ≠ row.id) }
      tally := w.tally.remove row.id }
  /-- The vote is recorded for a post that has a row. -/
  | voted {post voter : Int64} {direction : Direction} {change : Vote.Change}
    (found : w.tables.HasPost post)
    (decided : Vote.decide post voter (w.tally.voteOf post voter) direction = .ok change) :
    Done w (.vote voter post direction)
      ⟨post, direction, change.delta, (w.tally.entry post).score + change.delta⟩
      { w with tally := w.tally.put post ((w.tally.entry post).record change) }

/-- How a deed ends: it is refused and nothing was done, or it is done. -/
inductive Ends (w : World) (d : Deed) : Except Fault d.Reply × World → Prop
  | refused {fault : Fault} {w' : World} (idle : Idle w w') : Ends w d (.error fault, w')
  | done {reply : d.Reply} {w' : World} (h : d.Done w reply w') : Ends w d (.ok reply, w')

end Deed

/-- What a workflow ends in when statements fail, and the world after it. -/
def attempted {α : Type} (failing : Nat → Option Fault) (u : Unsteady) (program : Workflow α) :
    α × World :=
  ((program.run (Unsteady.answer failing) u).1, (program.run (Unsteady.answer failing) u).2.world)

/-- A workflow goes on with the answer to its first question. -/
theorem attempted_ask {α : Type} (failing : Nat → Option Fault) (u : Unsteady) {e : Effect}
    (next : Except Fault e.Reply → Workflow α) : attempted failing u (.ask e next) =
      attempted failing (Unsteady.answer failing e u).2
        (next (Unsteady.answer failing e u).1) := rfl

/-- A workflow after another goes on with its value. -/
theorem attempted_andThen {α β : Type} (failing : Nat → Option Fault) (u : Unsteady)
    (first : Workflow α) (next : α → Workflow β) : attempted failing u (first.andThen next) =
      attempted failing (first.run (Unsteady.answer failing) u).2
        (next (attempted failing u first).1) := by
  rw [attempted, Workflow.run_andThen]
  rfl

variable (failing : Nat → Option Fault) (rules : Rules)

/-! ## Entering a user -/

/-- A user with an identifier is entered, unless the statement fails or the row is refused. -/
theorem ends_addUser (w : World) (n : Nat) {id : Int64} {g : Generator} (clock : Identifier.Clock)
    (drawn : w.generator.Outcome (.ok id) g) (username : String) :
    (Deed.enterUser username).Ends w (attempted failing
      ⟨{ w with generator := g, clock := clock }, n⟩
      (Accounts.afterFreshId username (.ok id))) := by
  rw [Accounts.afterFreshId, attempted_ask]
  rcases Unsteady.answer_rows_cases failing ⟨{ w with generator := g, clock := clock }, n⟩
    (.addUser id username (LetterCase.lower username)) with ⟨fault, hfailed⟩ | hexecuted
  · rw [hfailed]
    exact .refused (.drew clock drawn)
  · rw [hexecuted]
    dsimp only [Database.Tables.execute]
    rcases w.tables.addUser_cases
      ⟨id, username, LetterCase.lower username, w.tokens.draw id, w.now⟩ with
      ⟨fault, hrefused⟩ | hadded
    · rw [hrefused]
      exact .refused (.drew clock drawn)
    · rw [hadded]
      exact .done (.entered clock drawn _ rfl)

/-- A user is entered, or refused. -/
theorem ends_enterUser (u : Unsteady) (username : String) : (Deed.enterUser username).Ends u.world
    (attempted failing u (Accounts.create username).run) := by
  cases hname : Accounts.checkName username with
  | error fault =>
    rw [Accounts.create_run_of_broken hname]
    exact .refused (.same _)
  | ok =>
    rw [Accounts.create_run_of_checked hname, attempted_ask]
    rcases u.answer_rows_cases failing
      (.findUser (.byName (LetterCase.lower username))) with ⟨fault, hfailed⟩ | hlooked
    · rw [hfailed]
      exact .refused (.same _)
    · rw [hlooked]
      dsimp only [Database.Tables.execute]
      cases u.world.tables.users.find?
        (Database.UserKey.byName (LetterCase.lower username)).matches with
      | some taken => exact .refused (.same _)
      | none =>
        dsimp only [Accounts.afterFindName]
        rw [attempted_ask]
        rcases Unsteady.answer_freshId_cases failing ⟨u.world, u.issued + 1⟩ with
          ⟨fault, clock, hfailed⟩ | ⟨id, g, clock, drawn, hissued⟩
        · rw [hfailed]
          exact .refused (.kept clock)
        · rw [hissued]
          exact ends_addUser failing u.world (u.issued + 1) clock drawn username

/-! ## Writing a post -/

/-- A post with an identifier is written, unless the statement fails or the row is refused. Its
registration does not fail. -/
theorem ends_addPost (w : World) (n : Nat) {id : Int64} {g : Generator} (clock : Identifier.Clock)
    (drawn : w.generator.Outcome (.ok id) g) (author : Int64) (draft : Posts.Draft) :
    (Deed.writePost author draft).Ends w (attempted failing
      ⟨{ w with generator := g, clock := clock }, n⟩
      (Posts.afterFreshId rules author draft (.ok id))) := by
  rw [Posts.afterFreshId, attempted_ask]
  rcases Unsteady.answer_rows_cases failing ⟨{ w with generator := g, clock := clock }, n⟩
    (.addPost id author draft.title draft.content) with ⟨fault, hfailed⟩ | hexecuted
  · rw [hfailed]
    exact .refused (.drew clock drawn)
  · rw [hexecuted]
    dsimp only [Database.Tables.execute]
    by_cases htaken : w.tables.HasPost id
    · rw [w.tables.addPost_of_hasPost w.now htaken]
      exact .refused (.drew clock drawn)
    · rw [w.tables.addPost_of_new w.now htaken]
      exact .done (.wrote clock drawn ⟨id, author, draft.title, draft.content, w.now⟩ rfl htaken)

/-- A post is written, or refused. -/
theorem ends_writePost (u : Unsteady) (author : Int64) (draft : Posts.Draft) :
    (Deed.writePost author draft).Ends u.world
      (attempted failing u (Posts.create rules author draft).run) := by
  cases hdraft : LengthRule.check draft.checks with
  | error fault =>
    rw [Posts.create_run_of_broken rules hdraft]
    exact .refused (.same _)
  | ok =>
    rw [Posts.create_run_of_checked rules hdraft, attempted_ask]
    rcases u.answer_freshId_cases failing with
      ⟨fault, clock, hfailed⟩ | ⟨id, g, clock, drawn, hissued⟩
    · rw [hfailed]
      exact .refused (.kept clock)
    · rw [hissued]
      exact ends_addPost failing rules u.world u.issued clock drawn author draft

/-! ## Deleting a post and voting on one -/

/-- What looks up a post first is refused if it has no row, or if the statement fails. -/
theorem ends_lookUp (u : Unsteady) {d : Deed} (id : Int64)
    {otherwise : Post → Workflow (Except Fault d.Reply)}
    (h : ∀ row ∈ u.world.tables.posts, row.id = id →
      d.Ends u.world (attempted failing ⟨u.world, u.issued + 1⟩ (otherwise row))) :
    d.Ends u.world (attempted failing u
      (.ask (.rows (.findPost id)) (Posts.afterLookUp id otherwise))) := by
  rw [attempted_ask]
  rcases u.answer_rows_cases failing (.findPost id) with ⟨fault, hfailed⟩ | hlooked
  · rw [hfailed]
    exact .refused (.same _)
  · rw [hlooked]
    dsimp only [Database.Tables.execute]
    cases hfound : u.world.tables.posts.find? (·.id = id) with
    | none => exact .refused (.same _)
    | some row =>
      obtain ⟨hrow, hid⟩ := u.world.tables.hasPost_of_find? hfound
      exact h row hrow hid

/-- A post is deleted by its author, or it is refused. -/
theorem ends_deletePost (u : Unsteady) (author post : Int64) : (Deed.deletePost author post).Ends
    u.world (attempted failing u (Posts.delete rules post author).run) := by
  rw [Posts.delete_run]
  refine ends_lookUp failing u (d := .deletePost author post) post ?_
  rintro row hrow rfl
  split
  · exact .refused (.same _)
  · next hauthor =>
    rw [ne_eq, not_not] at hauthor
    subst hauthor
    rw [attempted_ask]
    rcases Unsteady.answer_rows_cases failing ⟨u.world, u.issued + 1⟩
      (.deletePost row.id) with ⟨fault, hfailed⟩ | hexecuted
    · rw [hfailed]
      exact .refused (.same _)
    · rw [hexecuted]
      exact .done (.deleted row hrow)

/-- A vote issues no statement of its own. -/
theorem asks_vote (post voter : Int64) (direction : Direction) :
    (Voting.vote rules post voter direction).run.Asks Effect.IsCall := by
  have hattempt : ∀ otherwise : Service Voting.Receipt, otherwise.run.Asks Effect.IsCall →
      (Voting.attempt rules post voter direction otherwise).run.Asks Effect.IsCall := by
    intro otherwise hother
    rw [Voting.attempt_run]
    refine ⟨trivial, fun reply => ?_⟩
    rcases reply with fault | previous
    · trivial
    · rw [Voting.afterRead]
      split
      · trivial
      · refine ⟨trivial, fun reply => ?_⟩
        rcases reply with fault | ⟨score⟩ | _
        · trivial
        · trivial
        · exact hother
  have hattempts : ∀ retries,
      (Voting.attempts rules post voter direction retries).run.Asks Effect.IsCall := by
    intro retries
    induction retries with
    | zero => exact hattempt _ trivial
    | succ retries ih => exact hattempt _ ih
  cases hauto : rules.autoRegister with
  | true =>
    rw [Voting.vote_run_of_auto rules post voter direction hauto]
    exact hattempts _
  | false =>
    rw [Voting.vote_run_of_registered rules post voter direction hauto]
    refine ⟨trivial, fun reply => ?_⟩
    rcases reply with fault | _ | score
    · trivial
    · trivial
    · exact hattempts _

/-- A vote on a post that has a row is recorded, or it is refused. -/
theorem ends_vote (u : Unsteady) (voter post : Int64) (direction : Direction) :
    (Deed.vote voter post direction).Ends u.world
      (attempted failing u (voteOnExisting rules post voter direction).run) := by
  rw [voteOnExisting_run]
  refine ends_lookUp failing u (d := .vote voter post direction) post fun row hrow hid => ?_
  have hcalls : (Voting.vote rules post voter direction).run.Asks fun e =>
      (∃ s, e = .rows s) → ∀ n, failing n = none :=
    (asks_vote rules post voter direction).mono fun e he ⟨s, hs⟩ => by subst hs; exact he.elim
  have hrun := Unsteady.run_eq ⟨u.world, u.issued + 1⟩ hcalls
  rw [attempted, hrun.1, hrun.2]
  change Deed.Ends u.world (.vote voter post direction)
    (u.world.runService (Voting.vote rules post voter direction))
  by_cases hregistered : rules.autoRegister = true ∨ (u.world.tally.scoreOf post).isSome
  · rw [Voting.run_vote rules post voter direction u.world hregistered]
    cases hdecide : Vote.decide post voter (u.world.tally.voteOf post voter) direction with
    | error fault =>
      rw [Voting.run_attempts_of_refused rules post voter direction u.world hdecide]
      exact .refused (.same _)
    | ok change =>
      rw [Voting.run_attempts_of_decided rules post voter direction u.world hdecide]
      exact .done (.voted ⟨row, hrow, hid⟩ hdecide)
  · rw [not_or, Bool.not_eq_true, Option.not_isSome_iff_eq_none] at hregistered
    rw [Voting.run_vote_of_unregistered rules post voter direction u.world hregistered.1
      hregistered.2]
    exact .refused (.same _)

/-- Every deed is done, or refused. -/
theorem Deed.ends (u : Unsteady) (d : Deed) :
    d.Ends u.world (attempted failing u (d.service rules).run) := by
  cases d with
  | enterUser username => exact ends_enterUser failing u username
  | writePost author draft => exact ends_writePost failing rules u author draft
  | deletePost author post => exact ends_deletePost failing rules u author post
  | vote voter post direction => exact ends_vote failing rules u voter post direction

/-! ## Requests -/

/-- Whether a response reports a success. -/
def Response.IsSuccess (response : Response) : Prop :=
  200 ≤ response.status ∧ response.status < 300

/-- A response that reports a failure reports no success. -/
theorem Response.not_isSuccess {response : Response} (h : 400 ≤ response.status) :
    ¬ response.IsSuccess := by
  rintro ⟨-, hlt⟩
  omega

/-- What a request answers and leaves: it has done nothing, or it has done a deed that it asks for
and answers with its result. Whoever does a deed as a user is one, and the request carries the token
of that user. -/
inductive Did (r : Request) (w : World) : Response × World → Prop
  /-- Nothing was done, and if the request asks for something to be done it is not answered with a
  success. -/
  | nothing {response : Response} {w' : World} (idle : Idle w w')
    (vain : r.method = .post ∨ r.method = .delete → ¬ response.IsSuccess) : Did r w (response, w')
  /-- A deed was done. -/
  | deed {user : Option User} {d : Deed} {reply : d.Reply} {w' : World} (asked : d.Asked r user)
    (known : ∀ known, user = some known → known ∈ w.tables.users ∧ r.Carries known.token)
    (done : d.Done w reply w') : Did r w (dress r (d.view reply), w')

/-- A deed that was done is answered with a success. -/
theorem Deed.isSuccess_view (d : Deed) (reply : d.Reply) : (d.view reply).IsSuccess := by
  cases d with
  | deletePost =>
    change 200 ≤ 204 ∧ 204 < 300
    decide
  | enterUser | writePost | vote =>
    change 200 ≤ 200 ∧ 200 < 300
    decide

/-- The caller that is found is a user whose token the request carries, and finding one changes
nothing. -/
theorem attempted_caller (u : Unsteady) (r : Request) :
    (attempted failing u (caller r)).2 = u.world ∧
      ∀ known, (attempted failing u (caller r)).1 = some known →
        known ∈ u.world.tables.users ∧ r.Carries known.token := by
  refine ⟨u.run_of_reads (asks_caller fun _ _ => trivial), fun known hknown => ?_⟩
  rw [caller] at hknown
  split at hknown
  · cases hknown
  · next token htoken =>
    rw [Accounts.authenticate, Records.findUserByToken, Records.query, Service.run_ask_bind,
      Workflow.andThen, attempted_ask] at hknown
    rcases u.answer_rows_cases failing (.findUser (.byToken token)) with
      ⟨fault, hfailed⟩ | hlooked
    · rw [hfailed] at hknown
      cases hknown
    · rw [hlooked] at hknown
      dsimp only [Database.Tables.execute] at hknown
      cases hfound : u.world.tables.users.find? (Database.UserKey.byToken token).matches with
      | none => rw [hfound] at hknown; cases hknown
      | some found =>
        rw [hfound] at hknown
        obtain rfl : found = known := Option.some.inj hknown
        have hsame : found.token = token := by
          simpa [Database.UserKey.matches] using List.find?_some hfound
        exact ⟨List.mem_of_find?_eq_some hfound, hsame ▸ carries_of_bearerToken? htoken⟩

/-- A handler with a purpose has done nothing, or the deed that the request asks for. -/
theorem did_finish {r : Request} {user : Option User} {h : Handler Response}
    (hpurpose : Purpose rules user r h) (u : Unsteady)
    (known : ∀ known, user = some known → known ∈ u.world.tables.users ∧ r.Carries known.token) :
    Did r u.world (attempted failing u (finish r h)) := by
  cases hpurpose with
  | shows method asks =>
    have hreads : (finish r h).Asks Effect.reads :=
      (asks.mono fun _ => Effect.reads_of_browses).andThen fun _ => trivial
    have hkept : (attempted failing u (finish r h)).2 = u.world := u.run_of_reads hreads
    have hother : ¬ (r.method = .post ∨ r.method = .delete) := by
      rcases method with hget | hhead
      · rw [hget]
        decide
      · rw [hhead]
        decide
    exact .nothing (hkept.symm ▸ .same u.world) fun hdoes => absurd hdoes hother
  | refuses same status =>
    rw [finish, same]
    exact .nothing (.same u.world) fun _ =>
      Response.not_isSuccess (status.trans_eq (status_dress r _).symm)
  | does d asked same =>
    have hends := d.ends failing rules u
    rw [finish_of_does rules same, attempted, Workflow.run_andThen, Workflow.run_done]
    generalize hended : attempted failing u (d.service rules).run = ended at hends
    obtain ⟨hresult, hworld⟩ := Prod.ext_iff.1 hended
    change ((d.service rules).run.run (Unsteady.answer failing) u).1 = _ at hresult
    change ((d.service rules).run.run (Unsteady.answer failing) u).2.world = _ at hworld
    dsimp only
    rw [hresult, hworld]
    cases hends with
    | @refused fault w' idle =>
      refine .nothing idle fun _ => Response.not_isSuccess ?_
      exact (le_status_ofFault fault).trans_eq (status_dress r _).symm
    | done hdone => exact .deed asked known hdone

/-- Every request has done nothing, or a deed that it asks for. -/
theorem did_respond (u : Unsteady) (r : Request) :
    Did r u.world (attempted failing u (respond rules r)) := by
  rcases respond_cases rules r with ⟨response, hdone, hstatus⟩ | ⟨f, hf, hpurpose⟩
  · rw [hdone]
    refine .nothing (.same u.world) fun hdoes => Response.not_isSuccess (hstatus.resolve_left ?_)
    intro hoptions
    rw [hoptions] at hdoes
    revert hdoes
    decide
  · obtain ⟨hworld, hknown⟩ := attempted_caller failing u r
    change ((caller r).run (Unsteady.answer failing) u).2.world = u.world at hworld
    rw [hf, attempted_andThen]
    rw [← hworld] at hknown ⊢
    exact did_finish failing rules (hpurpose _) _ hknown

/-- The same when no statement fails. -/
theorem did_run (w : World) (r : Request) : Did r w (w.run (respond rules r)) := by
  obtain ⟨hvalue, hworld⟩ := w.run_eq_unsteady (respond rules r)
  have hdid := did_respond (fun _ => none) rules ⟨w, 0⟩ r
  rw [attempted, hvalue, hworld] at hdid
  exact hdid

/-! ## No trace -/

/-- Whether two worlds have the same users and posts, and the same registered posts with their
scores and votes. -/
def SameStores (w w' : World) : Prop :=
  w'.tables = w.tables ∧ w'.tally = w.tally

/-- The stores are the same when nothing was done. -/
theorem Idle.sameStores {w w' : World} (h : Idle w w') : SameStores w w' :=
  ⟨h.tables, h.tally⟩

/-- A request that does not succeed, and one that only asks to show something, leave no trace in the
stores, whatever statements fail on the way. -/
theorem no_trace (w : World) (r : Request) :
    let (response, after) := attempted failing ⟨w, 0⟩ (respond rules r)
    (¬ response.IsSuccess → SameStores w after) ∧
      (r.method = .get ∨ r.method = .head → SameStores w after) := by
  have hdid := did_respond failing rules ⟨w, 0⟩ r
  generalize attempted failing ⟨w, 0⟩ (respond rules r) = ended at hdid
  cases hdid with
  | nothing idle => exact ⟨fun _ => idle.sameStores, fun _ => idle.sameStores⟩
  | @deed user d reply after asked known done =>
    have hsuccess : (dress r (d.view reply)).IsSuccess := by
      rw [Response.IsSuccess, status_dress]
      exact d.isSuccess_view reply
    have hmethod : ¬ (r.method = .get ∨ r.method = .head) := not_or.2 asked.method
    exact ⟨fun hfailed => absurd hsuccess hfailed, fun hreads => absurd hreads hmethod⟩

/-- The author of a post deletes it. When the third statement fails, the one that deletes the row,
the answer is not a success and the stores are as before. -/
theorem no_trace_of_failed_deletion :
    let w := World.uneven
    let rules : Rules := ⟨true, 2000, 8, ⟨20, 100⟩⟩
    let r : Request := ⟨.delete, ⟨"/api/posts/7".toList, none⟩, [("authorization", "Bearer a")], ""⟩
    let failing : Nat → Option Fault := fun n => if n = 2 then some (.database "down") else none
    let run failing := attempted failing ⟨w, 0⟩ (respond rules r)
    ((run fun _ => none).1.status = 204 ∧ ¬ (run fun _ => none).2.tables.HasPost 7) ∧
      (run failing).1.status = 500 ∧ SameStores w (run failing).2 := by
  intro w rules r failing run
  have hfailed : (run failing).1.status = 500 := by decide +kernel
  have hnone : ¬ (run failing).1.IsSuccess := by
    rw [Response.IsSuccess, hfailed]
    decide
  exact ⟨by decide +kernel, hfailed, (no_trace failing rules w r).1 hnone⟩

end Forum.Http
