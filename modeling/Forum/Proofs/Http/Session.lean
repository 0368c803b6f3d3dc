import Mathlib
import Forum.Proofs.Http.Outcome

/-!
# Requests one after another

What a request leaves of the world when nobody comes in between: `Leaves` has one case for each way
of changing something, with what is known when it happens. A session is a list of requests, each
with the time at which it comes. What the six cases keep is kept by every session.
-/

namespace Forum.Http

open Identifier (Generator)

/-- What a request can leave of a world. -/
inductive Leaves (w : World) : World → Prop
  /-- Everything but the clock is as it was. -/
  | kept (clock : Identifier.Clock) : Leaves w { w with clock := clock }
  /-- An identifier was drawn in vain. -/
  | drew {id : Int64} {g : Generator} (clock : Identifier.Clock)
    (drawn : w.generator.Outcome (.ok id) g) :
    Leaves w { w with generator := g, clock := clock }
  /-- A user was entered under a new identifier. -/
  | entered {id : Int64} {g : Generator} (clock : Identifier.Clock)
    (drawn : w.generator.Outcome (.ok id) g) (row : User) (same : row.id = id) :
    Leaves w { w with
      tables := { w.tables with users := w.tables.users ++ [row] }
      generator := g
      clock := clock }
  /-- A user has written a post under a new identifier, and it was registered. -/
  | wrote {id : Int64} {g : Generator} (clock : Identifier.Clock)
    (drawn : w.generator.Outcome (.ok id) g) (row : Post) (same : row.id = id)
    (author : w.tables.HasUser row.author) :
    Leaves w { w with
      tables := { w.tables with posts := w.tables.posts ++ [row] }
      tally := (w.tally.register row.id).2
      generator := g
      clock := clock }
  /-- A user has deleted a post of theirs, and it was removed from the ranking. -/
  | deleted (row : Post) (found : row ∈ w.tables.posts) (author : w.tables.HasUser row.author) :
    Leaves w { w with
      tables := { w.tables with posts := w.tables.posts.filter (·.id ≠ row.id) }
      tally := w.tally.remove row.id }
  /-- A user has voted on a post that has a row. -/
  | voted {post voter : Int64} {direction : Direction} {change : Vote.Change}
    (found : w.tables.HasPost post) (known : w.tables.HasUser voter)
    (decided : Vote.decide post voter (w.tally.voteOf post voter) direction = .ok change) :
    Leaves w { w with tally := w.tally.put post ((w.tally.entry post).record change) }

/-- What is left when nothing was done. -/
theorem Leaves.of_idle {w w' : World} (h : Idle w w') : Leaves w w' := by
  cases h with
  | kept clock => exact .kept clock
  | drew clock drawn => exact .drew clock drawn

/-- What is left by a deed, if whoever does it as a user is one. -/
theorem Leaves.of_done {w w' : World} {r : Request} {user : Option User} {d : Deed}
    {reply : d.Reply} (asked : d.Asked r user)
    (known : ∀ known, user = some known → known ∈ w.tables.users) (h : d.Done w reply w') :
    Leaves w w' := by
  have hasUser : ∀ {id : Int64}, (∃ known, user = some known ∧ known.id = id) →
      w.tables.HasUser id :=
    fun ⟨caller, hcaller, hid⟩ => ⟨caller, known caller hcaller, hid⟩
  cases h with
  | entered clock drawn row same => exact .entered clock drawn row same
  | wrote clock drawn row same new => exact .wrote clock drawn row same (hasUser asked.2.2)
  | deleted row found => exact .deleted row found (hasUser asked.2.2)
  | voted found decided => exact .voted found (hasUser asked.2.2) decided

variable (rules : Rules) (w : World)

/-- Every request leaves one of the six. -/
theorem leaves_respond (r : Request) : Leaves w (w.run (respond rules r)).2 := by
  have hdid := did_run rules w r
  generalize w.run (respond rules r) = ended at hdid ⊢
  cases hdid with
  | nothing idle => exact .of_idle idle
  | deed asked known done => exact .of_done asked (fun user h => (known user h).1) done

/-! ## Sessions -/

/-- A request and the time at which it comes. -/
structure Arrival where
  /-- The time. -/
  now : Timestamp
  /-- The request. -/
  request : Request

/-- The world after requests that came one after another. -/
def session (w : World) (arrivals : List Arrival) : World :=
  arrivals.foldl (fun w a => (World.run { w with now := a.now } (respond rules a.request)).2) w

/-- A request and the response to it. -/
structure Exchange where
  /-- The request. -/
  request : Request
  /-- The response. -/
  response : Response

/-- What is answered to requests that come one after another. -/
def exchanges (w : World) : List Arrival → List Exchange
  | [] => []
  | a :: rest =>
    let (response, after) := World.run { w with now := a.now } (respond rules a.request)
    ⟨a.request, response⟩ :: exchanges after rest

/-- The exchange that a request is part of when it comes. -/
def exchange (a : Arrival) : Exchange :=
  ⟨a.request, (World.run { w with now := a.now } (respond rules a.request)).1⟩

/-- The exchanges go on with the world that the first requests have left. -/
theorem exchanges_append (first rest : List Arrival) : exchanges rules w (first ++ rest) =
    exchanges rules w first ++ exchanges rules (session rules w first) rest := by
  induction first generalizing w with
  | nil => rfl
  | cons a first ih => exact congrArg _ (ih _)

/-- What does not depend on the time and is kept by every request is kept by a session. -/
theorem session_induction {P : World → Prop} (timeless : ∀ w now, P w → P { w with now := now })
    (step : ∀ w w', Leaves w w' → P w → P w') (h : P w) (arrivals : List Arrival) :
    P (session rules w arrivals) := by
  induction arrivals using List.reverseRecOn with
  | nil => exact h
  | append_singleton arrivals a ih =>
    rw [session, List.foldl_concat]
    exact step _ _ (leaves_respond rules _ a.request) (timeless _ a.now ih)

end Forum.Http
