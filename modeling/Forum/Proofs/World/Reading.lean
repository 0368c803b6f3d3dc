import Mathlib
import Forum.Proofs.Database.Tables
import Forum.Proofs.Workflow
import Forum.Service.Posts
import Forum.Service.Ranking
import Forum.Service.Records
import Forum.World.State

/-!
# Reading

Looking something up leaves the world as it is, and so does a workflow that does nothing else.
-/

namespace Forum

/-- Whether a call of the engagement store only reads. -/
def Engagement.Call.reads : Engagement.Call → Prop
  | .voteOf .. | .scoreOf _ | .topByScore .. | .cardinality => True
  | _ => False

/-- Whether a question only reads. -/
def Effect.reads : Effect → Prop
  | .engagement _ call => call.reads
  | .rows statement => statement.reads
  | .freshId => False

/-- Whether a question only reads, and what it reads are not the users. -/
def Effect.browses : Effect → Prop
  | .engagement _ call => call.reads
  | .rows statement => statement.browses
  | .freshId => False

/-- What does not read the users reads. -/
theorem Effect.reads_of_browses {e : Effect} (h : e.browses) : e.reads := by
  cases e with
  | engagement deadline call => exact h
  | rows statement => exact statement.reads_of_browses h
  | freshId => exact h.elim

/-- A call that only reads changes nothing. -/
theorem Engagement.Tally.answer_of_reads (t : Engagement.Tally) {c : Engagement.Call}
    (h : c.reads) : (t.answer c).2 = t := by
  cases c with
  | commitVote | register | adjustScore | remove => exact h.elim
  | voteOf | scoreOf | topByScore | cardinality => rfl

namespace World

variable (w : World)

/-- A question that only reads leaves the world as it is. -/
theorem answer_of_reads {e : Effect} (h : e.reads) : (World.answer e w).2 = w := by
  cases e with
  | engagement deadline call =>
    have kept : (w.tally.answer call).2 = w.tally := w.tally.answer_of_reads h
    simp only [World.answer, answerCall, kept]
  | rows statement =>
    have kept : (w.tables.execute w.tokens w.now statement).2 = w.tables :=
      w.tables.execute_of_reads w.tokens w.now h
    simp only [World.answer, execute, kept]
  | freshId => exact h.elim

/-- So does a workflow that asks nothing else. -/
theorem run_of_reads {α : Type} {program : Workflow α} (h : program.Asks Effect.reads) :
    (w.run program).2 = w :=
  h.run_snd (fun _ w he => answer_of_reads w he) w

end World

end Forum

/-! ## Services that only read

Finding users and posts, listing posts, and showing scores and votes. None of them draws an
identifier, writes a row or registers a post, whatever it is answered, and only finding a user reads
the users. -/

namespace Forum

open Workflow

variable (rules : Rules)

/-- A statement, as a service. -/
theorem Records.asks_query {P : Effect → Prop} {s : Database.Statement} (h : P (.rows s)) :
    (query s).run.Asks P :=
  ⟨h, fun _ => trivial⟩

/-- A call that only reads, as a service. -/
theorem Ranking.asks_call {c : Engagement.Call} (h : c.reads) :
    (call rules c).run.Asks Effect.browses :=
  ⟨h, fun _ => trivial⟩

/-- Recognising a user only looks up one. -/
theorem Accounts.asks_authenticate {P : Effect → Prop} {token : String}
    (h : P (.rows (.findUser (.byToken token)))) : (authenticate token).run.Asks P := by
  refine asks_bind (Records.asks_query h) fun found => ?_
  cases found with
  | none => exact asks_throw _
  | some user => exact asks_pure user

/-- The score of a post only has to be read. -/
theorem Ranking.asks_scoreOf (post : Int64) : (scoreOf rules post).run.Asks Effect.browses := by
  refine asks_bind (asks_call rules (c := .scoreOf post) trivial) fun score => ?_
  cases score with
  | some score => exact asks_pure score
  | none =>
    dsimp only
    split
    · exact asks_pure 0
    · exact asks_throw _

/-- So does the score that is shown with a post. -/
theorem Posts.asks_scoreOrZero (post : Int64) :
    (scoreOrZero rules post).run.Asks Effect.browses := by
  refine asks_bind (asks_outcome (Ranking.asks_scoreOf rules post)) fun result => ?_
  cases result with
  | ok score => exact asks_pure score
  | error fault => cases fault <;> first | exact asks_pure 0 | exact asks_throw _

/-- Finding a post only reads. -/
theorem Records.asks_getPost (id : Int64) : (getPost id).run.Asks Effect.browses := by
  refine asks_bind (asks_query (s := .findPost id) trivial) fun found => ?_
  cases found with
  | none => exact asks_throw _
  | some post => exact asks_pure post

/-- So does finding many posts. -/
theorem Records.asks_findPosts (ids : List Int64) : (findPosts ids).run.Asks Effect.browses := by
  rw [findPosts]
  split
  · exact asks_pure []
  · exact asks_bind (asks_query (s := .findPosts ids) trivial) fun rows => asks_pure _

/-- Showing a post only reads. -/
theorem Posts.asks_get (id : Int64) : (get rules id).run.Asks Effect.browses :=
  asks_bind (Records.asks_getPost id) fun _ =>
    asks_bind (asks_scoreOrZero rules id) fun _ => asks_pure _

/-- So does showing the posts of a page. -/
theorem Posts.asks_hydrate (ids : List Int64) : (hydrate rules ids).run.Asks Effect.browses :=
  asks_bind (Records.asks_findPosts ids) fun posts =>
    asks_mapM (fun post => asks_bind (asks_scoreOrZero rules post.id) fun _ => asks_pure _) posts

/-- Showing a vote only reads. -/
theorem Voting.asks_voteOf (post user : Int64) : (voteOf rules post user).run.Asks Effect.browses :=
  Ranking.asks_call rules (c := .voteOf post user) trivial

/-- A page of posts only has to be read. -/
theorem Listing.asks_list (request : Page.Request) :
    (list rules request).run.Asks Effect.browses := by
  have htotal : ∀ order, (total rules order).run.Asks Effect.browses := fun order => by
    cases order with
    | hot => exact Ranking.asks_call rules (c := .cardinality) trivial
    | newest => exact Records.asks_query (s := .countPosts) trivial
  have hwindow : ∀ bounds, (window rules bounds).run.Asks Effect.browses := fun bounds => by
    rw [window]
    split
    · exact Ranking.asks_call rules trivial
    · exact asks_bind (Records.asks_query trivial) fun rows => asks_pure _
  rw [list]
  refine asks_bind (htotal _) fun total => ?_
  split
  · exact asks_pure _
  · exact asks_bind (hwindow _) fun ids => asks_pure _

end Forum
