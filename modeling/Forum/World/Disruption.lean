import Forum.World.State

/-!
# Disruptions

What may go wrong around a workflow, and how the surroundings then answer: statements that fail,
calls of the engagement store that are never answered or fail, commits that report a conflict
without writing, and rivals who change the same vote, or remove the post, just before a commit.
While a workflow runs, the statements it issues are written down.
-/

namespace Forum

/-- Who comes in between before a commit. -/
inductive Rival where
  /-- Someone records a vote for the same user and post, whatever is recorded. -/
  | vote (direction : Direction)
  /-- Someone removes the post. -/
  | remove
  deriving DecidableEq, Repr

/-- What is going to go wrong. -/
structure Disruption where
  /-- The places of the statements that fail, counted from zero. -/
  failingStatements : List Nat
  /-- The calls that are never answered. -/
  silent : List Engagement.Method
  /-- The calls that fail. -/
  failing : List Engagement.Method
  /-- How many commits report a conflict. -/
  conflicts : Nat
  /-- Who comes in between, one before each commit. -/
  rivals : List Rival
  deriving DecidableEq, Repr

/-- A world in which things go wrong, and the statements issued so far, last one first. -/
structure Trial where
  /-- The world. -/
  world : World
  /-- What is still going to go wrong. -/
  disruption : Disruption
  /-- The statements issued. -/
  issued : List Database.Statement

namespace Trial

/-- The fault of a call that was not answered in time. -/
def deadlineExceeded (deadline : Nat) : Fault :=
  .storeUnavailable s!"deadline of {deadline}ms exceeded"

/-- Lets the next rival act before a change of the vote is committed. -/
def actRival (t : Trial) (change : Vote.Change) : Trial :=
  match t.disruption.rivals with
  | [] => t
  | rival :: rest =>
    let tally := t.world.tally
    let tally := match rival with
      | .remove => tally.remove change.post
      | .vote direction =>
        (tally.commitVote
          ⟨change.post, change.user, tally.voteOf change.post change.user, direction⟩).2
    { t with
      world := { t.world with tally := tally }
      disruption := { t.disruption with rivals := rest } }

/-- Commits a change, unless a conflict is to be reported. -/
def commit (t : Trial) (change : Vote.Change) : Engagement.Outcome × Trial :=
  match t.disruption.conflicts with
  | n + 1 => (.conflict, { t with disruption := { t.disruption with conflicts := n } })
  | 0 =>
    let (outcome, tally) := t.world.tally.commitVote change
    (outcome, { t with world := { t.world with tally := tally } })

/-- Answers a call that is neither unanswered nor failing. -/
def answerCall (t : Trial) : (c : Engagement.Call) → c.Reply × Trial
  | .commitVote change => (t.actRival change).commit change
  | call =>
    let (reply, world) := t.world.answerCall call
    (reply, { t with world := world })

/-- Executes a statement, or lets it fail. -/
def execute (t : Trial) (s : Database.Statement) : Except Fault s.Reply × Trial :=
  let place := t.issued.length
  let t := { t with issued := s :: t.issued }
  if place ∈ t.disruption.failingStatements then (.error Database.Failure.injected.fault, t)
  else
    let (reply, world) := t.world.execute s
    (reply, { t with world := world })

/-- Answers what a workflow asks for. -/
def answer : (e : Effect) → Trial → Except Fault e.Reply × Trial
  | .engagement deadline call, t =>
    if call.method ∈ t.disruption.silent then (.error (deadlineExceeded deadline), t)
    else if call.method ∈ t.disruption.failing then
      (.error (.storeUnavailable "store down"), t)
    else
      let (reply, t) := t.answerCall call
      (.ok reply, t)
  | .rows statement, t => t.execute statement
  | .freshId, t =>
    let (id, world) := t.world.freshId
    (id, { t with world := world })

end Trial

/-- Runs a workflow while things go wrong. The answer is its value, the statements it issued, in
order, and the world afterwards. -/
def World.runDisrupted {α : Type} (w : World) (d : Disruption) (program : Workflow α) :
    α × List Database.Statement × World :=
  let (a, t) := program.run Trial.answer ⟨w, d, []⟩
  (a, t.issued.reverse, t.world)

end Forum
