import Forum.Database.Tables
import Forum.Engagement.Tally
import Forum.Identifier.Generator
import Forum.Workflow

/-!
# The world of a single process

Everything the forum keeps when it runs in one process: the tables, the tally, the generator of
identifiers with its clock, the time that new rows get, and the source of tokens. `World.answer`
answers what workflows ask for.
-/

namespace Forum

/-- All that is kept. -/
structure World where
  /-- The rows. -/
  tables : Database.Tables
  /-- The votes and scores. -/
  tally : Engagement.Tally
  /-- The source of identifiers. -/
  generator : Identifier.Generator
  /-- Its clock. -/
  clock : Identifier.Clock
  /-- The time that new rows get. -/
  now : Timestamp
  /-- The source of tokens. -/
  [tokens : Database.Tokens]

namespace World

/-- Answers a call of the engagement store. -/
def answerCall (w : World) (c : Engagement.Call) : c.Reply × World :=
  let (reply, tally) := w.tally.answer c
  (reply, { w with tally := tally })

/-- Executes a statement. -/
def execute (w : World) (s : Database.Statement) : Except Fault s.Reply × World :=
  let (reply, tables) := w.tables.execute w.tokens w.now s
  (reply, { w with tables := tables })

/-- Issues an identifier. -/
def freshId (w : World) : Except Fault Int64 × World :=
  let (result, generator, clock) := w.generator.generate w.clock
  (result.mapError .identifier, { w with generator := generator, clock := clock })

/-- Answers what a workflow asks for. -/
def answer : (e : Effect) → World → Except Fault e.Reply × World
  | .engagement _ call, w =>
    let (reply, w) := w.answerCall call
    (.ok reply, w)
  | .rows statement, w => w.execute statement
  | .freshId, w => w.freshId

/-- Runs a workflow in the world. -/
def run {α : Type} (w : World) (program : Workflow α) : α × World :=
  program.run answer w

/-- Answers a request in the world. -/
def runService {α : Type} (w : World) (service : Service α) : Except Fault α × World :=
  w.run service.run

end World

end Forum
