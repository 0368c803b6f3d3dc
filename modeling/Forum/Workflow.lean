import Forum.Database.Tables
import Forum.Engagement.Tally
import Forum.Fault

/-!
# Workflows

What the forum does for a caller, as a tree: either it is done, or it asks its surroundings for
one thing and goes on with the answer. The surroundings are the engagement store, the database
and the source of identifiers; each answers in one atomic step, or with a fault. `Workflow.run`
runs a tree against surroundings with a state. Two workflows interleave at their questions and
nowhere else.
-/

namespace Forum

/-- What a workflow can ask for. -/
inductive Effect where
  /-- An answer of the engagement store within so many milliseconds. -/
  | engagement (deadline : Nat) (call : Engagement.Call)
  /-- An answer of the database. -/
  | rows (statement : Database.Statement)
  /-- A fresh identifier. -/
  | freshId
  deriving DecidableEq, Repr

/-- The type of the answer. -/
abbrev Effect.Reply : Effect → Type
  | .engagement _ call => call.Reply
  | .rows statement => statement.Reply
  | .freshId => Int64

/-- A tree of questions that ends in a value. -/
inductive Workflow (α : Type) where
  /-- The end. -/
  | done (a : α)
  /-- A question, and how to go on with each answer. -/
  | ask (effect : Effect) (next : Except Fault effect.Reply → Workflow α)

namespace Workflow

/-- Goes on with the value at the end. -/
def andThen {α β : Type} : Workflow α → (α → Workflow β) → Workflow β
  | done a, f => f a
  | ask effect next, f => ask effect fun reply => (next reply).andThen f

instance : Monad Workflow where
  pure := done
  bind := andThen

/-- Runs a workflow against surroundings that answer from a state. -/
def run {α σ : Type} (answer : (e : Effect) → σ → Except Fault e.Reply × σ) :
    Workflow α → σ → α × σ
  | done a, s => (a, s)
  | ask effect next, s =>
    let (reply, s) := answer effect s
    (next reply).run answer s

@[simp] theorem pure_eq_done {α : Type} (a : α) : (pure a : Workflow α) = done a := rfl

@[simp] theorem bind_eq_andThen {α β : Type} (w : Workflow α) (f : α → Workflow β) :
    w >>= f = w.andThen f := rfl

theorem andThen_done {α : Type} (w : Workflow α) : w.andThen done = w := by
  induction w with
  | done a => rfl
  | ask effect next ih => simp [andThen, ih]

theorem andThen_assoc {α β γ : Type} (w : Workflow α) (f : α → Workflow β)
    (g : β → Workflow γ) : (w.andThen f).andThen g = w.andThen fun a => (f a).andThen g := by
  induction w with
  | done a => rfl
  | ask effect next ih => simp [andThen, ih]

instance : LawfulMonad Workflow :=
  LawfulMonad.mk' Workflow (fun w => andThen_done w) (fun _ _ => rfl) andThen_assoc

/-- Running one workflow after another is running their composition. -/
theorem run_andThen {α β σ : Type} (answer : (e : Effect) → σ → Except Fault e.Reply × σ)
    (w : Workflow α) (f : α → Workflow β) (s : σ) :
    (w.andThen f).run answer s = (f (w.run answer s).1).run answer (w.run answer s).2 := by
  induction w generalizing s with
  | done a => rfl
  | ask effect next ih => simp [andThen, run, ih]

end Workflow

/-- A workflow that may end in a fault. -/
abbrev Service := ExceptT Fault Workflow

/-- Asks for one thing and passes on a fault. -/
def Service.ask (effect : Effect) : Service effect.Reply :=
  ExceptT.mk (.ask effect .done)

/-- What a service ends in: its value, or the fault. -/
def Service.outcome {α : Type} (s : Service α) : Service (Except Fault α) :=
  ExceptT.mk (s.run.andThen fun result => .done (.ok result))

end Forum
