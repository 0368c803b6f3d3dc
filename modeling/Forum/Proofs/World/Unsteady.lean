import Mathlib
import Forum.Proofs.Workflow
import Forum.Proofs.World.Reading
import Forum.Proofs.World.Services

/-!
# A database that fails at times

A world in which any statement may fail. A function says which statements do, counted from zero, and
with which fault; a statement that fails has no effect, and everything else is answered as in the
world. Where no statement is issued, or none fails, a workflow runs as it does in the world.
-/

namespace Forum

/-- Whether a question is a call of the engagement store. -/
def Effect.IsCall : Effect → Prop
  | .engagement .. => True
  | _ => False

/-- A world, and the number of statements that were issued in it. -/
structure Unsteady where
  /-- The world. -/
  world : World
  /-- How many statements were issued. -/
  issued : Nat

namespace Unsteady

variable (failing : Nat → Option Fault)

/-- Executes a statement, or lets it fail. -/
def execute (s : Database.Statement) (u : Unsteady) : Except Fault s.Reply × Unsteady :=
  match failing u.issued with
  | some fault => (.error fault, ⟨u.world, u.issued + 1⟩)
  | none =>
    let (reply, world) := u.world.execute s
    (reply, ⟨world, u.issued + 1⟩)

/-- Answers what a workflow asks for. -/
def answer : (e : Effect) → Unsteady → Except Fault e.Reply × Unsteady
  | .rows s, u => execute failing s u
  | .engagement deadline call, u =>
    let (reply, world) := World.answer (.engagement deadline call) u.world
    (reply, ⟨world, u.issued⟩)
  | .freshId, u =>
    let (reply, world) := World.answer .freshId u.world
    (reply, ⟨world, u.issued⟩)

variable (u : Unsteady)

/-- A statement fails without effect, or it is executed. -/
theorem answer_rows_cases (s : Database.Statement) :
    (∃ fault, answer failing (.rows s) u = (.error fault, ⟨u.world, u.issued + 1⟩)) ∨
      let executed := u.world.tables.execute u.world.tokens u.world.now s
      answer failing (.rows s) u =
        (executed.1, ⟨{ u.world with tables := executed.2 }, u.issued + 1⟩) := by
  rw [answer, execute]
  cases failing u.issued with
  | some fault => exact .inl ⟨fault, rfl⟩
  | none => exact .inr rfl

/-- An identifier is issued, or only the clock has moved. -/
theorem answer_freshId_cases :
    (∃ fault clock, answer failing .freshId u =
        (.error fault, ⟨{ u.world with clock := clock }, u.issued⟩)) ∨
      ∃ id g clock, u.world.generator.Outcome (.ok id) g ∧
        answer failing .freshId u =
          (.ok id, ⟨{ u.world with generator := g, clock := clock }, u.issued⟩) := by
  rw [answer]
  rcases u.world.answer_freshId_cases with
    ⟨problem, clock, hfailed⟩ | ⟨id, g, clock, drawn, hissued⟩
  · exact .inl ⟨.identifier problem, clock, by rw [hfailed]⟩
  · exact .inr ⟨id, g, clock, drawn, by rw [hissued]⟩

variable {failing}

/-- A workflow that only reads leaves the world as it is. -/
theorem run_of_reads {α : Type} {program : Workflow α} (h : program.Asks Effect.reads) :
    (program.run (answer failing) u).2.world = u.world := by
  refine h.run_view world (fun e u he => ?_) u
  cases e with
  | engagement deadline c => exact World.answer_of_reads u.world he
  | rows s =>
    rcases u.answer_rows_cases failing s with ⟨fault, hfailed⟩ | hexecuted
    · rw [hfailed]
    · rw [hexecuted, u.world.tables.execute_of_reads u.world.tokens u.world.now he]
  | freshId => exact he.elim

/-- A question is answered as in the world, unless it is a statement that fails. -/
theorem answer_eq (e : Effect) (w : World) (u : Unsteady) (same : u.world = w)
    (h : (∃ s, e = .rows s) → ∀ n, failing n = none) :
    (answer failing e u).1 = (World.answer e w).1 ∧
      (answer failing e u).2.world = (World.answer e w).2 := by
  subst same
  cases e with
  | engagement | freshId => exact ⟨rfl, rfl⟩
  | rows s =>
    rw [answer, execute, h ⟨s, rfl⟩]
    exact ⟨rfl, rfl⟩

/-- A workflow runs as it does in the world, if none of its statements fails. -/
theorem run_eq {α : Type} {program : Workflow α}
    (h : program.Asks fun e => (∃ s, e = .rows s) → ∀ n, failing n = none) :
    (program.run (answer failing) u).1 = (u.world.run program).1 ∧
      (program.run (answer failing) u).2.world = (u.world.run program).2 :=
  Workflow.run_eq_of_along answer_eq program rfl (h.along World.answer u.world)

end Unsteady

/-- A world whose database never fails. -/
theorem World.run_eq_unsteady {α : Type} (w : World) (program : Workflow α) :
    (program.run (Unsteady.answer fun _ => none) ⟨w, 0⟩).1 = (w.run program).1 ∧
      (program.run (Unsteady.answer fun _ => none) ⟨w, 0⟩).2.world = (w.run program).2 :=
  Unsteady.run_eq ⟨w, 0⟩ (Workflow.Asks.of_forall (fun _ _ _ => rfl) program)

end Forum
