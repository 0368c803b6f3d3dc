import Mathlib
import Forum.Workflow

/-!
# Workflows

How workflows run, what they ask, and what it takes for two runs to end alike.
-/

/-! ## Services as trees

The tree of a service, step by step: a question is its root and what follows goes on with the
answer, a refusal from a decision ends it, and so does a fault. With these equations the programs
of the services are unfolded once and read as trees from then on. -/

namespace Forum

/-- A run begins with the answer to the question at the root. -/
theorem Workflow.run_ask {α σ : Type} (answer : (e : Effect) → σ → Except Fault e.Reply × σ)
    (e : Effect) (next : Except Fault e.Reply → Workflow α) (s : σ) :
    (Workflow.ask e next).run answer s =
      (next (answer e s).1).run answer (answer e s).2 := rfl

/-- A workflow that is done asks for nothing. -/
theorem Workflow.run_done {α σ : Type} (answer : (e : Effect) → σ → Except Fault e.Reply × σ)
    (a : α) (s : σ) : (Workflow.done a).run answer s = (a, s) := rfl

namespace Service

variable {α β : Type}

/-- A question is the root of the tree, and a fault ends it. -/
theorem run_ask_bind (e : Effect) (f : e.Reply → Service α) :
    (Service.ask e >>= f).run = .ask e fun
      | .ok reply => (f reply).run
      | .error fault => .done (.error fault) := by
  rw [ExceptT.run_bind, Service.ask]
  change Workflow.ask e _ = _
  congr 1
  funext reply
  cases reply <;> rfl

/-- What follows goes on from where the first part has ended. -/
theorem run_bind_of_ok {σ : Type} {answer : (e : Effect) → σ → Except Fault e.Reply × σ}
    {s s' : σ} {x : Service α} {a : α} (h : x.run.run answer s = (.ok a, s')) (f : α → Service β) :
    (x >>= f).run.run answer s = (f a).run.run answer s' := by
  rw [ExceptT.run_bind, Workflow.bind_eq_andThen, Workflow.run_andThen, h]

/-- The same for each element of a list, when none of it changes the surroundings. -/
theorem run_mapM {σ : Type} {answer : (e : Effect) → σ → Except Fault e.Reply × σ} {s : σ}
    {f : α → Service β} {g : α → β} {xs : List α}
    (h : ∀ x ∈ xs, (f x).run.run answer s = (.ok (g x), s)) :
    (xs.mapM f).run.run answer s = (.ok (xs.map g), s) := by
  induction xs with
  | nil => rfl
  | cons x xs ih =>
    have hrest := ih fun y hy => h y (List.mem_cons_of_mem x hy)
    rw [List.mapM_cons, run_bind_of_ok (h x List.mem_cons_self), run_bind_of_ok hrest,
      List.map_cons]
    rfl

/-- A decision that is taken needs no question. -/
theorem run_ok_bind (a : α) (f : α → Service β) :
    ((liftM (Except.ok a : Except Fault α) : Service α) >>= f).run = (f a).run := rfl

/-- A refusal ends a service. -/
theorem run_error_bind (fault : Fault) (f : α → Service β) :
    ((liftM (Except.error fault : Except Fault α) : Service α) >>= f).run =
      .done (.error fault) := rfl

end Service

end Forum

/-! ## What workflows ask

Some workflows ask only certain questions, whatever they are answered. This is read off the way in
which a workflow is put together, without its tree: a sequence asks what its parts ask. When each of
the questions leaves the surroundings as they are, so does a run. -/

namespace Forum

namespace Workflow

variable {α β σ ε : Type} {P Q : Effect → Prop}

/-- Whether all questions of a workflow have a property, whatever the answers. -/
def Asks (P : Effect → Prop) : Workflow α → Prop
  | done _ => True
  | ask effect next => P effect ∧ ∀ reply, (next reply).Asks P

/-- One workflow after another. -/
theorem Asks.andThen {w : Workflow α} {f : α → Workflow β} (hw : w.Asks P)
    (hf : ∀ a, (f a).Asks P) : (w.andThen f).Asks P := by
  induction w with
  | done a => exact hf a
  | ask effect next ih => exact ⟨hw.1, fun reply => ih reply (hw.2 reply)⟩

/-- A weaker property. -/
theorem Asks.mono {w : Workflow α} (hw : w.Asks P) (weaker : ∀ e, P e → Q e) : w.Asks Q := by
  induction w with
  | done a => trivial
  | ask effect next ih => exact ⟨weaker effect hw.1, fun reply => ih reply (hw.2 reply)⟩

/-- Questions that keep what is seen of the surroundings. -/
theorem Asks.run_view {τ : Type} {answer : (e : Effect) → σ → Except Fault e.Reply × σ}
    (view : σ → τ) {w : Workflow α} (hw : w.Asks P)
    (kept : ∀ e s, P e → view (answer e s).2 = view s) (s : σ) :
    view (w.run answer s).2 = view s := by
  induction w generalizing s with
  | done a => rfl
  | ask effect next ih =>
    rw [run_ask, ih _ (hw.2 _), kept effect s hw.1]

/-- Questions that leave the surroundings as they are. -/
theorem Asks.run_snd {answer : (e : Effect) → σ → Except Fault e.Reply × σ} {w : Workflow α}
    (hw : w.Asks P) (kept : ∀ e s, P e → (answer e s).2 = s) (s : σ) :
    (w.run answer s).2 = s :=
  hw.run_view id kept s

/-- Questions that leave the surroundings in a state, where they are in it. -/
theorem Asks.run_snd_of_kept {answer : (e : Effect) → σ → Except Fault e.Reply × σ} {s : σ}
    {w : Workflow α} (hw : w.Asks fun e => (answer e s).2 = s) : (w.run answer s).2 = s := by
  induction w with
  | done a => rfl
  | ask effect next ih =>
    obtain ⟨hkept, hnext⟩ := hw
    rw [run_ask, hkept]
    exact ih _ (hnext _)

/-- What holds of all questions holds of those that are asked. -/
theorem Asks.of_forall (h : ∀ e, P e) (w : Workflow α) : w.Asks P := by
  induction w with
  | done a => trivial
  | ask effect next ih => exact ⟨h effect, ih⟩

/-! ## Workflows that can break off -/

/-- A value is reached without a question. -/
theorem asks_pure (a : α) : (pure a : ExceptT ε Workflow α).run.Asks P := trivial

/-- So is the end. -/
theorem asks_throw (e : ε) : (throw e : ExceptT ε Workflow α).run.Asks P := trivial

/-- A sequence that may break off after its first part. -/
theorem asks_bind {x : ExceptT ε Workflow α} {f : α → ExceptT ε Workflow β}
    (hx : x.run.Asks P) (hf : ∀ a, (f a).run.Asks P) : (x >>= f).run.Asks P := by
  rw [ExceptT.run_bind]
  refine Asks.andThen hx fun result => ?_
  cases result with
  | ok a => exact hf a
  | error e => trivial

/-- A service whose fault is caught. -/
theorem asks_outcome {s : Service α} (hs : s.run.Asks P) : s.outcome.run.Asks P :=
  Asks.andThen hs fun _ => trivial

/-- The same for each element of a list. -/
theorem asks_mapM {f : α → ExceptT ε Workflow β} (hf : ∀ a, (f a).run.Asks P) (xs : List α) :
    (xs.mapM f).run.Asks P := by
  induction xs with
  | nil => exact asks_pure []
  | cons x xs ih =>
    rw [List.mapM_cons]
    exact asks_bind (hf x) fun y => asks_bind ih fun ys => asks_pure (y :: ys)

end Workflow

end Forum

/-! ## Two surroundings that answer alike

One workflow run against two surroundings. If the states are linked and linked states give equal
answers and become linked states, for every question that the run really asks, both runs end in the
same value and in linked states. -/

namespace Forum.Workflow

variable {α σ τ : Type}

/-- What holds of each question of a run and of the state that it finds. -/
def Along (answer : (e : Effect) → σ → Except Fault e.Reply × σ) (holds : σ → Effect → Prop) :
    Workflow α → σ → Prop
  | done _, _ => True
  | ask effect next, s =>
    holds s effect ∧ (next (answer effect s).1).Along answer holds (answer effect s).2

/-- What holds of all questions of a workflow holds along every run. -/
theorem Asks.along {P : Effect → Prop} {w : Workflow α} (hw : w.Asks P)
    (answer : (e : Effect) → σ → Except Fault e.Reply × σ) (s : σ) :
    w.Along answer (fun _ e => P e) s := by
  induction w generalizing s with
  | done a => trivial
  | ask effect next ih => exact ⟨hw.1, ih _ (hw.2 _) _⟩

/-- A run against linked surroundings. -/
theorem run_eq_of_along {answer : (e : Effect) → σ → Except Fault e.Reply × σ}
    {answer' : (e : Effect) → τ → Except Fault e.Reply × τ} {holds : σ → Effect → Prop}
    {linked : σ → τ → Prop}
    (hstep : ∀ effect s s', linked s s' → holds s effect →
      (answer' effect s').1 = (answer effect s).1 ∧
        linked (answer effect s).2 (answer' effect s').2)
    (w : Workflow α) {s : σ} {s' : τ} (hs : linked s s') (ha : w.Along answer holds s) :
    (w.run answer' s').1 = (w.run answer s).1 ∧ linked (w.run answer s).2 (w.run answer' s').2 := by
  induction w generalizing s s' with
  | done a => exact ⟨rfl, hs⟩
  | ask effect next ih =>
    obtain ⟨hholds, hrest⟩ := ha
    obtain ⟨hreply, hnext⟩ := hstep effect s s' hs hholds
    simp only [run, hreply]
    exact ih _ hnext hrest

end Forum.Workflow

/-! ## Transcripts

What a run of a workflow asks and what it is answered, from the first question to the last. The
surroundings answer as they like: they may remember all that was asked, so every sequence of answers
is the one that some surroundings give. -/

namespace Forum.Workflow

variable {α σ : Type}

/-- A question with its answer. -/
abbrev Exchange := (e : Effect) × Except Fault e.Reply

/-- The exchanges of a run, in order. -/
def transcript (answer : (e : Effect) → σ → Except Fault e.Reply × σ) :
    Workflow α → σ → List Exchange
  | done _, _ => []
  | ask effect next, s =>
    ⟨effect, (answer effect s).1⟩ ::
      (next (answer effect s).1).transcript answer (answer effect s).2

variable (answer : (e : Effect) → σ → Except Fault e.Reply × σ)

/-- A question and its answer come before all that follows from the answer. -/
theorem transcript_ask (e : Effect) (next : Except Fault e.Reply → Workflow α) (s : σ) :
    (ask e next).transcript answer s = ⟨e, (answer e s).1⟩ ::
      (next (answer e s).1).transcript answer (answer e s).2 := rfl

end Forum.Workflow

/-! ## Interleaved workflows

Several workflows run against the same surroundings. A schedule says whose turn it is: at a turn
one workflow has its question answered, in one atomic step, and all others wait. Every schedule is
allowed, so the states after all schedules are the states that can be reached. The turns are
written down, each with the surroundings right after it. -/

namespace Forum

/-- A question that was answered. -/
structure Turn (σ : Type) where
  /-- The place of the workflow that asked. -/
  place : Nat
  /-- What it asked for. -/
  effect : Effect
  /-- The answer. -/
  reply : Except Fault effect.Reply
  /-- The surroundings right after the answer. -/
  after : σ

/-- Workflows that take turns. -/
structure Interleaving (σ α : Type) where
  /-- The surroundings. -/
  state : σ
  /-- What is left of each workflow. -/
  tasks : List (Workflow α)
  /-- The turns so far, in order. -/
  turns : List (Turn σ)

namespace Interleaving

variable {σ α : Type} (answer : (e : Effect) → σ → Except Fault e.Reply × σ)

/-- Answers the question of the workflow at a place. Nothing happens if that workflow is done, or
if there is none. -/
def advance (r : Interleaving σ α) (place : Nat) : Interleaving σ α :=
  match r.tasks[place]? with
  | some (.ask effect next) =>
    let (reply, state) := answer effect r.state
    ⟨state, r.tasks.set place (next reply), r.turns ++ [⟨place, effect, reply, state⟩]⟩
  | _ => r

/-- Runs workflows from the given surroundings, with one turn for each place in the schedule. -/
def run (state : σ) (tasks : List (Workflow α)) (schedule : List Nat) : Interleaving σ α :=
  schedule.foldl (advance answer) ⟨state, tasks, []⟩

/-- Whether all workflows are done. -/
def Finished (r : Interleaving σ α) : Prop :=
  ∀ task ∈ r.tasks, ∃ a, task = .done a

/-- A turn of a workflow that asks for something. -/
theorem advance_of_ask {r : Interleaving σ α} {place : Nat} {effect : Effect}
    {next : Except Fault effect.Reply → Workflow α}
    (h : r.tasks[place]? = some (.ask effect next)) :
    r.advance answer place = ⟨(answer effect r.state).2,
      r.tasks.set place (next (answer effect r.state).1),
      r.turns ++ [⟨place, effect, (answer effect r.state).1, (answer effect r.state).2⟩]⟩ := by
  rw [advance, h]

/-- The turn in which the workflow at a place has a question answered. -/
def turn (r : Interleaving σ α) (place : Nat) (effect : Effect) : Turn σ :=
  ⟨place, effect, (answer effect r.state).1, (answer effect r.state).2⟩

/-- It is written down. -/
theorem turns_advance {r : Interleaving σ α} {place : Nat} {effect : Effect}
    {next : Except Fault effect.Reply → Workflow α}
    (h : r.tasks[place]? = some (.ask effect next)) :
    (r.advance answer place).turns = r.turns ++ [r.turn answer place effect] := by
  rw [advance_of_ask answer h, turn]

/-- It leaves the surroundings as the answer does. -/
theorem state_advance {r : Interleaving σ α} {place : Nat} {effect : Effect}
    {next : Except Fault effect.Reply → Workflow α}
    (h : r.tasks[place]? = some (.ask effect next)) :
    (r.advance answer place).state = (answer effect r.state).2 := by
  rw [advance_of_ask answer h]

/-- A turn changes what is left of one workflow. -/
theorem getElem?_tasks_advance {r : Interleaving σ α} {place : Nat} {effect : Effect}
    {next : Except Fault effect.Reply → Workflow α}
    (h : r.tasks[place]? = some (.ask effect next)) (other : Nat) :
    (r.advance answer place).tasks[other]? =
      if other = place then some (next (answer effect r.state).1) else r.tasks[other]? := by
  have hlt : place < r.tasks.length := (List.getElem?_eq_some_iff.1 h).1
  rw [advance_of_ask answer h]
  dsimp only
  split
  · next same => rw [same, List.getElem?_set_self hlt]
  · next different => rw [List.getElem?_set_ne (Ne.symm different)]

/-- A turn of a workflow that is done. -/
theorem advance_of_done {r : Interleaving σ α} {place : Nat} {a : α}
    (h : r.tasks[place]? = some (.done a)) : r.advance answer place = r := by
  rw [advance, h]

/-- A turn of nobody. -/
theorem advance_of_none {r : Interleaving σ α} {place : Nat} (h : r.tasks[place]? = none) :
    r.advance answer place = r := by
  rw [advance, h]

/-- What holds at first and is kept by every turn holds after every schedule. -/
theorem run_induction {P : Interleaving σ α → Prop} {state : σ} {tasks : List (Workflow α)}
    (start : P ⟨state, tasks, []⟩) (step : ∀ r place, P r → P (r.advance answer place))
    (schedule : List Nat) : P (run answer state tasks schedule) := by
  induction schedule using List.reverseRecOn with
  | nil => exact start
  | append_singleton schedule place ih =>
    rw [run, List.foldl_append]
    exact step _ place ih

end Interleaving

end Forum
