import Mathlib
import Forum.Proofs.Identifier.AnyClock

/-!
# Runs as logs of their calls

The calls of a generator on any clock, one after the other, each with the readings that it took.
What a call does follows from these readings alone, so a run is a chain of calls of which each is
settled by its own readings and finds what the one before it left: every run on a clock is such a
chain, and every such chain is the run on any clock that gives its readings.
-/

namespace Forum.Identifier

/-- A call as it went. -/
structure Call where
  /-- The generator that it found. -/
  found : Generator
  /-- The readings that it took, in their order. -/
  readings : List Int
  /-- What it was answered with. -/
  answer : Except Error Int64
  /-- The generator that it left. -/
  left : Generator

/-- A call that is settled by the last of its readings and passed over the others. -/
structure Call.SettledBy (c : Call) (passed : List Int) (reading : Int) : Prop where
  /-- These are its readings. -/
  readings_eq : c.readings = passed ++ [reading]
  /-- At those before the last no sequence number was left. -/
  passed_over : ∀ r ∈ passed, c.found.Exhausted r
  /-- At the last one the clock has moved, or some are left. -/
  settling : ¬ c.found.Exhausted reading
  /-- The last one decides the answer. -/
  answer_eq : c.answer = (c.found.settledAt (c.found.elapsed reading)).1
  /-- It decides also what is left. -/
  left_eq : c.left = (c.found.settledAt (c.found.elapsed reading)).2

/-- The reading that settles a call is one of those it took. -/
theorem Call.SettledBy.reading_mem {c : Call} {passed : List Int} {reading : Int}
    (hs : c.SettledBy passed reading) : reading ∈ c.readings := by
  rw [hs.readings_eq]
  exact List.mem_append_right _ (List.mem_singleton_self _)

/-- A call that goes as its readings say. -/
def Call.Settled (c : Call) : Prop :=
  ∃ passed reading, c.SettledBy passed reading

/-- All readings that some calls took, in their order. -/
def readingsOf (calls : List Call) : List Int :=
  calls.flatMap Call.readings

theorem readingsOf_cons (c : Call) (calls : List Call) :
    readingsOf (c :: calls) = c.readings ++ readingsOf calls :=
  List.flatMap_cons

/-- A chain of calls from a generator. -/
inductive Run : Generator → List Call → Prop
  /-- No call. -/
  | nil (g : Generator) : Run g []
  /-- A call, and then those that go on from what it leaves. -/
  | cons {c : Call} {calls : List Call} (hs : c.Settled) (hr : Run c.left calls) :
      Run c.found (c :: calls)

namespace Generator

variable {g : Generator} {readings : Stream' Int} {c : Call} {calls : Nat} {made : List Call}

/-- The call of a generator on any clock. -/
def callOn (g : Generator) (readings : Stream' Int) : Part Call := do
  let (answer, left, count) ← g.generateOn readings
  return ⟨g, readings.take count, answer, left⟩

/-- The calls of a run on any clock, if all of them end. -/
def log : Nat → Generator → Stream' Int → Part (List Call)
  | 0, _, _ => .some []
  | calls + 1, g, readings => do
    let c ← g.callOn readings
    let later ← log calls c.left (readings.drop c.readings.length)
    return c :: later

/-- A call goes as its readings say, and on any clock that gives these it goes the same. -/
theorem callOn_eq_some_iff : g.callOn readings = .some c ↔
    c.found = g ∧ c.Settled ∧ readings.take c.readings.length = c.readings := by
  constructor
  · intro hc
    have hc := Part.eq_some_iff.1 hc
    obtain ⟨⟨answer, left, count⟩, hg, hrest⟩ := Part.mem_bind_iff.1 hc
    obtain rfl : c = ⟨g, readings.take count, answer, left⟩ := Part.mem_some_iff.1 hrest
    have hs := exists_settling_of_generateOn hg
    have hpassed : ∀ i < Nat.find hs, g.Exhausted (readings.get i) :=
      fun i hi => not_not.1 (Nat.find_min hs hi)
    rw [generateOn_eq hpassed (Nat.find_spec hs)] at hg
    obtain ⟨rfl, rfl, rfl⟩ := by simpa only [Part.mem_some_iff, Prod.mk.injEq] using hg
    refine ⟨rfl, ⟨readings.take (Nat.find hs), readings.get (Nat.find hs), Stream'.take_succ' _,
      fun r hr => ?_, Nat.find_spec hs, rfl, rfl⟩, ?_⟩
    · obtain ⟨i, hi, rfl⟩ := List.mem_iff_getElem.1 hr
      rw [Stream'.take_get]
      exact hpassed i (by rwa [Stream'.length_take] at hi)
    · rw [Stream'.length_take]
  · rintro ⟨rfl, ⟨passed, reading, hs⟩, ht⟩
    have hlength : c.readings.length = passed.length + 1 := by
      rw [hs.readings_eq, List.length_append, List.length_singleton]
    have htaken : readings.take (passed.length + 1) = passed ++ [reading] := by
      rw [← hlength, ht, hs.readings_eq]
    obtain ⟨hmem, hlast⟩ := get_of_take htaken
    have hg : c.found.generateOn readings = _ :=
      generateOn_eq (fun i hi => hs.passed_over _ (hmem i hi)) (hlast.symm ▸ hs.settling)
    rw [callOn, hg, hlast, ← hs.answer_eq, ← hs.left_eq, ← hlength, Part.bind_eq_bind,
      Part.bind_some]
    exact congrArg Part.some (by rw [ht])

/-- The runs on a clock are the chains of calls of which it gives the readings. -/
theorem log_eq_some_iff : log calls g readings = .some made ↔
    Run g made ∧ made.length = calls ∧
      readings.take (readingsOf made).length = readingsOf made := by
  induction calls generalizing g readings made with
  | zero =>
    rw [log, Part.some_inj, List.length_eq_zero_iff]
    constructor
    · rintro rfl
      exact ⟨.nil g, rfl, rfl⟩
    · rintro ⟨-, rfl, -⟩
      rfl
  | succ calls ih =>
    constructor
    · intro hl
      have hl := Part.eq_some_iff.1 hl
      obtain ⟨c, hc, hl⟩ := Part.mem_bind_iff.1 hl
      obtain ⟨later, hlater, hl⟩ := Part.mem_bind_iff.1 hl
      obtain rfl : made = c :: later := Part.mem_some_iff.1 hl
      obtain ⟨rfl, hs, ht⟩ := callOn_eq_some_iff.1 (Part.eq_some_iff.2 hc)
      obtain ⟨hr, hlength, hrest⟩ := ih.1 (Part.eq_some_iff.2 hlater)
      refine ⟨.cons hs hr, congrArg (· + 1) hlength, ?_⟩
      rw [readingsOf_cons, List.length_append, Stream'.take_add, ht, hrest]
    · rintro ⟨hr, hlength, ht⟩
      cases hr with
      | nil => cases hlength
      | @cons c later hs hr =>
        rw [readingsOf_cons, List.length_append, Stream'.take_add] at ht
        obtain ⟨hfirst, hrest⟩ := List.append_inj ht (Stream'.length_take _ _)
        have hc := callOn_eq_some_iff.2 ⟨rfl, hs, hfirst⟩
        have hlater := ih.2 ⟨hr, Nat.succ.inj hlength, hrest⟩
        rw [log, hc, Part.bind_eq_bind, Part.bind_some, hlater, Part.bind_eq_bind, Part.bind_some,
          Part.pure_eq_some]

/-- On a clock that steps every run ends, and its log holds the answers. -/
theorem log_stream (calls : Nat) (g : Generator) (clock : Clock) :
    ∃ made, log calls g clock.stream = .some made ∧
      made.map Call.answer = answers calls g clock := by
  induction calls generalizing g clock with
  | zero => exact ⟨[], rfl, rfl⟩
  | succ calls ih =>
    obtain ⟨count, hafter, hg⟩ := g.generateOn_stream clock
    obtain ⟨later, hl, hanswers⟩ := ih (g.generate clock).2.1 (g.generate clock).2.2
    have hc : g.callOn clock.stream = .some ⟨g, clock.stream.take count, (g.generate clock).1,
        (g.generate clock).2.1⟩ := by
      rw [callOn, hg, Part.bind_eq_bind, Part.bind_some]
      rfl
    rw [hafter, ← Clock.drop_stream] at hl
    refine ⟨⟨g, clock.stream.take count, (g.generate clock).1, (g.generate clock).2.1⟩ :: later,
      ?_, ?_⟩
    · rw [log, hc, Part.bind_eq_bind, Part.bind_some, Stream'.length_take, hl, Part.bind_eq_bind,
        Part.bind_some]
      rfl
    · rw [List.map_cons, hanswers, answers]

end Generator

end Forum.Identifier

/-! ## Calls that fail

A call that fails leaves the generator as it found it. So without the calls that fail a run is still
a chain: on any clock that gives the readings of the others, one after the other, these find the
same generators, take the same readings, and are answered the same. -/

namespace Forum.Identifier

/-- The calls among these that were answered with an identifier. -/
def succeeded (calls : List Call) : List Call :=
  calls.filter (·.answer.isOk)

namespace Generator

variable {g : Generator} {made : List Call}

/-- A call that is settled with an error leaves the generator alone. -/
theorem settledAt_of_error {now : Int} {e : Error} (he : (g.settledAt now).1 = .error e) :
    (g.settledAt now).2 = g := by
  rw [settledAt] at he ⊢
  cases hn : g.nextAt now with
  | error e' => rfl
  | ok found =>
    obtain ⟨timestamp, sequence⟩ := found
    rw [hn, issue] at he
    rw [issue]
    split at he
    case isTrue hm => rw [if_pos hm]
    case isFalse => cases he

end Generator

/-- A call that fails leaves the generator that it found. -/
theorem Call.Settled.left_eq_found {c : Call} (hs : c.Settled) {e : Error}
    (he : c.answer = .error e) : c.left = c.found := by
  obtain ⟨passed, reading, hs⟩ := hs
  rw [hs.left_eq]
  exact Generator.settledAt_of_error (hs.answer_eq.symm.trans he)

/-- Every call of a chain goes as its readings say. -/
theorem Run.settled {g : Generator} {made : List Call} (hr : Run g made) :
    ∀ c ∈ made, c.Settled := by
  induction hr with
  | nil => exact fun c hc => absurd hc List.not_mem_nil
  | cons hs _ ih => exact List.forall_mem_cons.2 ⟨hs, ih⟩

/-- Without the calls that fail a run is still a chain. -/
theorem Run.succeeded {g : Generator} {made : List Call} (hr : Run g made) :
    Run g (succeeded made) := by
  induction hr with
  | nil g => exact .nil g
  | @cons c calls hs _ ih =>
    cases ha : c.answer with
    | error e =>
      rw [hs.left_eq_found ha] at ih
      rw [Identifier.succeeded, List.filter_cons_of_neg (by rw [ha]; exact Bool.false_ne_true)]
      exact ih
    | ok id =>
      rw [Identifier.succeeded, List.filter_cons_of_pos (by rw [ha]; rfl)]
      exact .cons hs ih

namespace Generator

variable {g : Generator} {made : List Call}

/-- The readings of the calls that succeed are enough for them. -/
theorem log_succeeded {calls : Nat} {readings others : Stream' Int}
    (hl : log calls g readings = .some made)
    (ho : others.take (readingsOf (succeeded made)).length = readingsOf (succeeded made)) :
    log (succeeded made).length g others = .some (succeeded made) := by
  obtain ⟨hr, -, -⟩ := log_eq_some_iff.1 hl
  exact log_eq_some_iff.2 ⟨hr.succeeded, rfl, ho⟩

theorem map_answer_succeeded (made : List Call) :
    (succeeded made).map Call.answer = (made.map Call.answer).filter (·.isOk) := by
  rw [List.filter_map]
  rfl

/-- On any clock, a call of a run that fails leaves the generator that it found, its sequence number
included; and on any clock that gives, in their order, only the readings of the calls that succeed,
these go as they did: each finds and leaves the same generator, takes the same readings and is
answered the same. So do the runs on clocks that step. -/
theorem failures_invisible (g : Generator) (calls : Nat) :
    (∀ readings made, log calls g readings = .some made →
      (∀ c ∈ made, ∀ e, c.answer = .error e → c.left = c.found) ∧
      ∀ others : Stream' Int,
        others.take (readingsOf (succeeded made)).length = readingsOf (succeeded made) →
          log (succeeded made).length g others = .some (succeeded made)) ∧
    ∀ clock : Clock, ∃ made, log calls g clock.stream = .some made ∧
      made.map Call.answer = answers calls g clock ∧
      ∀ other : Clock,
        other.readings (readingsOf (succeeded made)).length = readingsOf (succeeded made) →
          answers (succeeded made).length g other =
            (answers calls g clock).filter (·.isOk) := by
  refine ⟨fun readings made hl => ⟨fun c hc e he => ?_, fun others => log_succeeded hl⟩,
    fun clock => ?_⟩
  · exact ((log_eq_some_iff.1 hl).1.settled c hc).left_eq_found he
  · obtain ⟨made, hl, hanswers⟩ := log_stream calls g clock
    refine ⟨made, hl, hanswers, fun other ho => ?_⟩
    rw [← Clock.take_stream] at ho
    obtain ⟨again, hagain, hother⟩ := log_stream (succeeded made).length g other
    rw [log_succeeded hl ho] at hagain
    obtain rfl := Part.some_inj.1 hagain
    rw [← hother, map_answer_succeeded, hanswers]

/-- A clock that goes back from 5 to 4 and then stands still at 6. -/
def slipping : Stream' Int :=
  [5, 4] ++ₛ Stream'.const 6

/-- The two calls of a generator with no number left on that clock: the first fails while it waits,
and the second finds that the time has moved. -/
def recovery : List Call :=
  [⟨spent, [5, 4], .error (.clockSkew 5 4), spent⟩,
    ⟨spent, [6], .ok 26, ⟨narrow, 0, 1, one_le_maxWorker_narrow, 6, 0⟩⟩]

/-- The calls go as their readings say. -/
theorem run_recovery : Run spent recovery := by
  have hwaiting : Call.Settled ⟨spent, [5, 4], .error (.clockSkew 5 4), spent⟩ :=
    ⟨[5], 4, rfl, by decide, by decide, rfl, rfl⟩
  have hmoved : Call.Settled ⟨spent, [6], .ok 26, ⟨narrow, 0, 1, one_le_maxWorker_narrow, 6, 0⟩⟩ :=
    ⟨[], 6, rfl, by decide, by decide, rfl, rfl⟩
  exact .cons hwaiting (.cons hmoved (.nil _))

/-- The second call alone needs only the reading 6. -/
theorem failures_invisible_of_slipping :
    log 2 spent slipping = .some recovery ∧
    (∀ c ∈ recovery, ∀ e, c.answer = .error e → c.left = c.found) ∧
    (Stream'.const (6 : Int)).take (readingsOf (succeeded recovery)).length =
      readingsOf (succeeded recovery) ∧
    log 1 spent (Stream'.const 6) = .some (succeeded recovery) := by
  have hl : log 2 spent slipping = .some recovery := log_eq_some_iff.2 ⟨run_recovery, rfl, rfl⟩
  have ho : (Stream'.const (6 : Int)).take (readingsOf (succeeded recovery)).length =
      readingsOf (succeeded recovery) := rfl
  obtain ⟨hfailed, hothers⟩ := (failures_invisible spent 2).1 slipping recovery hl
  exact ⟨hl, hfailed, ho, hothers _ ho⟩

end Generator

end Forum.Identifier
