import Mathlib
import Forum.Proofs.Identifier.Increasing

/-!
# Generators side by side

Any number of generators of one layout, each on a clock of its own, called in any order and as
often as one likes. A call writes the number of its worker into the identifier, and no field spills
into another, so an identifier tells which worker issued it, at which time and as which of the
millisecond. Two workers with different numbers therefore never issue the same identifier, whatever
their clocks show and whichever calls fail.
-/

namespace Forum.Identifier

namespace Generator

variable {g g' : Generator} {clock : Clock}

/-- A call keeps the layout. -/
theorem layout_of_outcome {answer : Except Error Int64} (ho : Outcome g answer g') :
    g'.layout = g.layout := by
  cases ho <;> rfl

/-- A call keeps the number of the worker. -/
theorem worker_of_outcome {answer : Except Error Int64} (ho : Outcome g answer g') :
    g'.worker = g.worker := by
  cases ho <;> rfl

/-- An identifier is made of the time and the sequence number that came next, and of the worker. -/
theorem compose_of_generate {id : Int64} (hi : (g.generate clock).1 = .ok id) :
    ∃ timestamp sequence : Nat, (g.next clock).1 = .ok ((timestamp : Int), sequence) ∧
      timestamp ≤ g.layout.maxTimestamp ∧ g.Follows timestamp sequence ∧
      id = g.layout.compose ⟨timestamp, g.worker, sequence⟩ := by
  unfold generate at hi
  split at hi
  case h_1 => cases hi
  case h_2 time sequence after hn =>
    obtain ⟨ht, hf⟩ := follows_of_next hn
    split at hi
    case isTrue => cases hi
    case isFalse hm =>
      have hcast : ((time.toNat : Nat) : Int) = time := Int.toNat_of_nonneg ht
      refine ⟨time.toNat, sequence, ?_, by omega, ?_, (Except.ok.inj hi).symm⟩
      · rw [hn, hcast]
      · rwa [hcast]

/-- Taking an identifier apart gives what it was issued with. -/
theorem decompose_of_generate {id : Int64} (hi : (g.generate clock).1 = .ok id) :
    ∃ timestamp sequence : Nat, (g.next clock).1 = .ok ((timestamp : Int), sequence) ∧
      g.layout.decompose id = ⟨timestamp, g.worker, sequence⟩ := by
  obtain ⟨timestamp, sequence, hn, hm, hf, rfl⟩ := compose_of_generate hi
  have hs : sequence ≤ g.layout.maxSequence := by
    rcases hf with ⟨_, rfl⟩ | ⟨_, hroom, rfl⟩
    · exact Nat.zero_le _
    · exact hroom
  have hp : g.layout.Fits ⟨timestamp, g.worker, sequence⟩ := ⟨hm, g.worker_le, hs⟩
  exact ⟨timestamp, sequence, hn, hp.decompose_compose⟩

/-- A generator that has been set up has the layout that was asked for. -/
theorem layout_of_start {layout : Layout} {worker : Nat} {epoch : String} {clock rest : Clock}
    (hs : start layout worker epoch clock = .ok (g, rest)) : g.layout = layout := by
  obtain ⟨time, fits, -, rfl⟩ := eq_of_start hs
  rfl

end Generator

/-- A generator and the clock that it reads. -/
structure Station where
  /-- The generator. -/
  generator : Generator
  /-- Its clock. -/
  clock : Clock

/-- A call of one of several generators. -/
structure Visit where
  /-- Which of them was called. -/
  place : Nat
  /-- The generator and its clock as the call found them. -/
  station : Station

/-- What a call leaves. -/
def Station.called (s : Station) : Station :=
  ⟨(s.generator.generate s.clock).2.1, (s.generator.generate s.clock).2.2⟩

/-- What a call was answered with. -/
def Visit.answer (v : Visit) : Except Error Int64 :=
  (v.station.generator.generate v.station.clock).1

/-- The calls that a schedule makes, one for each place in it at which there is a generator. -/
def visits : List Station → List Nat → List Visit
  | _, [] => []
  | fleet, place :: rest =>
    match fleet[place]? with
    | some s => ⟨place, s⟩ :: visits (fleet.set place s.called) rest
    | none => visits fleet rest

/-- What one station is to another that it was before some calls. -/
structure Station.Continues (s first : Station) : Prop where
  /-- The layout is still the same. -/
  layout : s.generator.layout = first.generator.layout
  /-- So is the worker number. -/
  worker : s.generator.worker = first.generator.worker

/-- One more call. -/
theorem Station.Continues.called {s first : Station} (h : s.Continues first) :
    s.called.Continues first := by
  have ho := Generator.outcome_generate s.generator s.clock
  exact ⟨(Generator.layout_of_outcome ho).trans h.layout,
    (Generator.worker_of_outcome ho).trans h.worker⟩

/-- Every call of a schedule finds the station that was at its place at first, some calls later. -/
theorem visits_continue (first : List Station) {fleet : List Station}
    (h : ∀ (place : Nat) (s : Station), fleet[place]? = some s →
      ∃ f, first[place]? = some f ∧ s.Continues f) (schedule : List Nat) :
    ∀ v ∈ visits fleet schedule, ∃ f, first[v.place]? = some f ∧ v.station.Continues f := by
  induction schedule generalizing fleet with
  | nil => exact fun v hv => absurd hv List.not_mem_nil
  | cons place rest ih =>
    rw [visits]
    cases hs : fleet[place]? with
    | none => exact ih h
    | some s =>
      obtain ⟨f, hf, hc⟩ := h place s hs
      have hlt : place < fleet.length := (List.getElem?_eq_some_iff.1 hs).1
      have hcalled : ∀ (other : Nat) (t : Station), (fleet.set place s.called)[other]? = some t →
          ∃ f, first[other]? = some f ∧ t.Continues f := by
        intro other t ht
        rw [List.getElem?_set] at ht
        split at ht
        case isTrue hsame =>
          subst hsame
          obtain rfl : s.called = t := by simpa only [hlt, if_true, Option.some_inj] using ht
          exact ⟨f, hf, hc.called⟩
        case isFalse => exact h other t ht
      intro v hv
      rcases List.mem_cons.1 hv with rfl | hlater
      · exact ⟨f, hf, hc⟩
      · exact ih hcalled v hlater

/-- Generators of one layout, called in any order, each from the moment it was set up. An identifier
shows the worker that issued it and the time and the sequence number it was issued with, and no
identifier is issued by two workers with different numbers. -/
theorem workers_never_collide {layout : Layout} {fleet : List Station}
    (hs : ∀ s ∈ fleet, ∃ worker epoch clock,
      Generator.start layout worker epoch clock = .ok (s.generator, s.clock))
    (schedule : List Nat) :
    (∀ v ∈ visits fleet schedule, ∀ id, v.answer = .ok id →
      ∃ s, fleet[v.place]? = some s ∧ ∃ timestamp sequence : Nat,
        (v.station.generator.next v.station.clock).1 = .ok ((timestamp : Int), sequence) ∧
          layout.decompose id = ⟨timestamp, s.generator.worker, sequence⟩) ∧
    (∀ v ∈ visits fleet schedule, ∀ v' ∈ visits fleet schedule, ∀ s s',
      fleet[v.place]? = some s → fleet[v'.place]? = some s' →
        s.generator.worker ≠ s'.generator.worker →
          ∀ id, v.answer = .ok id → v'.answer ≠ .ok id) := by
  have hvisits := visits_continue fleet (fun _ s h => ⟨s, h, rfl, rfl⟩) schedule
  have hshown : ∀ v ∈ visits fleet schedule, ∀ id, v.answer = .ok id →
      ∃ s, fleet[v.place]? = some s ∧ ∃ timestamp sequence : Nat,
        (v.station.generator.next v.station.clock).1 = .ok ((timestamp : Int), sequence) ∧
          layout.decompose id = ⟨timestamp, s.generator.worker, sequence⟩ := by
    intro v hv id hi
    obtain ⟨s, hplace, hc⟩ := hvisits v hv
    obtain ⟨worker, epoch, clock, hstart⟩ := hs s (List.mem_of_getElem? hplace)
    have hlayout : v.station.generator.layout = layout :=
      hc.layout.trans (Generator.layout_of_start hstart)
    obtain ⟨timestamp, sequence, hn, hd⟩ := Generator.decompose_of_generate hi
    rw [hlayout, hc.worker] at hd
    exact ⟨s, hplace, timestamp, sequence, hn, hd⟩
  refine ⟨hshown, fun v hv v' hv' s s' hp hp' hne id hi hi' => hne ?_⟩
  -- Both calls show in the one identifier, which has one field for the worker.
  obtain ⟨t, ht, timestamp, sequence, -, hd⟩ := hshown v hv id hi
  obtain ⟨t', ht', timestamp', sequence', -, hd'⟩ := hshown v' hv' id hi'
  obtain rfl : t = s := Option.some_inj.1 (ht.symm.trans hp)
  obtain rfl : t' = s' := Option.some_inj.1 (ht'.symm.trans hp')
  exact congrArg Parts.worker (hd.symm.trans hd')

/-- The two workers that the narrow layout has room for, with epochs five milliseconds apart. -/
def pair : List Station :=
  [⟨⟨Generator.narrow, 0, 0, by decide, -1, 0⟩, ⟨[7, 7, 7, 7], 0⟩⟩,
    ⟨⟨Generator.narrow, 5, 1, Generator.one_le_maxWorker_narrow, -1, 0⟩, ⟨[12, 3, 12, 12, 13], 6⟩⟩]

/-- Both issue at the time 7 of their epochs, and call by call the identifiers differ; one call is
refused by its clock, and one waits for the next millisecond. -/
theorem workers_never_collide_of_pair :
    (∀ s ∈ pair, ∃ worker epoch clock,
      Generator.start Generator.narrow worker epoch clock = .ok (s.generator, s.clock)) ∧
    (visits pair [0, 1, 1, 0, 1, 1]).map Visit.answer =
      [.ok 28, .ok 30, .error (.clockSkew 7 (-2)), .ok 29, .ok 31, .ok 34] ∧
    (∀ v ∈ visits pair [0, 1, 1, 0, 1, 1], v.answer = .ok 34 →
      ∃ s, pair[v.place]? = some s ∧ ∃ timestamp sequence : Nat,
        Generator.narrow.decompose 34 = ⟨timestamp, s.generator.worker, sequence⟩) := by
  have hs : ∀ s ∈ pair, ∃ worker epoch clock,
      Generator.start Generator.narrow worker epoch clock = .ok (s.generator, s.clock) := by
    intro s hm
    simp only [pair, List.mem_cons, List.not_mem_nil, or_false] at hm
    rcases hm with rfl | rfl
    · exact ⟨0, "1970-01-01T00:00:00Z", ⟨[0, 7, 7, 7, 7], 0⟩, rfl⟩
    · exact ⟨1, "1970-01-01T00:00:00.005Z", ⟨[6, 12, 3, 12, 12, 13], 0⟩, rfl⟩
  refine ⟨hs, by decide, fun v hv hi => ?_⟩
  obtain ⟨s, hp, timestamp, sequence, -, hd⟩ :=
    (workers_never_collide hs [0, 1, 1, 0, 1, 1]).1 v hv 34 hi
  exact ⟨s, hp, timestamp, sequence, hd⟩

end Forum.Identifier
