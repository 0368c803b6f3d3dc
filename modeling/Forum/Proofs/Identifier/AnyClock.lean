import Mathlib
import Forum.Proofs.Identifier.Readings

/-!
# Calls on any clock

A clock that need not move: it has readings without end, and they may be the same for ever. On such
a clock the wait is a loop that may have no end, and a call that waits may have no result. The wait
ends exactly if some reading shows another time than that of the last identifier, and the first such
reading decides it. A call takes the readings at which no sequence number is left, and is settled by
the first other one. On a clock that steps the loop always ends; it is the wait there, and the call
around it is the call.
-/

namespace Forum.Identifier

namespace Clock

/-- The readings of a clock, one after the other. -/
def stream (c : Clock) : Stream' Int :=
  fun count => (c.after count).tick.1

theorem after_add (first count : Nat) (c : Clock) :
    c.after (first + count) = (c.after first).after count := by
  induction first generalizing c with
  | zero => rw [Nat.zero_add, after]
  | succ first ih => rw [Nat.add_right_comm, after, ih, after]

theorem head_stream (c : Clock) : c.stream.head = c.tick.1 :=
  rfl

theorem drop_stream (count : Nat) (c : Clock) : c.stream.drop count = (c.after count).stream := by
  induction count generalizing c with
  | zero => rfl
  | succ count ih => exact ih c.tick.2

theorem take_stream (count : Nat) (c : Clock) : c.stream.take count = c.readings count := by
  induction count generalizing c with
  | zero => rfl
  | succ count ih => exact congrArg (c.tick.1 :: ·) (ih c.tick.2)

end Clock

/-- The readings before one of a clock, and that one. -/
theorem get_of_take {readings : Stream' Int} {passed : List Int} {reading : Int}
    (ht : readings.take (passed.length + 1) = passed ++ [reading]) :
    (∀ i < passed.length, readings.get i ∈ passed) ∧ readings.get passed.length = reading := by
  rw [Stream'.take_succ'] at ht
  obtain ⟨hp, hr⟩ := List.append_inj' ht rfl
  refine ⟨fun i hi => ?_, List.singleton_inj.1 hr⟩
  have hmem : readings.get i ∈ readings.take passed.length :=
    List.mem_of_getElem? (Stream'.getElem?_take hi)
  rwa [hp] at hmem

namespace Generator

variable {g : Generator} {readings : Stream' Int} {start count : Nat}

/-- One round of the wait, at the reading of this number: one that shows a later time than that of
the last identifier is the answer, one that shows an earlier time is an error, and after any other
the next round looks at the next one. With a result comes how many readings have been taken. -/
def round (g : Generator) (readings : Stream' Int) (i : Nat) : (Except Error Int × Nat) ⊕ Nat :=
  let now := g.elapsed (readings.get i)
  if g.last < now then .inl (.ok now, i + 1)
  else if now < g.last then .inl (.error (.clockSkew g.last now), i + 1)
  else .inr (i + 1)

/-- The wait on any clock from the reading of this number on: its rounds go on until one of them has
a result, and where none has it has no result either. -/
def waitOn (g : Generator) (readings : Stream' Int) (start : Nat) :
    Part (Except Error Int × Nat) :=
  PFun.fix (fun i => .some (g.round readings i)) start

/-- The search for the next timestamp and sequence number on any clock. -/
def nextOn (g : Generator) (readings : Stream' Int) : Part (Except Error (Int × Nat) × Nat) := do
  let now := g.elapsed readings.head
  if now < g.last ∨ now < 0 then return (.error (.clockSkew g.last now), 1)
  if now = g.last then
    if g.sequence < g.layout.maxSequence then return (.ok (now, g.sequence + 1), 1)
    let (later, count) ← g.waitOn readings 1
    return (later.map (·, 0), count)
  return (.ok (now, 0), 1)

/-- What a call answers and leaves when this comes next. -/
def issue (g : Generator) : Except Error (Int × Nat) → Except Error Int64 × Generator
  | .error e => (.error e, g)
  | .ok (timestamp, sequence) =>
    if g.layout.maxTimestamp < timestamp then (.error .timestampOverflow, g)
    else
      (.ok (g.layout.compose ⟨timestamp.toNat, g.worker, sequence⟩),
        { g with last := timestamp, sequence := sequence })

/-- A call on any clock. -/
def generateOn (g : Generator) (readings : Stream' Int) :
    Part (Except Error Int64 × Generator × Nat) := do
  let (found, count) ← g.nextOn readings
  return ((g.issue found).1, (g.issue found).2, count)

section Wait

/-- A round at a reading that shows another time has a result. -/
theorem round_of_other (ho : g.elapsed (readings.get start) ≠ g.last) :
    g.round readings start = .inl (if g.last < g.elapsed (readings.get start)
      then .ok (g.elapsed (readings.get start))
      else .error (.clockSkew g.last (g.elapsed (readings.get start))), start + 1) := by
  rw [round]
  by_cases hlater : g.last < g.elapsed (readings.get start)
  · rw [if_pos hlater, if_pos hlater]
  · have hearlier : g.elapsed (readings.get start) < g.last := by omega
    rw [if_neg hlater, if_pos hearlier, if_neg hlater]

/-- A round at a reading that shows the time of the last identifier has none. -/
theorem round_of_same (hs : g.elapsed (readings.get start) = g.last) :
    g.round readings start = .inr (start + 1) := by
  rw [round, if_neg (by omega), if_neg (by omega)]

/-- The first reading that shows another time decides the wait. -/
theorem waitOn_eq (hsame : ∀ i < count, g.elapsed (readings.get (start + i)) = g.last)
    (hother : g.elapsed (readings.get (start + count)) ≠ g.last) :
    g.waitOn readings start = .some (if g.last < g.elapsed (readings.get (start + count))
      then .ok (g.elapsed (readings.get (start + count)))
      else .error (.clockSkew g.last (g.elapsed (readings.get (start + count)))),
        start + count + 1) := by
  induction count generalizing start with
  | zero =>
    exact Part.eq_some_iff.2 (PFun.fix_stop (Part.mem_some_iff.2 (round_of_other hother).symm))
  | succ count ih =>
    have hpassed : g.round readings start = .inr (start + 1) :=
      round_of_same (hsame 0 (Nat.succ_pos count))
    have hwait : g.waitOn readings start = g.waitOn readings (start + 1) :=
      PFun.fix_fwd_eq (Part.mem_some_iff.2 hpassed.symm)
    rw [hwait]
    have hnext : ∀ i, start + (i + 1) = start + 1 + i := by omega
    rw [hnext count] at hother ⊢
    exact ih (fun i hi => hnext i ▸ hsame (i + 1) (Nat.succ_lt_succ hi)) hother

/-- A wait that ends has seen another time. -/
theorem exists_other_of_waitOn {result : Except Error Int × Nat}
    (hw : result ∈ g.waitOn readings start) : ∃ i, g.elapsed (readings.get i) ≠ g.last := by
  refine PFun.fixInduction hw fun i _ ih => ?_
  by_cases hs : g.elapsed (readings.get i) = g.last
  · exact ih (i + 1) (Part.mem_some_iff.2 (round_of_same hs).symm)
  · exact ⟨i, hs⟩

/-- Where the time stands still for ever, the wait has no end. -/
theorem waitOn_eq_none (hs : ∀ i, g.elapsed (readings.get i) = g.last) (start : Nat) :
    g.waitOn readings start = .none := by
  refine Part.eq_none_iff.2 fun result hw => ?_
  obtain ⟨i, hi⟩ := exists_other_of_waitOn hw
  exact hi (hs i)

end Wait

section Call

/-- The clock shows the time of the last identifier, and no sequence number of it is left. -/
def Exhausted (g : Generator) (reading : Int) : Prop :=
  g.elapsed reading = g.last ∧ 0 ≤ g.last ∧ g.layout.maxSequence ≤ g.sequence

instance (g : Generator) : DecidablePred g.Exhausted :=
  fun _ => inferInstanceAs (Decidable (_ ∧ _ ∧ _))

/-- What comes next when this is the time that the search for it ends at. -/
def nextAt (g : Generator) (now : Int) : Except Error (Int × Nat) :=
  if now < g.last ∨ now < 0 then .error (.clockSkew g.last now)
  else .ok (now, if now = g.last then g.sequence + 1 else 0)

/-- What a call answers and leaves when it is settled by a reading of this time. -/
def settledAt (g : Generator) (now : Int) : Except Error Int64 × Generator :=
  g.issue (g.nextAt now)

/-- The search for what comes next ends at the first reading at which the clock has moved or a
sequence number is left. -/
theorem nextOn_eq (hpassed : ∀ i < count, g.Exhausted (readings.get i))
    (hsettled : ¬ g.Exhausted (readings.get count)) :
    g.nextOn readings = .some (g.nextAt (g.elapsed (readings.get count)), count + 1) := by
  rw [nextOn]
  dsimp only
  cases count with
  | zero =>
    -- Nothing is passed over, so the search ends at once.
    change ¬ g.Exhausted readings.head at hsettled
    change _ = Part.some (g.nextAt (g.elapsed readings.head), 1)
    rw [nextAt]
    by_cases hbehind : g.elapsed readings.head < g.last ∨ g.elapsed readings.head < 0
    · rw [if_pos hbehind, if_pos hbehind]
      rfl
    · rw [if_neg hbehind, if_neg hbehind]
      by_cases hsame : g.elapsed readings.head = g.last
      · have hroom : g.sequence < g.layout.maxSequence := by
          by_contra hfull
          exact hsettled ⟨hsame, by omega, by omega⟩
        rw [if_pos hsame, if_pos hroom, if_pos hsame]
        rfl
      · rw [if_neg hsame, if_neg hsame]
        rfl
  | succ count =>
    -- The first reading makes the call wait, and to the wait only the time matters.
    obtain ⟨hsame, hlast, hfull⟩ : g.Exhausted readings.head := hpassed 0 (Nat.succ_pos count)
    have hother : g.elapsed (readings.get (count + 1)) ≠ g.last :=
      fun h => hsettled ⟨h, hlast, hfull⟩
    have hshift : ∀ i, 1 + i = i + 1 := by omega
    have hw : g.waitOn readings 1 = _ :=
      waitOn_eq (fun i hi => hshift i ▸ (hpassed (i + 1) (Nat.succ_lt_succ hi)).1)
        (hshift count ▸ hother)
    rw [if_neg (by omega), if_pos hsame, if_neg (by omega), hw, hshift, Part.bind_eq_bind,
      Part.bind_some, nextAt]
    by_cases hlater : g.last < g.elapsed (readings.get (count + 1))
    · rw [if_pos hlater, if_neg (by omega), if_neg hother]
      rfl
    · rw [if_neg hlater, if_pos (by omega)]
      rfl

/-- A call passes over the readings at which no sequence number is left, and the first other one
settles it. -/
theorem generateOn_eq (hpassed : ∀ i < count, g.Exhausted (readings.get i))
    (hsettled : ¬ g.Exhausted (readings.get count)) :
    g.generateOn readings = .some ((g.settledAt (g.elapsed (readings.get count))).1,
      (g.settledAt (g.elapsed (readings.get count))).2, count + 1) := by
  rw [generateOn, nextOn_eq hpassed hsettled, Part.bind_eq_bind, Part.bind_some]
  rfl

/-- A call that ends has seen a reading that settles it. -/
theorem exists_settling_of_generateOn {result : Except Error Int64 × Generator × Nat}
    (hg : result ∈ g.generateOn readings) : ∃ i, ¬ g.Exhausted (readings.get i) := by
  by_contra hnone
  have hall : ∀ i, g.Exhausted (readings.get i) := not_exists_not.1 hnone
  obtain ⟨hsame, hlast, hfull⟩ : g.Exhausted readings.head := hall 0
  have hw : g.waitOn readings 1 = .none := waitOn_eq_none (fun i => (hall i).1) 1
  have hn : g.nextOn readings = .none := by
    rw [nextOn]
    dsimp only
    rw [if_neg (by omega), if_pos hsame, if_neg (by omega), hw, Part.bind_eq_bind, Part.bind_none]
  rw [generateOn, hn, Part.bind_eq_bind, Part.bind_none] at hg
  exact Part.notMem_none result hg

/-- A call ends no later than a wait for another time would. -/
theorem exists_settling_of_other (hother : g.elapsed (readings.get count) ≠ g.last) :
    ∃ i ≤ count, (∀ j < i, g.Exhausted (readings.get j)) ∧ ¬ g.Exhausted (readings.get i) := by
  have hs : ∃ i, ¬ g.Exhausted (readings.get i) := ⟨count, fun he => hother he.1⟩
  exact ⟨Nat.find hs, Nat.find_min' hs fun he => hother he.1,
    fun j hj => not_not.1 (Nat.find_min hs hj), Nat.find_spec hs⟩

end Call

section Stepping

/-- A call issues what comes next. -/
theorem generate_eq_issue (g : Generator) (clock : Clock) :
    g.generate clock =
      ((g.issue (g.next clock).1).1, (g.issue (g.next clock).1).2, (g.next clock).2) := by
  rw [generate]
  obtain ⟨e | ⟨timestamp, sequence⟩, rest⟩ := g.next clock
  · rfl
  · dsimp only [issue]
    split <;> rfl

/-- On a clock that steps some reading shows another time, and the wait from any reading on is the
one on any clock. -/
theorem waitOn_stream (g : Generator) (clock : Clock) (start : Nat) :
    (∃ i, g.elapsed (clock.stream.get i) ≠ g.last) ∧
      ∃ count, (g.wait (clock.after start)).2 = clock.after count ∧
        g.waitOn clock.stream start = .some ((g.wait (clock.after start)).1, count) := by
  have hseen : ∀ r, decide (g.elapsed r = g.last) = true →
      decide (g.elapsed (r + 1) = g.last) = false := fun r hr =>
    decide_eq_false fun h => g.elapsed_succ_ne r (h.trans (of_decide_eq_true hr).symm)
  obtain ⟨passed, hafter, hreadings, hpassed, hother⟩ :=
    (clock.after start).firstOther_readings hseen
  rw [← Clock.take_stream, ← Clock.drop_stream] at hreadings
  obtain ⟨hmem, hlast⟩ := get_of_take hreadings
  rw [Stream'.get_drop] at hlast
  have hdiffers : g.elapsed (clock.stream.get (start + passed.length)) ≠ g.last := by
    rw [hlast]
    exact of_decide_eq_false hother
  have hsame : ∀ i < passed.length, g.elapsed (clock.stream.get (start + i)) = g.last := by
    intro i hi
    have hi := hmem i hi
    rw [Stream'.get_drop] at hi
    exact of_decide_eq_true (hpassed _ hi)
  refine ⟨⟨_, hdiffers⟩, start + (passed.length + 1), ?_, ?_⟩
  · rw [Clock.after_add]
    exact hafter
  · rw [waitOn_eq hsame hdiffers, hlast]
    rfl

/-- The search for what comes next is the one on any clock. -/
theorem nextOn_stream (g : Generator) (clock : Clock) :
    ∃ count, (g.next clock).2 = clock.after count ∧
      g.nextOn clock.stream = .some ((g.next clock).1, count) := by
  rw [next, nextOn, Clock.head_stream]
  dsimp only
  split
  case isTrue => exact ⟨1, rfl, rfl⟩
  case isFalse =>
    split
    case isTrue =>
      split
      case isTrue => exact ⟨1, rfl, rfl⟩
      case isFalse =>
        obtain ⟨-, count, hafter, hw⟩ := g.waitOn_stream clock 1
        refine ⟨count, hafter, ?_⟩
        rw [hw, Part.bind_eq_bind, Part.bind_some]
        rfl
    case isFalse => exact ⟨1, rfl, rfl⟩

/-- The call is the one on any clock. -/
theorem generateOn_stream (g : Generator) (clock : Clock) :
    ∃ count, (g.generate clock).2.2 = clock.after count ∧
      g.generateOn clock.stream = .some ((g.generate clock).1, (g.generate clock).2.1, count) := by
  obtain ⟨count, hafter, hn⟩ := g.nextOn_stream clock
  rw [generateOn, hn, generate_eq_issue, Part.bind_eq_bind, Part.bind_some]
  exact ⟨count, hafter, rfl⟩

end Stepping

/-- On any clock that shows another time than that of the last identifier at some time, the wait
ends: it takes the readings up to the first such one, and that one is the answer if it is later and
an error if it is earlier. So a call ends there too, and takes no more readings. On a clock that
never shows another time the wait has no end. A clock that steps shows one, and there the wait and
the call that contains it are those on any clock. -/
theorem first_other_decides_wait (g : Generator) :
    (∀ readings : Stream' Int, (∃ i, g.elapsed (readings.get i) ≠ g.last) → ∃ count,
      (∀ i < count, g.elapsed (readings.get i) = g.last) ∧
      g.elapsed (readings.get count) ≠ g.last ∧
      g.waitOn readings 0 = .some (if g.last < g.elapsed (readings.get count)
        then .ok (g.elapsed (readings.get count))
        else .error (.clockSkew g.last (g.elapsed (readings.get count))), count + 1) ∧
      ∃ answer left taken, g.generateOn readings = .some (answer, left, taken) ∧
        taken ≤ count + 1) ∧
    (∀ readings : Stream' Int, (∀ i, g.elapsed (readings.get i) = g.last) →
      g.waitOn readings 0 = .none) ∧
    (∀ reading, -2 ^ 63 ≤ reading - g.epoch → reading - g.epoch < 2 ^ 63 →
      g.elapsed reading = reading - g.epoch) ∧
    ∀ clock : Clock, (∃ i, g.elapsed (clock.stream.get i) ≠ g.last) ∧
      (∃ count, (g.wait clock).2 = clock.after count ∧
        g.waitOn clock.stream 0 = .some ((g.wait clock).1, count)) ∧
      ∃ count, (g.generate clock).2.2 = clock.after count ∧
        g.generateOn clock.stream =
          .some ((g.generate clock).1, (g.generate clock).2.1, count) := by
  refine ⟨fun readings hs => ?_, fun readings hs => waitOn_eq_none hs 0,
    fun reading => g.elapsed_eq, fun clock => ?_⟩
  · have hsame : ∀ i < Nat.find hs, g.elapsed (readings.get (0 + i)) = g.last := by
      intro i hi
      rw [Nat.zero_add]
      exact not_ne_iff.1 (Nat.find_min hs hi)
    have hother : g.elapsed (readings.get (0 + Nat.find hs)) ≠ g.last := by
      rw [Nat.zero_add]
      exact Nat.find_spec hs
    have hw := waitOn_eq hsame hother
    simp only [Nat.zero_add] at hsame hother hw
    obtain ⟨settling, hle, hpassed, hsettled⟩ := exists_settling_of_other hother
    exact ⟨Nat.find hs, hsame, hother, hw, _, _, _, generateOn_eq hpassed hsettled, by omega⟩
  · obtain ⟨hother, hw⟩ := g.waitOn_stream clock 0
    exact ⟨hother, hw, g.generateOn_stream clock⟩

/-- The generator of the narrow layout after both identifiers of the time 5. -/
def spent : Generator :=
  ⟨narrow, 0, 1, one_le_maxWorker_narrow, 5, 1⟩

/-- A clock that stands still at 5 for two readings and then goes back to 3 for ever. -/
def stumbling : Stream' Int :=
  [5, 5] ++ₛ Stream'.const 3

/-- The third reading ends the wait, with an error. -/
theorem first_other_decides_wait_of_stumbling :
    (∃ i, spent.elapsed (stumbling.get i) ≠ spent.last) ∧
    spent.waitOn stumbling 0 = .some (.error (.clockSkew 5 3), 3) ∧
    (spent.generateOn stumbling).Dom := by
  have hs : ∃ i, spent.elapsed (stumbling.get i) ≠ spent.last := ⟨2, by decide⟩
  obtain ⟨count, hsame, hother, hw, answer, left, taken, hg, -⟩ :=
    (first_other_decides_wait spent).1 stumbling hs
  refine ⟨hs, ?_, Part.dom_iff_mem.2 ⟨_, Part.eq_some_iff.1 hg⟩⟩
  obtain _ | _ | _ | count := count
  · exact absurd rfl hother
  · exact absurd rfl hother
  · exact hw
  · exact absurd (hsame 2 (by omega)) (by decide)

end Generator

end Forum.Identifier
