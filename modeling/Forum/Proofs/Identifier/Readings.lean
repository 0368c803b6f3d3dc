import Mathlib
import Forum.Proofs.Identifier.Fleet

/-!
# Which readings a call takes

A call of a generator takes the next readings of its clock, one or more, and leaves the clock behind
them. All but the last of them show the time of the last identifier, because the call waits for as
long as that is so, and the last one is the time of the identifier, if the call issues one. Two
readings that differ by one never show the same time, so every wait ends on a clock that steps.
-/

namespace Forum.Identifier

namespace Clock

/-- The next readings of a clock. -/
def readings : Nat → Clock → List Int
  | 0, _ => []
  | count + 1, c => c.tick.1 :: readings count c.tick.2

/-- The clock after so many readings. -/
def after : Nat → Clock → Clock
  | 0, c => c
  | count + 1, c => after count c.tick.2

/-- The first reading that is not passed over, and those passed over before it, are the next ones of
the clock. -/
theorem firstOther_readings {seen : Int → Bool} (hseen : ∀ r, seen r → seen (r + 1) = false)
    (c : Clock) : ∃ passed, (c.firstOther seen).2 = c.after (passed.length + 1) ∧
      c.readings (passed.length + 1) = passed ++ [(c.firstOther seen).1] ∧
      (∀ r ∈ passed, seen r) ∧ seen (c.firstOther seen).1 = false := by
  obtain ⟨pending, last⟩ := c
  rw [firstOther]
  induction pending generalizing last with
  | nil =>
    rw [firstOtherFrom]
    by_cases hs : seen (last + 1) = true
    · rw [if_pos hs]
      have htwo : last + 2 = last + 1 + 1 := by omega
      rw [htwo]
      refine ⟨[last + 1], rfl, rfl, fun r hr => ?_, hseen _ hs⟩
      rw [List.mem_singleton.1 hr]
      exact hs
    · rw [if_neg hs]
      exact ⟨[], rfl, rfl, fun r hr => absurd hr List.not_mem_nil, Bool.eq_false_iff.2 hs⟩
  | cons r rest ih =>
    rw [firstOtherFrom]
    by_cases hs : seen r = true
    · rw [if_pos hs]
      obtain ⟨passed, hafter, hreadings, hpassed, hother⟩ := ih r
      refine ⟨r :: passed, hafter, congrArg (r :: ·) hreadings, fun x hx => ?_, hother⟩
      rcases List.mem_cons.1 hx with rfl | hrest
      · exact hs
      · exact hpassed x hrest
    · rw [if_neg hs]
      exact ⟨[], rfl, rfl, fun x hx => absurd hx List.not_mem_nil, Bool.eq_false_iff.2 hs⟩

end Clock

namespace Generator

variable (g : Generator) (clock : Clock)

/-- The time moves between two readings that differ by one. -/
theorem elapsed_succ_ne (reading : Int) : g.elapsed (reading + 1) ≠ g.elapsed reading := by
  intro hsame
  have hmod := congrArg (· % ((2 ^ 64 : Nat) : Int)) hsame
  simp only [elapsed, Int.bmod_emod] at hmod
  omega

/-- A reading whose distance to the epoch is a signed number of 64 bits shows that distance. -/
theorem elapsed_eq {reading : Int} (hlow : -2 ^ 63 ≤ reading - g.epoch)
    (hhigh : reading - g.epoch < 2 ^ 63) : g.elapsed reading = reading - g.epoch := by
  rw [elapsed]
  exact Int.bmod_eq_of_le (by omega) (by omega)

/-- The readings that were taken from a clock: some that show the time of the last identifier, and
then one more. -/
structure Took (g : Generator) (clock : Clock) (passed : List Int) (reading : Int)
    (rest : Clock) : Prop where
  /-- They are the next ones of the clock. -/
  readings_eq : clock.readings (passed.length + 1) = passed ++ [reading]
  /-- The clock goes on behind them. -/
  rest_eq : rest = clock.after (passed.length + 1)
  /-- All but the last are passed over because the time stands still. -/
  passed_same : ∀ r ∈ passed, g.elapsed r = g.last

/-- One reading. -/
theorem took_tick : g.Took clock [] clock.tick.1 clock.tick.2 :=
  ⟨rfl, rfl, fun _ hr => absurd hr List.not_mem_nil⟩

/-- A reading that shows the time of the last identifier, and what follows it. -/
theorem Took.cons {g : Generator} {clock rest : Clock} {passed : List Int} {reading : Int}
    (hsame : g.elapsed clock.tick.1 = g.last) (ht : g.Took clock.tick.2 passed reading rest) :
    g.Took clock (clock.tick.1 :: passed) reading rest where
  readings_eq := congrArg (clock.tick.1 :: ·) ht.readings_eq
  rest_eq := ht.rest_eq
  passed_same := List.forall_mem_cons.2 ⟨hsame, ht.passed_same⟩

/-- A wait ends at the first reading that shows another time. -/
theorem took_wait : ∃ passed reading, g.Took clock passed reading (g.wait clock).2 ∧
    ∀ time, (g.wait clock).1 = .ok time → time = g.elapsed reading := by
  have hseen : ∀ r, decide (g.elapsed r = g.last) = true →
      decide (g.elapsed (r + 1) = g.last) = false := by
    intro r hr
    have hne := g.elapsed_succ_ne r
    rw [of_decide_eq_true hr] at hne
    exact decide_eq_false hne
  obtain ⟨passed, hrest, hreadings, hpassed, -⟩ := clock.firstOther_readings hseen
  refine ⟨passed, _, ⟨hreadings, hrest, fun r hr => of_decide_eq_true (hpassed r hr)⟩, ?_⟩
  intro time hw
  unfold wait at hw
  dsimp only at hw
  split at hw
  case isTrue => exact (Except.ok.inj hw).symm
  case isFalse => cases hw

/-- What comes next has the time of the last reading. -/
theorem took_next : ∃ passed reading, g.Took clock passed reading (g.next clock).2 ∧
    ∀ time sequence, (g.next clock).1 = .ok (time, sequence) → time = g.elapsed reading := by
  unfold next
  dsimp only
  split
  case isTrue =>
    exact ⟨[], _, g.took_tick clock, fun time sequence hn => by cases hn⟩
  case isFalse =>
    split
    case isTrue hsame =>
      split
      case isTrue =>
        refine ⟨[], _, g.took_tick clock, fun time sequence hn => ?_⟩
        exact (congrArg Prod.fst (Except.ok.inj hn)).symm
      case isFalse =>
        -- The first reading shows the time of the last identifier, and so do those of the wait.
        obtain ⟨passed, reading, htook, htime⟩ := g.took_wait clock.tick.2
        refine ⟨_, reading, htook.cons hsame, fun time sequence hn => ?_⟩
        cases hw : (g.wait clock.tick.2).1 with
        | error e =>
          rw [hw] at hn
          cases hn
        | ok later =>
          rw [hw] at hn
          obtain ⟨rfl, -⟩ := by simpa only [Except.map, Except.ok.injEq, Prod.mk.injEq] using hn
          exact htime _ hw
    case isFalse =>
      refine ⟨[], _, g.took_tick clock, fun time sequence hn => ?_⟩
      exact (congrArg Prod.fst (Except.ok.inj hn)).symm

/-- A call leaves the clock as its search for the next time did. -/
theorem clock_of_generate : (g.generate clock).2.2 = (g.next clock).2 := by
  unfold generate
  split
  case h_1 hn => rw [hn]
  case h_2 hn =>
    rw [hn]
    split <;> rfl

/-- A call takes readings until one shows another time than that of the last identifier, and an
identifier has the time of the last one. -/
theorem took_generate : ∃ passed reading, g.Took clock passed reading (g.generate clock).2.2 ∧
    ∀ id, (g.generate clock).1 = .ok id →
      ((g.layout.decompose id).timestamp : Int) = g.elapsed reading := by
  obtain ⟨passed, reading, htook, htime⟩ := g.took_next clock
  rw [← g.clock_of_generate clock] at htook
  refine ⟨passed, reading, htook, fun id hi => ?_⟩
  obtain ⟨timestamp, sequence, hn, hd⟩ := decompose_of_generate hi
  rw [hd]
  exact htime _ _ hn

/-- A clock that runs behind the last identifier gets none. -/
theorem error_of_behind (hb : g.elapsed clock.tick.1 < g.last) :
    (g.generate clock).1 = .error (.clockSkew g.last (g.elapsed clock.tick.1)) := by
  have hn : g.next clock =
      (.error (.clockSkew g.last (g.elapsed clock.tick.1)), clock.tick.2) := if_pos (Or.inl hb)
  rw [generate, hn]

end Generator

end Forum.Identifier
