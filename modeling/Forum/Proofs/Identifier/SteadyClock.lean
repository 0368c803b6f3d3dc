import Mathlib
import Forum.Proofs.Identifier.Runs

/-!
# Clocks that do not go back

A generator is set up only when its clock has reached the epoch. If the clock never goes back from
there, it is never behind the last identifier, so no call fails because of it. A call fails only
when its time no longer fits the layout, and then all later ones fail for the same reason.
-/

namespace Forum.Identifier

/-- The reading that a call settles on: its first one, or, if that shows the time of the last
identifier and no sequence number of it is left, the first later one. -/
inductive Call.SettlesOn (c : Call) : Int → Prop
  /-- The clock has moved, or there are sequence numbers left. -/
  | first (reading : Int) (hr : c.readings = [reading]) (hroom : ¬ c.found.Exhausted reading) :
      c.SettlesOn reading
  /-- The readings before it still show the time of the last identifier. -/
  | later (passed : List Int) (reading : Int) (hr : c.readings = passed ++ [reading])
      (hsome : passed ≠ []) (hfull : ∀ r ∈ passed, c.found.Exhausted r)
      (hlater : c.found.last < c.found.elapsed reading) : c.SettlesOn reading

/-- It is one of the readings of the call. -/
theorem Call.SettlesOn.mem {c : Call} {reading : Int} (hs : c.SettlesOn reading) :
    reading ∈ c.readings := by
  cases hs with
  | first _ hr _ =>
    rw [hr]
    exact List.mem_singleton_self _
  | later passed _ hr _ _ _ =>
    rw [hr]
    exact List.mem_append_right _ (List.mem_singleton_self _)

namespace Generator

variable {g : Generator}

/-- Readings at which the clock is behind neither the epoch nor the last identifier. -/
structure Ahead (g : Generator) (readings : List Int) : Prop where
  /-- The epoch is reached. -/
  epoch_le : ∀ r ∈ readings, g.epoch ≤ r
  /-- So is the time of the last identifier. -/
  last_le : ∀ r ∈ readings, g.last ≤ r - g.epoch
  /-- The distance to the epoch is a signed number of 64 bits. -/
  lt_range : ∀ r ∈ readings, r - g.epoch < 2 ^ 63

theorem Ahead.mono {readings fewer : List Int} (ha : g.Ahead readings)
    (hs : ∀ r ∈ fewer, r ∈ readings) : g.Ahead fewer :=
  ⟨fun r hr => ha.epoch_le r (hs r hr), fun r hr => ha.last_le r (hs r hr),
    fun r hr => ha.lt_range r (hs r hr)⟩

/-- Such readings show their distance to the epoch. -/
theorem Ahead.elapsed_eq {readings : List Int} (ha : g.Ahead readings) {r : Int}
    (hr : r ∈ readings) : g.elapsed r = r - g.epoch := by
  have hepoch := ha.epoch_le r hr
  exact g.elapsed_eq (by omega) (ha.lt_range r hr)

/-- A call that is settled by a time that is not behind issues an identifier if the time fits the
layout, and else fails for this reason. -/
theorem settledAt_fst {now : Int} (hlast : g.last ≤ now) (hnow : 0 ≤ now) :
    (g.layout.maxTimestamp < now ∧ (g.settledAt now).1 = .error .timestampOverflow) ∨
      (now ≤ g.layout.maxTimestamp ∧ ∃ id, (g.settledAt now).1 = .ok id) := by
  have hahead : ¬ (now < g.last ∨ now < 0) := by omega
  rw [settledAt, nextAt, if_neg hahead, issue]
  by_cases hm : g.layout.maxTimestamp < now
  · rw [if_pos hm]
    exact Or.inl ⟨hm, rfl⟩
  · rw [if_neg hm]
    exact Or.inr ⟨by omega, _, rfl⟩

/-- A call keeps the layout and the epoch, and moves the time of the last identifier to the one that
settles it, or not at all. -/
theorem settledAt_snd (g : Generator) (now : Int) :
    (g.settledAt now).2.layout = g.layout ∧ (g.settledAt now).2.epoch = g.epoch ∧
      ((g.settledAt now).2.last = g.last ∨ (g.settledAt now).2.last = now) := by
  rw [settledAt, nextAt]
  split
  · exact ⟨rfl, rfl, Or.inl rfl⟩
  · rw [issue]
    split
    · exact ⟨rfl, rfl, Or.inl rfl⟩
    · exact ⟨rfl, rfl, Or.inr rfl⟩

end Generator

/-- A call on a clock that does not go back. -/
structure Call.Steady (c : Call) (reading : Int) : Prop where
  /-- It settles on this reading. -/
  settlesOn : c.SettlesOn reading
  /-- The reading shows its distance to the epoch. -/
  elapsed_eq : c.found.elapsed reading = reading - c.found.epoch
  /-- The clock is not behind. -/
  not_skew : ∀ last now, c.answer ≠ .error (.clockSkew last now)
  /-- The call fails exactly if the time does not fit the layout. -/
  overflow_iff : c.answer = .error .timestampOverflow ↔
    (c.found.layout.maxTimestamp : Int) < reading - c.found.epoch

/-- A call is steady on readings at which the clock is not behind. -/
theorem Call.SettledBy.steady {c : Call} {passed : List Int} {reading : Int}
    (hs : c.SettledBy passed reading) (ha : c.found.Ahead c.readings) : c.Steady reading := by
  have hr := hs.readings_eq
  have helapsed := ha.elapsed_eq hs.reading_mem
  have hlast := ha.last_le reading hs.reading_mem
  have hepoch := ha.epoch_le reading hs.reading_mem
  have hanswer := hs.answer_eq
  rw [helapsed] at hanswer
  have hcases := Generator.settledAt_fst hlast (by omega)
  rw [← hanswer] at hcases
  constructor
  case settlesOn =>
    by_cases hp : passed = []
    · rw [hp] at hr
      exact .first reading hr hs.settling
    · obtain ⟨r, hrest⟩ := List.exists_mem_of_ne_nil passed hp
      obtain ⟨-, hnew, hfull⟩ := hs.passed_over r hrest
      have hother : c.found.elapsed reading ≠ c.found.last :=
        fun hsame => hs.settling ⟨hsame, hnew, hfull⟩
      exact .later passed reading hr hp hs.passed_over (by omega)
  case elapsed_eq => exact helapsed
  case not_skew =>
    intro last now hskew
    rw [hskew] at hcases
    rcases hcases with ⟨-, hfail⟩ | ⟨-, id, hid⟩
    · cases hfail
    · cases hid
  case overflow_iff =>
    rcases hcases with ⟨hm, hfail⟩ | ⟨hm, id, hid⟩
    · exact iff_of_true hfail hm
    · refine iff_of_false (fun hfail => ?_) (by omega)
      rw [hid] at hfail
      cases hfail

/-- The readings of a clock that does not go back stay ahead of what a call leaves. -/
theorem Call.SettledBy.ahead_left {c : Call} {passed readings : List Int} {reading : Int}
    (hs : c.SettledBy passed reading) (ha : c.found.Ahead (c.readings ++ readings))
    (hsorted : (c.readings ++ readings).Pairwise (· ≤ ·)) : c.left.Ahead readings := by
  have helapsed := ha.elapsed_eq (List.mem_append_left _ hs.reading_mem)
  obtain ⟨-, hepoch, hlast⟩ := c.found.settledAt_snd (c.found.elapsed reading)
  rw [← hs.left_eq] at hepoch hlast
  obtain ⟨-, -, hbefore⟩ := List.pairwise_append.1 hsorted
  refine ⟨fun r hr => ?_, fun r hr => ?_, fun r hr => ?_⟩
  · rw [hepoch]
    exact ha.epoch_le r (List.mem_append_right _ hr)
  · have hle := hbefore reading hs.reading_mem r hr
    have hold := ha.last_le r (List.mem_append_right _ hr)
    rcases hlast with hlast | hlast <;> omega
  · rw [hepoch]
    exact ha.lt_range r (List.mem_append_right _ hr)

/-- All calls of a run find the layout and the epoch of the generator. -/
theorem Run.kept {g : Generator} {made : List Call} (hr : Run g made) :
    ∀ c ∈ made, c.found.layout = g.layout ∧ c.found.epoch = g.epoch := by
  induction hr with
  | nil => exact fun c hc => absurd hc List.not_mem_nil
  | @cons c calls hs _ ih =>
    obtain ⟨passed, reading, hs⟩ := hs
    obtain ⟨hlayout, hepoch, -⟩ := c.found.settledAt_snd (c.found.elapsed reading)
    rw [← hs.left_eq] at hlayout hepoch
    refine List.forall_mem_cons.2 ⟨⟨rfl, rfl⟩, fun later hlater => ?_⟩
    obtain ⟨hlayout', hepoch'⟩ := ih later hlater
    exact ⟨hlayout'.trans hlayout, hepoch'.trans hepoch⟩

/-- Every call of a run is steady if the clock does not go back. -/
theorem Run.steady {g : Generator} {made : List Call} (hr : Run g made)
    (ha : g.Ahead (readingsOf made)) (hsorted : (readingsOf made).Pairwise (· ≤ ·)) :
    ∀ c ∈ made, ∃ reading, c.Steady reading := by
  induction hr with
  | nil => exact fun c hc => absurd hc List.not_mem_nil
  | @cons c calls hs _ ih =>
    obtain ⟨passed, reading, hs⟩ := hs
    rw [readingsOf_cons] at ha hsorted
    refine List.forall_mem_cons.2 ⟨⟨reading, ?_⟩, ?_⟩
    · exact hs.steady (ha.mono fun r hr => List.mem_append_left _ hr)
    · exact ih (hs.ahead_left ha hsorted) (List.pairwise_append.1 hsorted).2.1

namespace Generator

variable {g : Generator} {layout : Layout} {worker : Nat} {epoch : String} {clock rest : Clock}

/-- A generator is set up only when its clock has reached the epoch. -/
theorem epoch_le_of_start (hs : start layout worker epoch clock = .ok (g, rest)) :
    g.epoch ≤ clock.tick.1 := by
  obtain ⟨time, fits, hparse, rfl⟩ := eq_of_start hs
  by_contra hbefore
  rw [start, dif_pos fits, hparse] at hs
  dsimp only at hs
  rw [if_pos (Int.not_le.1 hbefore)] at hs
  cases hs

/-- From the moment a generator is set up, on any clock of which the readings that its calls take
never go back from the one at which it was set up, and of which the distances to the epoch are
signed numbers of 64 bits: no call fails because the clock is behind; one fails because the layout
has no room for the time exactly if the reading that it settles on is so far from the epoch; and
once one has failed for this reason, so do all later ones. On a clock that steps the run is the
running one. -/
theorem steady_clock_never_skews (hs : start layout worker epoch clock = .ok (g, rest))
    (calls : Nat) :
    (∀ readings made, log calls g readings = .some made →
      (clock.tick.1 :: readingsOf made).Pairwise (· ≤ ·) →
      (∀ r ∈ readingsOf made, r - g.epoch < 2 ^ 63) →
        (∀ c ∈ made, (∀ last now, c.answer ≠ .error (.clockSkew last now)) ∧
          ∃ reading, c.SettlesOn reading ∧ c.found.elapsed reading = reading - g.epoch ∧
            (c.answer = .error .timestampOverflow ↔
              (layout.maxTimestamp : Int) < reading - g.epoch)) ∧
        made.Pairwise fun c later =>
          c.answer = .error .timestampOverflow → later.answer = .error .timestampOverflow) ∧
    ∃ made, log calls g rest.stream = .some made ∧ made.map Call.answer = answers calls g rest := by
  refine ⟨fun readings made hl hsteady hrange => ?_, log_stream calls g rest⟩
  have hreached := epoch_le_of_start hs
  have hlayout := layout_of_start hs
  have hnew : g.last = -1 := by
    obtain ⟨time, fits, -, rfl⟩ := eq_of_start hs
    rfl
  obtain ⟨hfirst, hsorted⟩ := List.pairwise_cons.1 hsteady
  have hahead : g.Ahead (readingsOf made) := by
    refine ⟨fun r hr => hreached.trans (hfirst r hr), fun r hr => ?_, hrange⟩
    have hle := hfirst r hr
    omega
  have hcalls : ∀ c ∈ made, (∀ last now, c.answer ≠ .error (.clockSkew last now)) ∧
      ∃ reading, c.SettlesOn reading ∧ c.found.elapsed reading = reading - g.epoch ∧
        (c.answer = .error .timestampOverflow ↔
          (layout.maxTimestamp : Int) < reading - g.epoch) := by
    intro c hc
    obtain ⟨reading, hsteady⟩ := (log_eq_some_iff.1 hl).1.steady hahead hsorted c hc
    obtain ⟨hl, he⟩ := (log_eq_some_iff.1 hl).1.kept c hc
    have hiff := hsteady.overflow_iff
    have htime := hsteady.elapsed_eq
    rw [hl, hlayout, he] at hiff
    rw [he] at htime
    exact ⟨hsteady.not_skew, reading, hsteady.settlesOn, htime, hiff⟩
  refine ⟨hcalls, ?_⟩
  -- What is too far from the epoch for one call is so for all that read the clock after it.
  obtain ⟨-, hbetween⟩ := List.pairwise_flatMap.1 hsorted
  refine hbetween.imp_of_mem fun {c later} hc hl hle ho => ?_
  obtain ⟨-, r, hr, -, hiff⟩ := hcalls c hc
  obtain ⟨-, r', hr', -, hiff'⟩ := hcalls later hl
  have hrr := hle r hr.mem r' hr'.mem
  have hm := hiff.1 ho
  exact hiff'.2 (by omega)

/-- A layout for the four milliseconds from an epoch on, with two identifiers in each. -/
def brief : Layout :=
  ⟨2, 60, 1, Nat.two_pos, by decide, Nat.one_pos, by decide⟩

/-- A generator of this layout that counts from 1970. -/
def fleeting (last : Int) (sequence : Nat) : Generator :=
  ⟨brief, 0, 1, by decide, last, sequence⟩

/-- Its calls on a clock that stands at 3 for three readings and then moves to 4. The third one
waits for the next millisecond, which does not fit, and the fourth one finds it. -/
def expiry : List Call :=
  [⟨fleeting (-1) 0, [3], .ok 6917529027641081858, fleeting 3 0⟩,
    ⟨fleeting 3 0, [3], .ok 6917529027641081859, fleeting 3 1⟩,
    ⟨fleeting 3 1, [3, 4], .error .timestampOverflow, fleeting 3 1⟩,
    ⟨fleeting 3 1, [4], .error .timestampOverflow, fleeting 3 1⟩]

/-- The calls go as their readings say. -/
theorem run_expiry : Run (fleeting (-1) 0) expiry := by
  have hfirst : Call.Settled ⟨fleeting (-1) 0, [3], .ok 6917529027641081858, fleeting 3 0⟩ :=
    ⟨[], 3, rfl, by decide, by decide, rfl, rfl⟩
  have hsecond : Call.Settled ⟨fleeting 3 0, [3], .ok 6917529027641081859, fleeting 3 1⟩ :=
    ⟨[], 3, rfl, by decide, by decide, rfl, rfl⟩
  have hwaiting : Call.Settled ⟨fleeting 3 1, [3, 4], .error .timestampOverflow, fleeting 3 1⟩ :=
    ⟨[3], 4, rfl, by decide, by decide, rfl, rfl⟩
  have hlate : Call.Settled ⟨fleeting 3 1, [4], .error .timestampOverflow, fleeting 3 1⟩ :=
    ⟨[], 4, rfl, by decide, by decide, rfl, rfl⟩
  exact .cons hfirst (.cons hsecond (.cons hwaiting (.cons hlate (.nil _))))

/-- The clock does not go back, and the fourth call fails because the third one does. -/
theorem steady_clock_never_skews_of_expiry :
    start brief 1 "1970-01-01T00:00:00Z" ⟨[0, 3, 3, 3, 4, 4], 0⟩ =
      .ok (fleeting (-1) 0, ⟨[3, 3, 3, 4, 4], 0⟩) ∧
    log 4 (fleeting (-1) 0) ([3, 3, 3] ++ₛ Stream'.const 4) = .some expiry ∧
    (0 :: readingsOf expiry).Pairwise (· ≤ ·) ∧
    (∀ r ∈ readingsOf expiry, r - 0 < 2 ^ 63) ∧
    expiry.Pairwise fun c later =>
      c.answer = .error .timestampOverflow → later.answer = .error .timestampOverflow := by
  have hs : start brief 1 "1970-01-01T00:00:00Z" ⟨[0, 3, 3, 3, 4, 4], 0⟩ =
      .ok (fleeting (-1) 0, ⟨[3, 3, 3, 4, 4], 0⟩) := rfl
  have hl : log 4 (fleeting (-1) 0) ([3, 3, 3] ++ₛ Stream'.const 4) = .some expiry :=
    log_eq_some_iff.2 ⟨run_expiry, rfl, rfl⟩
  have hsteady : (0 :: readingsOf expiry).Pairwise (· ≤ ·) := by decide
  have hrange : ∀ r ∈ readingsOf expiry, r - 0 < 2 ^ 63 := by decide
  exact ⟨hs, hl, hsteady, hrange,
    ((steady_clock_never_skews hs 4).1 _ expiry hl hsteady hrange).2⟩

end Generator

end Forum.Identifier
