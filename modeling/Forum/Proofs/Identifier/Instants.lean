import Mathlib
import Forum.Proofs.Identifier.Encoding
import Forum.Proofs.Identifier.Runs
import Forum.Proofs.Identifier.SteadyClock
import Forum.Proofs.Time.Range

/-!
# When identifiers were issued

The time that an identifier shows is added to the epoch. Both are words: the time takes at most 62
bits even with the sign of a negative identifier in front, and an epoch that was read from a text
takes 48 bits and a sign, so the sum is never cut off. And where the readings of a clock have
calendar dates, their distance to the epoch is not cut off either. So what was taken off a reading
when an identifier was issued is added again, and the reading comes out.
-/

namespace Forum.Identifier

/-- Even with the sign in front the time in an identifier leaves two bits of the word free. -/
theorem Layout.timestamp_decompose_lt (l : Layout) (id : Int64) :
    (l.decompose id).timestamp < 2 ^ 62 := by
  have hworker := l.workerBits_pos
  have hsequence := l.sequenceBits_pos
  have hword := id.toUInt64.toNat_lt
  have hshift : 2 ^ 2 ≤ 2 ^ (l.sequenceBits + l.workerBits) :=
    Nat.pow_le_pow_right Nat.two_pos (by omega)
  rw [decompose, Nat.div_div_eq_div_mul, ← Nat.pow_add]
  apply Nat.div_lt_of_lt_mul
  omega

namespace Generator

/-- The first instant that has a calendar date, in milliseconds since 1970. -/
def firstInstant : Int :=
  -8334601228800000

/-- Whether an instant has a calendar date. -/
def InCalendar (instant : Int) : Prop :=
  firstInstant ≤ instant ∧ instant ≤ lastInstant

instance : DecidablePred InCalendar :=
  fun _ => inferInstanceAs (Decidable (_ ∧ _))

/-- An epoch and a time of which the words add up as the numbers do. -/
structure ExactSum (epoch : Int) (timestamp : Nat) : Prop where
  /-- The epoch is a word. -/
  epoch_eq : (Int64.ofInt epoch).toInt = epoch
  /-- So is the time. -/
  timestamp_eq : (Int64.ofNat timestamp).toInt = timestamp
  /-- Their sum is not cut off. -/
  sum_eq : (Int64.ofInt epoch + Int64.ofNat timestamp).toInt = epoch + timestamp
  /-- It is not before the calendar. -/
  first_le : firstInstant ≤ epoch + timestamp

/-- An epoch of 48 bits and a sign can be added to any time of 62 bits. -/
theorem exactSum_of_lt {epoch : Int} {timestamp : Nat} (hlow : -2 ^ 48 < epoch)
    (hhigh : epoch < 2 ^ 48) (ht : timestamp < 2 ^ 62) : ExactSum epoch timestamp where
  epoch_eq := Int64.toInt_ofInt_of_le (by omega) (by omega)
  timestamp_eq := Int64.toInt_ofNat_of_lt (by omega)
  sum_eq := by
    rw [← Int64.ofInt_eq_ofNat, ← Int64.ofInt_add]
    exact Int64.toInt_ofInt_of_le (by omega) (by omega)
  first_le := by
    rw [firstInstant]
    omega

/-- An identifier shows the time of the reading that settled its call. -/
theorem timestamp_of_settledAt {g : Generator} {reading : Int} {id : Int64}
    (hroom : ¬ g.Exhausted reading) (hid : (g.settledAt (g.elapsed reading)).1 = .ok id) :
    ((g.layout.decompose id).timestamp : Int) = g.elapsed reading := by
  rw [settledAt, nextAt] at hid
  split at hid
  case isTrue => cases hid
  case isFalse hahead =>
    rw [issue] at hid
    split at hid
    case isTrue => cases hid
    case isFalse hm =>
      have hsequence : (if g.elapsed reading = g.last then g.sequence + 1 else 0) ≤
          g.layout.maxSequence := by
        split
        case isTrue hsame =>
          by_contra hfull
          exact hroom ⟨hsame, by omega, by omega⟩
        case isFalse => exact Nat.zero_le _
      have hfits : g.layout.Fits ⟨(g.elapsed reading).toNat, g.worker,
          if g.elapsed reading = g.last then g.sequence + 1 else 0⟩ :=
        ⟨by dsimp only; omega, g.worker_le, hsequence⟩
      obtain rfl := Except.ok.inj hid
      rw [hfits.decompose_compose]
      dsimp only
      omega

/-- Generators that count from the same epoch in the same layout date identifiers alike. -/
theorem createdAt_congr {g asked : Generator} (hlayout : asked.layout = g.layout)
    (hepoch : asked.epoch = g.epoch) (id : Int64) : asked.createdAt id = g.createdAt id := by
  rw [createdAt, hlayout, hepoch]
  rfl

/-- A call that is settled by a reading with a calendar date issues an identifier that was created
then. -/
theorem createdAt_of_settledBy {c : Call} {passed : List Int} {reading : Int} {id : Int64}
    (hs : c.SettledBy passed reading) (hid : c.answer = .ok id) (hr : InCalendar reading)
    (hlow : -2 ^ 48 < c.found.epoch) (hhigh : c.found.epoch < 2 ^ 48) :
    c.found.createdAt id = some reading := by
  obtain ⟨hfirst, hlast⟩ := hr
  have htime := timestamp_of_settledAt hs.settling (hs.answer_eq.symm.trans hid)
  have helapsed : c.found.elapsed reading = reading - c.found.epoch := by
    rw [firstInstant] at hfirst
    rw [lastInstant] at hlast
    exact c.found.elapsed_eq (by omega) (by omega)
  have hinstant : c.found.epoch + ((c.found.layout.decompose id).timestamp : Int) = reading := by
    rw [htime, helapsed]
    omega
  rw [createdAt, hinstant, if_pos hlast]

/-- An epoch that was read from a text takes 48 bits and a sign. -/
theorem epoch_bounds_of_start {g : Generator} {layout : Layout} {worker : Nat} {epoch : String}
    {clock rest : Clock} (hs : start layout worker epoch clock = .ok (g, rest)) :
    -2 ^ 48 < g.epoch ∧ g.epoch < 2 ^ 48 := by
  obtain ⟨time, fits, hparse, rfl⟩ := eq_of_start hs
  exact time.millis_bounds (Timestamp.year_lt_of_parse hparse)

/-- **The time of an identifier is exact.** In every layout, the epoch of any text that is a time
and the time in any identifier, a negative one too, add up without being cut off. And from the
moment a generator is set up, on any clock of which all readings that its calls take have calendar
dates, an identifier that is issued was created, says every generator with the same layout and
epoch, at the very reading that settled its call. On a clock that steps the run is the running
one. -/
theorem created_at_is_exact (layout : Layout) :
    (∀ (epoch : String) (time : Timestamp), Timestamp.parse epoch = .ok time →
      ∀ id : Int64, ExactSum time.millis (layout.decompose id).timestamp) ∧
    ∀ (worker : Nat) (epoch : String) (clock rest : Clock) (g : Generator),
      start layout worker epoch clock = .ok (g, rest) → ∀ calls,
      (∀ readings made, log calls g readings = .some made →
        (∀ r ∈ readingsOf made, InCalendar r) →
        ∀ c ∈ made, ∀ id, c.answer = .ok id → ∃ passed reading, c.SettledBy passed reading ∧
          ∀ asked : Generator, asked.layout = layout → asked.epoch = g.epoch →
            asked.createdAt id = some reading) ∧
      ∃ made, log calls g rest.stream = .some made ∧
        made.map Call.answer = answers calls g rest := by
  refine ⟨fun epoch time hparse id => ?_, fun worker epoch clock rest g hs calls =>
    ⟨fun readings made hl hcalendar c hc id hid => ?_, log_stream calls g rest⟩⟩
  · obtain ⟨hlow, hhigh⟩ := time.millis_bounds (Timestamp.year_lt_of_parse hparse)
    exact exactSum_of_lt hlow hhigh (layout.timestamp_decompose_lt id)
  · obtain ⟨hrun, -, -⟩ := log_eq_some_iff.1 hl
    obtain ⟨passed, reading, hsettled⟩ := hrun.settled c hc
    obtain ⟨hlayout, hepoch⟩ := hrun.kept c hc
    obtain ⟨hlow, hhigh⟩ := epoch_bounds_of_start hs
    have hdate : InCalendar reading :=
      hcalendar reading (List.mem_flatMap.2 ⟨c, hc, hsettled.reading_mem⟩)
    refine ⟨passed, reading, hsettled, fun asked hasked hsame => ?_⟩
    rw [createdAt_congr (g := c.found) (by rw [hasked, hlayout, layout_of_start hs])
      (by rw [hsame, hepoch])]
    exact createdAt_of_settledBy hsettled hid hdate (hepoch ▸ hlow) (hepoch ▸ hhigh)

/-- A generator with the widest time, which it counts from the earliest midnight that can be
written. -/
def ancient (last : Int) (sequence : Nat) : Generator :=
  ⟨narrow, -62167305540000, 1, one_le_maxWorker_narrow, last, sequence⟩

/-- Its calls on a clock that stands still for three readings and then moves. The third one waits
for that. -/
def vigil : List Call :=
  [⟨ancient (-1) 0, [-62167305539993], .ok 30, ancient 7 0⟩,
    ⟨ancient 7 0, [-62167305539993], .ok 31, ancient 7 1⟩,
    ⟨ancient 7 1, [-62167305539993, -62167305539990], .ok 42, ancient 10 0⟩]

/-- The calls go as their readings say. -/
theorem run_vigil : Run (ancient (-1) 0) vigil := by
  have hfirst : Call.Settled ⟨ancient (-1) 0, [-62167305539993], .ok 30, ancient 7 0⟩ :=
    ⟨[], _, rfl, by decide, by decide, rfl, rfl⟩
  have hsecond : Call.Settled ⟨ancient 7 0, [-62167305539993], .ok 31, ancient 7 1⟩ :=
    ⟨[], _, rfl, by decide, by decide, rfl, rfl⟩
  have hwaiting : Call.Settled ⟨ancient 7 1, [-62167305539993, -62167305539990], .ok 42,
      ancient 10 0⟩ :=
    ⟨[_], _, rfl, by decide, by decide, rfl, rfl⟩
  exact .cons hfirst (.cons hsecond (.cons hwaiting (.nil _)))

/-- The identifier with all bits set has the greatest time, and the sum is still a word. The third
identifier was created when the clock moved. -/
theorem created_at_is_exact_of_vigil :
    (narrow.decompose (-1)).timestamp = 2 ^ 62 - 1 ∧
    (Int64.ofInt (-62167305540000) + Int64.ofNat (2 ^ 62 - 1)).toInt = 4611623851121847903 ∧
    start narrow 1 "0000-01-01T00:00:00+23:59" ⟨[-62167305539999], 0⟩ =
      .ok (ancient (-1) 0, ⟨[], -62167305539999⟩) ∧
    log 3 (ancient (-1) 0) ([-62167305539993, -62167305539993, -62167305539993] ++ₛ
      Stream'.const (-62167305539990)) = .some vigil ∧
    (∀ r ∈ readingsOf vigil, InCalendar r) ∧
    (ancient 10 0).createdAt 42 = some (-62167305539990) := by
  have hs : start narrow 1 "0000-01-01T00:00:00+23:59" ⟨[-62167305539999], 0⟩ =
      .ok (ancient (-1) 0, ⟨[], -62167305539999⟩) := rfl
  have hl : log 3 (ancient (-1) 0) ([-62167305539993, -62167305539993, -62167305539993] ++ₛ
      Stream'.const (-62167305539990)) = .some vigil :=
    log_eq_some_iff.2 ⟨run_vigil, rfl, rfl⟩
  have hcalendar : ∀ r ∈ readingsOf vigil, InCalendar r := by decide
  have hall : (narrow.decompose (-1)).timestamp = 2 ^ 62 - 1 := by decide
  obtain ⟨hsum, hcreated⟩ := created_at_is_exact narrow
  obtain ⟨time, fits, hparse, hg⟩ := eq_of_start hs
  have hepoch : time.millis = -62167305540000 := (congrArg Generator.epoch hg).symm
  have hexact := (hsum _ _ hparse (-1)).sum_eq
  rw [hall, hepoch] at hexact
  obtain ⟨passed, reading, hsettled, hasked⟩ :=
    (hcreated 1 _ _ _ _ hs 3).1 _ vigil hl hcalendar _ (List.getLast_mem (by decide)) 42 rfl
  have hreading : reading = -62167305539990 := by
    have hlast := congrArg List.getLast? hsettled.readings_eq
    rw [List.getLast?_concat] at hlast
    exact (Option.some.inj hlast).symm
  refine ⟨hall, hexact.trans (by decide), hs, hl, hcalendar, ?_⟩
  rw [hasked (ancient 10 0) rfl rfl, hreading]

end Generator

end Forum.Identifier
