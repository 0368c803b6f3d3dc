import Mathlib
import Forum.Identifier.Generator
import Forum.Proofs.Identifier.Encoding

/-!
# Identifiers grow in the order of the calls

What one call of a generator can do, and what follows for any number of them, whatever the clock
shows.
-/

/-! ## One call

What a call can do, whatever the clock shows: it fails and leaves the generator as it was, or it
issues the identifier of a later millisecond, or the next one of the same millisecond. The number of
the last identifier is a floor that a successful call leaves behind and moves up to its own. -/

namespace Forum.Identifier.Generator

variable {g g' : Generator} {clock clock' : Clock}

/-- The parts of the last identifier. -/
def parts (g : Generator) : Parts :=
  ⟨g.last.toNat, g.worker, g.sequence⟩

/-- The times and sequence numbers that may follow the last identifier. -/
def Follows (g : Generator) (time : Int) (sequence : Nat) : Prop :=
  g.last < time ∧ sequence = 0 ∨
    time = g.last ∧ g.sequence < g.layout.maxSequence ∧ sequence = g.sequence + 1

/-- Waiting that succeeds ends at a later time. -/
theorem lt_of_wait {time : Int} (hw : g.wait clock = (.ok time, clock')) : g.last < time := by
  unfold wait at hw
  dsimp only at hw
  split at hw
  case isTrue hlt =>
    obtain ⟨rfl, rfl⟩ := by simpa only [Prod.mk.injEq, Except.ok.injEq] using hw
    exact hlt
  case isFalse => cases hw

/-- What comes next is no earlier than the epoch and follows the last identifier. -/
theorem follows_of_next {time : Int} {sequence : Nat}
    (hn : g.next clock = (.ok (time, sequence), clock')) : 0 ≤ time ∧ g.Follows time sequence := by
  unfold next at hn
  dsimp only at hn
  split at hn
  case isTrue => cases hn
  case isFalse hb =>
    split at hn
    case isTrue hsame =>
      split at hn
      case isTrue hroom =>
        obtain ⟨⟨rfl, rfl⟩, rfl⟩ := by simpa only [Prod.mk.injEq, Except.ok.injEq] using hn
        exact ⟨by omega, Or.inr ⟨hsame, hroom, rfl⟩⟩
      case isFalse =>
        -- The wait began at the time of the last identifier, which is not negative.
        generalize hw : g.wait clock.tick.2 = waited at hn
        obtain ⟨_ | later, after⟩ := waited
        · cases hn
        · have hlt := lt_of_wait hw
          obtain ⟨⟨rfl, rfl⟩, rfl⟩ := by
            simpa only [Except.map, Prod.mk.injEq, Except.ok.injEq] using hn
          exact ⟨by omega, Or.inl ⟨hlt, rfl⟩⟩
    case isFalse hother =>
      obtain ⟨⟨rfl, rfl⟩, rfl⟩ := by simpa only [Prod.mk.injEq, Except.ok.injEq] using hn
      exact ⟨by omega, Or.inl ⟨by omega, rfl⟩⟩

/-- What a call can answer and leave. -/
inductive Outcome (g : Generator) : Except Error Int64 → Generator → Prop
  /-- A failed call changes nothing. -/
  | failed (e : Error) : Outcome g (.error e) g
  /-- A successful one answers with the parts that it leaves. -/
  | issued (time : Int) (sequence : Nat) (ht : 0 ≤ time) (hm : time ≤ g.layout.maxTimestamp)
      (hf : g.Follows time sequence) :
      Outcome g (.ok (g.layout.compose ⟨time.toNat, g.worker, sequence⟩))
        { g with last := time, sequence := sequence }

/-- No call does anything else. -/
theorem outcome_generate (g : Generator) (clock : Clock) :
    Outcome g (g.generate clock).1 (g.generate clock).2.1 := by
  unfold generate
  split
  case h_1 e _ _ => exact .failed e
  case h_2 time sequence _ hn =>
    obtain ⟨ht, hf⟩ := follows_of_next hn
    split
    case isTrue => exact .failed .timestampOverflow
    case isFalse hm => exact .issued time sequence ht (by omega) hf

theorem eq_of_failed {e : Error} (ho : Outcome g (.error e) g') : g' = g := by
  cases ho
  rfl

/-- What holds of a generator between calls. -/
structure Sound (g : Generator) : Prop where
  /-- The time of the last identifier fits its field. -/
  last_le : g.last ≤ g.layout.maxTimestamp
  /-- The sequence number does. -/
  sequence_le : g.sequence ≤ g.layout.maxSequence

/-- The parts of the last identifier fit the layout. -/
theorem Sound.fits (hg : g.Sound) : g.layout.Fits g.parts where
  timestamp_le := by
    have hl := hg.last_le
    simp only [parts]
    omega
  worker_le := g.worker_le
  sequence_le := hg.sequence_le

/-- Calls keep a generator sound. -/
theorem Sound.of_outcome {answer : Except Error Int64} (hg : g.Sound) (ho : Outcome g answer g') :
    g'.Sound := by
  cases ho with
  | failed e => exact hg
  | issued time sequence ht hm hf =>
    refine ⟨hm, ?_⟩
    rcases hf with ⟨_, rfl⟩ | ⟨_, hroom, rfl⟩
    · exact Nat.zero_le _
    · exact hroom

/-- The number of the last identifier, and -1 before the first. -/
def floor (g : Generator) : Int :=
  if g.last < 0 then -1 else g.layout.code g.parts

/-- No identifier is below the floor of a new generator. -/
theorem neg_one_le_floor (g : Generator) : -1 ≤ g.floor := by
  unfold floor
  split <;> omega

/-- An identifier is above the floor that its call found, and is the floor that it leaves. -/
theorem Sound.floor_lt {id : Int64} (hg : g.Sound) (ho : Outcome g (.ok id) g') :
    g.floor < id.toInt ∧ g'.floor = id.toInt := by
  have hg' := hg.of_outcome ho
  cases ho with
  | issued time sequence ht hm hf =>
    have hid := hg'.fits.toInt_compose
    have hfloor : floor { g with last := time, sequence := sequence } =
        g.layout.code ⟨time.toNat, g.worker, sequence⟩ := if_neg (by simpa using ht)
    refine ⟨?_, hfloor.trans hid.symm⟩
    refine lt_of_lt_of_eq ?_ hid.symm
    unfold floor
    split
    case isTrue => exact lt_of_lt_of_le (by decide) (Int.natCast_nonneg _)
    case isFalse hl =>
      have hlt : g.parts.Precedes ⟨time.toNat, g.worker, sequence⟩ := by
        rcases hf with ⟨hlater, _⟩ | ⟨rfl, _, rfl⟩
        · exact Or.inl (by simp only [parts]; omega)
        · exact Or.inr ⟨rfl, Or.inr ⟨rfl, Nat.lt_succ_self _⟩⟩
      exact Int.ofNat_lt.2 ((hg.fits.code_lt_code_iff hg'.fits).2 hlt)

end Forum.Identifier.Generator

/-! ## Any number of calls

Any number of calls of one generator, one after the other, on any clock. The readings that a run
sees are a list of any numbers: they may stand still, jump ahead or go back, also while a call waits
for the next millisecond, and calls may fail between others that succeed. -/

namespace Forum.Identifier.Generator

variable {g : Generator}

/-- The answers of a number of calls. -/
def answers : Nat → Generator → Clock → List (Except Error Int64)
  | 0, _, _ => []
  | calls + 1, g, clock =>
    let (answer, g, clock) := g.generate clock
    answer :: answers calls g clock

/-- The identifiers among them. -/
def issued (calls : Nat) (g : Generator) (clock : Clock) : List Int64 :=
  (answers calls g clock).filterMap Except.toOption

theorem issued_succ (calls : Nat) (g : Generator) (clock : Clock) :
    issued (calls + 1) g clock = (g.generate clock).1.toOption.toList ++
      issued calls (g.generate clock).2.1 (g.generate clock).2.2 := by
  unfold issued
  rw [answers, List.filterMap_cons]
  cases (g.generate clock).1.toOption <;> rfl

/-- All identifiers of a run lie above the floor it starts from, and each is above those before. -/
theorem Sound.issued_above (hg : g.Sound) (calls : Nat) (clock : Clock) :
    (∀ id ∈ issued calls g clock, g.floor < id.toInt) ∧
      (issued calls g clock).Pairwise (· < ·) := by
  induction calls generalizing g clock with
  | zero => exact ⟨fun _ hid => absurd hid List.not_mem_nil, List.Pairwise.nil⟩
  | succ calls ih =>
    have ho := outcome_generate g clock
    have hg' := hg.of_outcome ho
    obtain ⟨habove, hgrow⟩ := ih hg' (g.generate clock).2.2
    rw [issued_succ]
    cases ha : (g.generate clock).1 with
    | error e =>
      rw [ha] at ho
      rw [eq_of_failed ho] at habove hgrow ⊢
      exact ⟨habove, hgrow⟩
    | ok id =>
      rw [ha] at ho
      obtain ⟨hlt, hfloor⟩ := hg.floor_lt ho
      rw [hfloor] at habove
      refine ⟨?_, List.pairwise_cons.2 ⟨fun later hl => ?_, hgrow⟩⟩
      · intro other hother
        rcases List.mem_cons.1 hother with rfl | hrest
        · exact hlt
        · exact hlt.trans (habove other hrest)
      · exact Int64.lt_iff_toInt_lt.2 (habove later hl)

/-- A generator that has been set up has the layout, the epoch and the worker number that were asked
for, and has issued nothing. -/
theorem eq_of_start {layout : Layout} {worker : Nat} {epoch : String} {clock rest : Clock}
    (hs : start layout worker epoch clock = .ok (g, rest)) :
    ∃ (time : Timestamp) (fits : worker ≤ layout.maxWorker),
      Timestamp.parse epoch = .ok time ∧ g = ⟨layout, time.millis, worker, fits, -1, 0⟩ := by
  unfold start at hs
  split at hs
  case isFalse => cases hs
  case isTrue fits =>
    split at hs
    case h_1 => cases hs
    case h_2 time hparse =>
      split at hs
      case isTrue => cases hs
      case isFalse =>
        obtain ⟨rfl, _⟩ := by simpa only [Except.ok.injEq, Prod.mk.injEq] using hs
        exact ⟨time, fits, hparse, rfl⟩

/-- A generator that has been set up is sound. -/
theorem sound_of_start {layout : Layout} {worker : Nat} {epoch : String} {clock rest : Clock}
    (hs : start layout worker epoch clock = .ok (g, rest)) : g.Sound := by
  obtain ⟨time, fits, -, rfl⟩ := eq_of_start hs
  exact ⟨(by decide : (-1 : Int) ≤ 0).trans (Int.natCast_nonneg _), Nat.zero_le _⟩

/-- From the moment a generator is set up its identifiers are non-negative and grow strictly from
call to call. -/
theorem issued_increasing {layout : Layout} {worker : Nat} {epoch : String} {clock rest : Clock}
    (hs : start layout worker epoch clock = .ok (g, rest)) (calls : Nat) :
    (∀ id ∈ issued calls g rest, 0 ≤ id) ∧ (issued calls g rest).Pairwise (· < ·) := by
  obtain ⟨habove, hgrow⟩ := (sound_of_start hs).issued_above calls rest
  refine ⟨fun id hid => ?_, hgrow⟩
  have hlt := habove id hid
  have hfloor := g.neg_one_le_floor
  rw [Int64.le_iff_toInt_le, Int64.toInt_zero]
  omega

/-- A layout with room for two identifiers of a worker in a millisecond. -/
def narrow : Layout :=
  ⟨61, 1, 1, by decide, by decide, by decide, by decide⟩

/-- It has room for a worker with the number one. -/
theorem one_le_maxWorker_narrow : 1 ≤ narrow.maxWorker := by decide

/-- A generator of this layout that counts from 1970. -/
def first : Generator :=
  ⟨narrow, 0, 1, one_le_maxWorker_narrow, -1, 0⟩

/-- On a clock that goes back twice, once while a call waits, three calls of five succeed. -/
theorem issued_increasing_of_skew :
    start narrow 1 "1970-01-01T00:00:00Z" ⟨[0, 5, 5, 5, 5, 4, 3, 6], 0⟩ =
      .ok (first, ⟨[5, 5, 5, 5, 4, 3, 6], 0⟩) ∧
    issued 5 first ⟨[5, 5, 5, 5, 4, 3, 6], 0⟩ = [22, 23, 26] ∧
    (issued 5 first ⟨[5, 5, 5, 5, 4, 3, 6], 0⟩).Pairwise (· < ·) := by
  have hs : start narrow 1 "1970-01-01T00:00:00Z" ⟨[0, 5, 5, 5, 5, 4, 3, 6], 0⟩ =
      .ok (first, ⟨[5, 5, 5, 5, 4, 3, 6], 0⟩) := rfl
  exact ⟨hs, by decide, (issued_increasing hs 5).2⟩

end Forum.Identifier.Generator
