import Forum.Identifier.Layout
import Forum.Time.Timestamp

/-!
# Clocks and generators

How identifiers are issued with the time that a clock shows.
-/

namespace Forum.Identifier

/-! ## Clocks

A clock as the readings it is going to give, in milliseconds since the start of 1970. The readings
may repeat and go backwards. After the last one that is known the clock steps by one millisecond
per reading, so waiting for it to move always ends: `Clock.firstOther` is the first reading that
differs from what has been seen, and what is left of the clock after it. -/

/-- The readings to come. -/
structure Clock where
  /-- The readings that are known, next one first. -/
  pending : List Int
  /-- The reading before them. -/
  last : Int
  deriving DecidableEq, Repr

namespace Clock

/-- A clock that steps from the given time on. -/
def ticking (last : Int) : Clock :=
  ⟨[], last⟩

/-- The next reading. -/
def tick (c : Clock) : Int × Clock :=
  match c.pending with
  | [] => (c.last + 1, ⟨[], c.last + 1⟩)
  | r :: rest => (r, ⟨rest, r⟩)

/-- The first reading that is not like the ones passed over, which are all those that satisfy
`seen`. Of two readings that differ by one at most one may satisfy it. -/
def firstOtherFrom (seen : Int → Bool) : List Int → Int → Int × Clock
  | [], last =>
    if seen (last + 1) then (last + 2, ticking (last + 2)) else (last + 1, ticking (last + 1))
  | r :: rest, _ => if seen r then firstOtherFrom seen rest r else (r, ⟨rest, r⟩)

/-- The first reading that does not satisfy `seen`, and the clock after it. -/
def firstOther (seen : Int → Bool) (c : Clock) : Int × Clock :=
  firstOtherFrom seen c.pending c.last

end Clock

/-! ## Identifier generators

A generator issues identifiers that grow strictly in the order of the calls. It holds the time of
the last identifier and its sequence number; a call that fails changes neither. When the clock
runs behind the last identifier the call fails instead of repeating one, and when all sequence
numbers of a millisecond are used up it waits until the clock moves. Two generators with different
worker numbers never issue the same identifier, because the number is one of its fields. -/

-- Powers of numbers are the built-in ones, whatever else is in scope.
attribute [local instance (high)] instPowNat

/-- A generator. Times are in milliseconds. -/
structure Generator where
  /-- The widths of the fields. -/
  layout : Layout
  /-- The time from which timestamps count. -/
  epoch : Int
  /-- The number of this worker. -/
  worker : Nat
  /-- The number fits its field. -/
  worker_le : worker ≤ layout.maxWorker
  /-- The timestamp of the last identifier, -1 before the first. -/
  last : Int
  /-- The sequence number of the last identifier. -/
  sequence : Nat

namespace Generator

/-- A generator that counts from 1970 and has issued nothing. -/
def unused : Generator :=
  ⟨.standard, 0, 1, by decide, -1, 0⟩

/-- Sets up a generator. The worker number is checked first, then the epoch, and only for an epoch
that is a time is the clock read. -/
def start (layout : Layout) (worker : Nat) (epoch : String) (clock : Clock) :
    Except Error (Generator × Clock) :=
  if fits : worker ≤ layout.maxWorker then
    match Timestamp.parse epoch with
    | .error problem => .error (.invalidEpoch s!"{epoch}: {problem.message}")
    | .ok time =>
      if clock.tick.1 < time.millis then .error (.invalidEpoch s!"{epoch} is in the future")
      else .ok (⟨layout, time.millis, worker, fits, -1, 0⟩, clock.tick.2)
  else .error (.invalidWorker worker layout.maxWorker)

/-- The time since the epoch at a reading of the clock, as a signed number of 64 bits. -/
def elapsed (g : Generator) (reading : Int) : Int :=
  (reading - g.epoch).bmod (2 ^ (64 : Nat))

/-- Waits until the clock shows another time than that of the last identifier. A later time is the
answer; an earlier one is an error. -/
def wait (g : Generator) (clock : Clock) : Except Error Int × Clock :=
  let (reading, clock) := clock.firstOther fun r => g.elapsed r = g.last
  let now := g.elapsed reading
  (if g.last < now then .ok now else .error (.clockSkew g.last now), clock)

/-- The timestamp and the sequence number of the next identifier. Within the millisecond of the
last one the sequence goes on, and after its greatest number the clock has to move. -/
def next (g : Generator) (clock : Clock) : Except Error (Int × Nat) × Clock :=
  let (reading, clock) := clock.tick
  let now := g.elapsed reading
  if now < g.last ∨ now < 0 then (.error (.clockSkew g.last now), clock)
  else if now = g.last then
    if g.sequence < g.layout.maxSequence then (.ok (now, g.sequence + 1), clock)
    else
      let (later, clock) := g.wait clock
      (later.map (·, 0), clock)
  else (.ok (now, 0), clock)

/-- Issues an identifier. -/
def generate (g : Generator) (clock : Clock) : Except Error Int64 × Generator × Clock :=
  match g.next clock with
  | (.error e, clock) => (.error e, g, clock)
  | (.ok (timestamp, sequence), clock) =>
    if g.layout.maxTimestamp < timestamp then (.error .timestampOverflow, g, clock)
    else
      (.ok (g.layout.compose ⟨timestamp.toNat, g.worker, sequence⟩),
        { g with last := timestamp, sequence := sequence }, clock)

/-- The last instant that has a calendar date, in milliseconds since 1970. -/
def lastInstant : Int := 8210266876799999

/-- The time at which an identifier was issued, in milliseconds since 1970, if the calendar goes
that far. -/
def createdAt (g : Generator) (id : Int64) : Option Int :=
  let instant := g.epoch + (g.layout.decompose id).timestamp
  if instant ≤ lastInstant then some instant else none

end Generator

end Forum.Identifier
