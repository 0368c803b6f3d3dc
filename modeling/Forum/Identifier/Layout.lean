/-!
# Layouts of identifiers

What identifiers are made of, and why they cannot be issued.
-/

namespace Forum.Identifier

/-! ## Identifier errors

Why a generator cannot be set up, or cannot issue an identifier. Only a clock that ran backwards
passes by itself; the other causes stay. -/

/-- What went wrong with identifiers. -/
inductive Error where
  /-- The worker number does not fit the layout. -/
  | invalidWorker (worker max : Nat)
  /-- The epoch is not a time, or not yet reached. -/
  | invalidEpoch (reason : String)
  /-- The widths of the fields do not make up an identifier. -/
  | invalidLayout (reason : String)
  /-- The clock shows an earlier time than the last identifier, or one before the epoch. Both are
  in milliseconds since the epoch. -/
  | clockSkew (last now : Int)
  /-- The time since the epoch no longer fits the layout. -/
  | timestampOverflow
  deriving DecidableEq, Repr

/-- The wording of an error. -/
def Error.message : Error → String
  | .invalidWorker worker max => s!"Worker number {worker} outside [0, {max}]"
  | .invalidEpoch reason => s!"Invalid epoch: {reason}"
  | .invalidLayout reason => s!"Invalid layout: {reason}"
  | .clockSkew last now => s!"Clock moved backwards: last issued at {last}ms, now {now}ms"
  | .timestampOverflow => "Timestamp overflow: epoch anchor exhausted"

/-- Whether the cause passes by itself. -/
def Error.isRetryable : Error → Bool
  | .clockSkew .. => true
  | _ => false

/-! ## Identifier layouts

An identifier is a signed 64-bit number. Below its sign bit lie, from high to low, the
milliseconds since an epoch, the number of the worker that issued it, and a sequence number within
the millisecond. A layout says how many of the 63 bits each field takes; every field takes at
least one. `Layout.compose` puts an identifier together from its parts and `Layout.decompose`
takes one apart, reading a negative identifier as the unsigned number with the same bits. -/

-- Powers of numbers are the built-in ones, whatever else is in scope.
attribute [local instance (high)] instPowNat

/-- The widths of the three fields. -/
structure Layout where
  /-- Bits for the milliseconds since the epoch. -/
  timestampBits : Nat
  /-- Bits for the worker number. -/
  workerBits : Nat
  /-- Bits for the sequence number. -/
  sequenceBits : Nat
  /-- There is room for a time. -/
  timestampBits_pos : 0 < timestampBits
  /-- There is room for two workers. -/
  workerBits_pos : 0 < workerBits
  /-- There is room for two identifiers in a millisecond. -/
  sequenceBits_pos : 0 < sequenceBits
  /-- The fields fill everything below the sign. -/
  total : timestampBits + workerBits + sequenceBits = 63
  deriving DecidableEq, Repr

namespace Layout

/-- The usual widths: 41 bits of time, 10 of worker number and 12 of sequence. -/
def standard : Layout :=
  ⟨41, 10, 12, by decide, by decide, by decide, by decide⟩

/-- The layout with the given widths. An empty field is reported before a wrong sum. -/
def ofBits (timestampBits workerBits sequenceBits : Nat) : Except Error Layout :=
  if positive : 0 < timestampBits ∧ 0 < workerBits ∧ 0 < sequenceBits then
    if total : timestampBits + workerBits + sequenceBits = 63 then
      .ok ⟨timestampBits, workerBits, sequenceBits, positive.1, positive.2.1, positive.2.2, total⟩
    else
      .error (.invalidLayout
        s!"fields use {timestampBits + workerBits + sequenceBits} bits, expected 63")
  else .error (.invalidLayout "every field needs at least one bit")

/-- The last millisecond that fits. -/
def maxTimestamp (l : Layout) : Nat :=
  2 ^ l.timestampBits - 1

/-- The greatest worker number. -/
def maxWorker (l : Layout) : Nat :=
  2 ^ l.workerBits - 1

/-- The greatest sequence number. -/
def maxSequence (l : Layout) : Nat :=
  2 ^ l.sequenceBits - 1

end Layout

/-- What an identifier is made of. -/
structure Parts where
  /-- Milliseconds since the epoch. -/
  timestamp : Nat
  /-- The worker that issued it. -/
  worker : Nat
  /-- Its place within the millisecond. -/
  sequence : Nat
  deriving DecidableEq, Repr

namespace Layout

/-- The identifier with the given parts. -/
def compose (l : Layout) (p : Parts) : Int64 :=
  Int64.ofNat ((p.timestamp * 2 ^ l.workerBits + p.worker) * 2 ^ l.sequenceBits + p.sequence)

/-- The parts of an identifier. -/
def decompose (l : Layout) (id : Int64) : Parts :=
  let bits := id.toUInt64.toNat
  ⟨bits / 2 ^ l.sequenceBits / 2 ^ l.workerBits,
    bits / 2 ^ l.sequenceBits % 2 ^ l.workerBits,
    bits % 2 ^ l.sequenceBits⟩

example : standard.decompose (standard.compose ⟨1, 2, 3⟩) = ⟨1, 2, 3⟩ := by decide

end Layout

end Forum.Identifier
