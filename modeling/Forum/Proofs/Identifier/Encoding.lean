import Mathlib
import Forum.Identifier.Layout
import Forum.Proofs.Text.Numeral

/-!
# Identifiers and their parts

An identifier is a number with its three fields side by side, and a word with a bit for each bit of
its parts. Read either way, it has its parts and no others.
-/

/-! ## Identifiers as numbers

The number that an identifier shows, with its three fields side by side. Parts that fit the layout
stay below the sign bit, so the number of an identifier made of them is never negative, no field
spills into another, and two such numbers compare as the parts do: by time, then by worker, then by
sequence. -/

namespace Forum.Identifier

/-- Whether parts come earlier: by time, then by worker, then by sequence. -/
def Parts.Precedes (p q : Parts) : Prop :=
  p.timestamp < q.timestamp ∨ p.timestamp = q.timestamp ∧
    (p.worker < q.worker ∨ p.worker = q.worker ∧ p.sequence < q.sequence)

namespace Layout

variable {l : Layout} {p q : Parts}

/-- Parts that stay within their fields. -/
structure Fits (l : Layout) (p : Parts) : Prop where
  /-- The time does. -/
  timestamp_le : p.timestamp ≤ l.maxTimestamp
  /-- The worker number does. -/
  worker_le : p.worker ≤ l.maxWorker
  /-- The sequence number does. -/
  sequence_le : p.sequence ≤ l.maxSequence

/-- The parts as one number. -/
def code (l : Layout) (p : Parts) : Nat :=
  (p.timestamp * 2 ^ l.workerBits + p.worker) * 2 ^ l.sequenceBits + p.sequence

theorem compose_eq (l : Layout) (p : Parts) : l.compose p = Int64.ofNat (l.code p) :=
  rfl

/-- At most the greatest number of a field is less than the number of its values. -/
private theorem lt_two_pow_of_le {n bits : Nat} (hn : n ≤ 2 ^ bits - 1) : n < 2 ^ bits := by
  have hp : 0 < 2 ^ bits := Nat.two_pow_pos bits
  omega

theorem Fits.timestamp_lt (hp : l.Fits p) : p.timestamp < 2 ^ l.timestampBits :=
  lt_two_pow_of_le hp.timestamp_le

theorem Fits.worker_lt (hp : l.Fits p) : p.worker < 2 ^ l.workerBits :=
  lt_two_pow_of_le hp.worker_le

theorem Fits.sequence_lt (hp : l.Fits p) : p.sequence < 2 ^ l.sequenceBits :=
  lt_two_pow_of_le hp.sequence_le

/-- Parts that fit leave the sign bit alone. -/
theorem Fits.code_lt (hp : l.Fits p) : l.code p < 2 ^ 63 := by
  have hb : 2 ^ 63 = 2 ^ l.timestampBits * 2 ^ l.workerBits * 2 ^ l.sequenceBits := by
    rw [← l.total, Nat.pow_add, Nat.pow_add]
  have hw : p.timestamp * 2 ^ l.workerBits + p.worker < 2 ^ l.timestampBits * 2 ^ l.workerBits :=
    Positional.lt_mul hp.timestamp_lt hp.worker_lt
  rw [hb]
  exact Positional.lt_mul hw hp.sequence_lt

/-- The identifier shows the number of its parts. -/
theorem Fits.toInt_compose (hp : l.Fits p) : (l.compose p).toInt = l.code p := by
  rw [compose_eq, Int64.toInt_ofNat_of_lt hp.code_lt]

/-- Taking an identifier apart gives the parts it was made of. -/
theorem Fits.decompose_compose (hp : l.Fits p) : l.decompose (l.compose p) = p := by
  have hbits : (l.compose p).toUInt64.toNat = l.code p := by
    have hlt : l.code p < UInt64.size := hp.code_lt.trans (by decide)
    rw [compose_eq, Int64.toUInt64_ofNat', UInt64.toNat_ofNat_of_lt' hlt]
  have hhigh : l.code p / 2 ^ l.sequenceBits = p.timestamp * 2 ^ l.workerBits + p.worker :=
    Positional.div_eq hp.sequence_lt
  have hlow : l.code p % 2 ^ l.sequenceBits = p.sequence :=
    Nat.mul_add_mod_of_lt hp.sequence_lt
  rw [decompose, hbits, hhigh, hlow, Positional.div_eq hp.worker_lt,
    Nat.mul_add_mod_of_lt hp.worker_lt]

/-- Numbers compare as their parts do. -/
theorem Fits.code_lt_code_iff (hp : l.Fits p) (hq : l.Fits q) :
    l.code p < l.code q ↔ p.Precedes q := by
  unfold code Parts.Precedes
  rw [Positional.lt_iff hp.sequence_lt hq.sequence_lt,
    Positional.lt_iff hp.worker_lt hq.worker_lt, Positional.eq_iff hp.worker_lt hq.worker_lt]
  tauto

end Layout

end Forum.Identifier

/-! ## Identifiers as words

An identifier has one bit for each bit of its parts: the sequence number lies lowest, the worker
number above it, and the time above both. Taking an identifier apart is shifting and masking, and
putting one together is shifting and joining, so nothing is lost either way. Only the time has a bit
more than its field, the sign, which is set in negative identifiers. Without it the parts stay
within their fields, and identifiers compare as their parts do. -/

namespace Forum.Identifier.Layout

variable {l : Layout} {p : Parts}

/-- The width of what lies below the time. -/
def timestampShift (l : Layout) : Nat :=
  l.sequenceBits + l.workerBits

/-- The parts of a word, by shifting and masking. -/
def unpack (l : Layout) (word : UInt64) : Parts :=
  ⟨(word >>> UInt64.ofNat l.timestampShift).toNat,
    (word >>> UInt64.ofNat l.sequenceBits &&& UInt64.ofNat l.maxWorker).toNat,
    (word &&& UInt64.ofNat l.maxSequence).toNat⟩

/-- The word of some parts, by shifting and joining. -/
def pack (l : Layout) (p : Parts) : UInt64 :=
  UInt64.ofNat p.timestamp <<< UInt64.ofNat l.timestampShift |||
    UInt64.ofNat p.worker <<< UInt64.ofNat l.sequenceBits ||| UInt64.ofNat p.sequence

theorem timestampShift_lt (l : Layout) : l.timestampShift < 64 := by
  have ht := l.total
  unfold timestampShift
  omega

theorem sequenceBits_lt (l : Layout) : l.sequenceBits < 64 := by
  have ht := l.total
  omega

/-- A shift by less than the width of a word. -/
theorem toNat_shift {bits : Nat} (hb : bits < 64) : (UInt64.ofNat bits).toNat % 64 = bits := by
  rw [UInt64.toNat_ofNat_of_lt' (hb.trans (by decide)), Nat.mod_eq_of_lt hb]

/-- A mask of so many bits. -/
theorem toNat_mask {bits : Nat} (hb : bits < 64) :
    (UInt64.ofNat (2 ^ bits - 1)).toNat = 2 ^ bits - 1 := by
  have hlt : 2 ^ bits < 2 ^ 64 := Nat.pow_lt_pow_right (by decide) hb
  exact UInt64.toNat_ofNat_of_lt' (lt_of_le_of_lt (Nat.sub_le _ _) hlt)

/-- Taking an identifier apart is shifting and masking. -/
theorem decompose_eq_unpack (l : Layout) (id : Int64) : l.decompose id = l.unpack id.toUInt64 := by
  have hw : l.workerBits < 64 := by
    have ht := l.total
    omega
  rw [decompose, unpack, maxWorker, maxSequence, UInt64.toNat_shiftRight, UInt64.toNat_and,
    UInt64.toNat_and, UInt64.toNat_shiftRight, toNat_shift l.timestampShift_lt,
    toNat_shift l.sequenceBits_lt, toNat_mask hw, toNat_mask l.sequenceBits_lt,
    Nat.and_two_pow_sub_one_eq_mod, Nat.and_two_pow_sub_one_eq_mod, Nat.shiftRight_eq_div_pow,
    Nat.shiftRight_eq_div_pow, Nat.div_div_eq_div_mul, ← Nat.pow_add, timestampShift]

/-- Joining a shifted word with what fits below it is adding the two. -/
theorem shift_or {bits high low : Nat} (hb : bits < 64) (hl : low < 2 ^ bits) :
    (high % 2 ^ 64) <<< bits % 2 ^ 64 ||| low = (high * 2 ^ bits + low) % 2 ^ 64 := by
  have hword : 2 ^ 64 = 2 ^ bits * 2 ^ (64 - bits) := by
    rw [← Nat.pow_add, Nat.add_sub_cancel' hb.le]
  have hhigh : (high % 2 ^ 64) <<< bits % 2 ^ 64 = (high % 2 ^ (64 - bits)) <<< bits := by
    rw [Nat.shiftLeft_eq, Nat.shiftLeft_eq, Nat.mod_mul_mod, hword, Nat.mul_comm (2 ^ bits),
      Nat.mul_mod_mul_right]
  have hlow : (high * 2 ^ bits + low) % 2 ^ bits = low := Nat.mul_add_mod_of_lt hl
  rw [hhigh, ← Nat.shiftLeft_add_eq_or_of_lt hl, Nat.shiftLeft_eq, hword, Nat.mod_mul, hlow,
    Positional.div_eq hl, Nat.add_comm, Nat.mul_comm]

/-- Putting an identifier together is shifting and joining. -/
theorem compose_eq_pack (hw : p.worker ≤ l.maxWorker) (hs : p.sequence ≤ l.maxSequence) :
    (l.compose p).toUInt64 = l.pack p := by
  have hsequence : p.sequence < 2 ^ l.sequenceBits :=
    (Nat.le_sub_one_iff_lt (Nat.two_pow_pos _)).1 hs
  have hworker : p.worker < 2 ^ l.workerBits :=
    (Nat.le_sub_one_iff_lt (Nat.two_pow_pos _)).1 hw
  have hlow : p.worker * 2 ^ l.sequenceBits + p.sequence < 2 ^ l.timestampShift := by
    rw [timestampShift, Nat.pow_add, Nat.mul_comm (2 ^ l.sequenceBits)]
    exact Positional.lt_mul hworker hsequence
  have hword : 2 ^ l.timestampShift < 2 ^ 64 :=
    Nat.pow_lt_pow_right (by decide) l.timestampShift_lt
  have hcode : l.code p = p.timestamp * 2 ^ l.timestampShift +
      (p.worker * 2 ^ l.sequenceBits + p.sequence) := by
    rw [code, timestampShift, Nat.add_mul, Nat.mul_assoc, ← Nat.pow_add,
      Nat.add_comm l.workerBits, Nat.add_assoc]
  have hless : p.sequence < 2 ^ 64 :=
    hsequence.trans (Nat.pow_lt_pow_right (by decide) l.sequenceBits_lt)
  apply UInt64.toNat_inj.1
  rw [compose_eq, Int64.toUInt64_ofNat', UInt64.toNat_ofNat', hcode, pack, UInt64.toNat_or,
    UInt64.toNat_or, UInt64.toNat_shiftLeft, UInt64.toNat_shiftLeft,
    toNat_shift l.timestampShift_lt, toNat_shift l.sequenceBits_lt, Nat.or_assoc,
    UInt64.toNat_ofNat', UInt64.toNat_ofNat', UInt64.toNat_ofNat', Nat.mod_eq_of_lt hless,
    shift_or l.sequenceBits_lt hsequence, Nat.mod_eq_of_lt (hlow.trans hword),
    shift_or l.timestampShift_lt hlow]

/-- The number of the parts of an identifier is that of its word. -/
theorem code_decompose (l : Layout) (id : Int64) : l.code (l.decompose id) = id.toUInt64.toNat := by
  rw [code, decompose]
  dsimp only
  rw [Nat.div_add_mod', Nat.div_add_mod']

/-- Putting the parts of an identifier together gives it back. -/
theorem compose_decompose (l : Layout) (id : Int64) : l.compose (l.decompose id) = id := by
  rw [compose_eq, code_decompose, ← UInt64.toInt64_ofNat', UInt64.ofNat_toNat,
    Int64.toInt64_toUInt64]

/-- An identifier that is not negative shows the number of its parts. -/
theorem toInt_eq_code (l : Layout) {id : Int64} (hid : 0 ≤ id) :
    id.toInt = l.code (l.decompose id) := by
  have hpos : 0 ≤ id.toInt := Int64.le_iff_toInt_le.1 hid
  rw [code_decompose, Int64.toNat_toUInt64_of_le hid]
  exact (Int.toNat_of_nonneg hpos).symm

/-- Without the sign the parts stay within their fields. -/
theorem fits_decompose (l : Layout) {id : Int64} (hid : 0 ≤ id) : l.Fits (l.decompose id) where
  timestamp_le := by
    have hword : id.toUInt64.toNat <
        2 ^ (l.sequenceBits + l.workerBits) * 2 ^ l.timestampBits := by
      have hcode := l.toInt_eq_code hid
      have hlt := id.toInt_lt
      rw [code_decompose] at hcode
      rw [← Nat.pow_add, Nat.add_comm l.sequenceBits, Nat.add_comm, ← Nat.add_assoc, l.total]
      omega
    apply Nat.le_sub_one_of_lt
    rw [decompose, Nat.div_div_eq_div_mul, ← Nat.pow_add]
    exact Nat.div_lt_of_lt_mul hword
  worker_le := Nat.le_sub_one_of_lt (Nat.mod_lt _ (Nat.two_pow_pos _))
  sequence_le := Nat.le_sub_one_of_lt (Nat.mod_lt _ (Nat.two_pow_pos _))

/-- Parts that fit go into an identifier that is not negative and come out again; the parts of any
identifier, a negative one too, give it back; those of one that is not negative fit; and of two that
are not, one is less exactly if its parts come earlier. Both ways are the shifts and masks of
words. -/
theorem order_preserving_bijection (l : Layout) :
    (∀ p, l.Fits p → l.decompose (l.compose p) = p ∧ 0 ≤ l.compose p) ∧
    (∀ id, l.compose (l.decompose id) = id) ∧
    (∀ id, 0 ≤ id → l.Fits (l.decompose id)) ∧
    (∀ a b, 0 ≤ a → 0 ≤ b → (a < b ↔ (l.decompose a).Precedes (l.decompose b))) ∧
    (∀ id, l.decompose id = l.unpack id.toUInt64) ∧
    ∀ p, p.worker ≤ l.maxWorker → p.sequence ≤ l.maxSequence →
      (l.compose p).toUInt64 = l.pack p := by
  refine ⟨fun p hp => ⟨hp.decompose_compose, ?_⟩, l.compose_decompose,
    fun id hid => l.fits_decompose hid, fun a b ha hb => ?_, l.decompose_eq_unpack,
    fun p hw hs => compose_eq_pack hw hs⟩
  · rw [Int64.le_iff_toInt_le, hp.toInt_compose]
    exact Int.natCast_nonneg _
  · rw [Int64.lt_iff_toInt_lt, l.toInt_eq_code ha, l.toInt_eq_code hb, Int.ofNat_lt]
    exact (l.fits_decompose ha).code_lt_code_iff (l.fits_decompose hb)

/-- In the usual widths: the greatest identifier of the millisecond 5, the least of the next one,
and the identifier of which all bits are set, the sign included. -/
theorem order_preserving_bijection_of_standard :
    standard.Fits ⟨5, 1023, 4095⟩ ∧ standard.compose ⟨5, 1023, 4095⟩ = 25165823 ∧
    standard.decompose 25165823 = ⟨5, 1023, 4095⟩ ∧
    (standard.decompose 25165823).Precedes (standard.decompose 25165824) ∧
    standard.decompose (-1) = ⟨2 ^ 42 - 1, 1023, 4095⟩ ∧
    standard.compose ⟨2 ^ 42 - 1, 1023, 4095⟩ = -1 := by
  have hfits : standard.Fits ⟨5, 1023, 4095⟩ := ⟨by decide, by decide, by decide⟩
  have hcompose : standard.compose ⟨5, 1023, 4095⟩ = 25165823 := by decide
  have hminus : standard.decompose (-1) = ⟨2 ^ 42 - 1, 1023, 4095⟩ := by decide
  obtain ⟨hback, hgiven, -, horder, -, -⟩ := order_preserving_bijection standard
  have hforth := (hback _ hfits).1
  rw [hcompose] at hforth
  have hagain := hgiven (-1)
  rw [hminus] at hagain
  have hnext : (standard.decompose 25165823).Precedes (standard.decompose 25165824) :=
    (horder _ _ (by decide) (by decide)).1 (by decide)
  exact ⟨hfits, hcompose, hforth, hnext, hminus, hagain⟩

end Forum.Identifier.Layout
