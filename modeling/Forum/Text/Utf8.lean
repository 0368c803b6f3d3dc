import Forum.Text.Scan

/-!
# Bytes of texts

Bytes as characters, and bytes that are written with percent signs.
-/

/-! ## UTF-8

Bytes as characters. A byte sequence splits into parts, each a character or a stretch that no
character can start with; a strict reader refuses the second kind, a lossy one puts the
replacement character in its place. The stretches are the longest that a valid character could
still have continued, so the split does not depend on what follows. -/

namespace Forum.Utf8

/-- What is still owed after the first bytes of a character: the bits read so far and the range
of each byte to come. -/
structure Owed where
  /-- The code point bits read so far. -/
  bits : Nat
  /-- The range of the next byte. -/
  next : Nat × Nat
  /-- The ranges of the bytes after it. -/
  later : List (Nat × Nat)

/-- The range of a byte that continues a character. -/
def tail : Nat × Nat := (0x80, 0xBF)

/-- What the first byte of a longer character announces, if it can be one. -/
def lead? (b : Nat) : Option Owed :=
  if 0xC2 ≤ b ∧ b ≤ 0xDF then some ⟨b % 0x20, tail, []⟩
  else if b = 0xE0 then some ⟨0, (0xA0, 0xBF), [tail]⟩
  else if b = 0xED then some ⟨0xD, (0x80, 0x9F), [tail]⟩
  else if 0xE1 ≤ b ∧ b ≤ 0xEF then some ⟨b % 0x10, tail, [tail]⟩
  else if b = 0xF0 then some ⟨0, (0x90, 0xBF), [tail, tail]⟩
  else if 0xF1 ≤ b ∧ b ≤ 0xF3 then some ⟨b % 8, tail, [tail, tail]⟩
  else if b = 0xF4 then some ⟨4, (0x80, 0x8F), [tail, tail]⟩
  else none

/-- The parts of a byte sequence in order: a character, or nothing for a stretch that is not
one. -/
def parts : Option Owed → List UInt8 → List (Option Char)
  | none, [] => []
  | some _, [] => [none]
  | none, b :: rest =>
    if b.toNat < 0x80 then some (Char.ofNat b.toNat) :: parts none rest
    else match lead? b.toNat with
      | some owed => parts (some owed) rest
      | none => none :: parts none rest
  | some owed, b :: rest =>
    if owed.next.1 ≤ b.toNat ∧ b.toNat ≤ owed.next.2 then
      let bits := owed.bits * 0x40 + b.toNat % 0x40
      match owed.later with
      | [] => some (Char.ofNat bits) :: parts none rest
      | range :: ranges => parts (some ⟨bits, range, ranges⟩) rest
    else if b.toNat < 0x80 then none :: some (Char.ofNat b.toNat) :: parts none rest
    else match lead? b.toNat with
      | some owed => none :: parts (some owed) rest
      | none => none :: none :: parts none rest

/-- The characters of a byte sequence, if it is all characters. -/
def decode? (bytes : List UInt8) : Option (List Char) :=
  (parts none bytes).mapM id

/-- The characters of a byte sequence, with the replacement character for what is not one. -/
def decodeLossy (bytes : List UInt8) : List Char :=
  (parts none bytes).map (·.getD (Char.ofNat 0xFFFD))

/-- The bytes of a text. -/
def encode (s : String) : List UInt8 :=
  s.toUTF8.data.toList

/-- A text stands for its bytes. -/
instance coeBytes : Coe String (List UInt8) := ⟨encode⟩

/-- The bytes of a text are those of its characters, one after another. -/
theorem encode_ofList (cs : List Char) :
    encode (String.ofList cs) = cs.flatMap String.utf8EncodeChar := by
  rw [encode, String.toUTF8, String.toByteArray_ofList, List.utf8Encode, List.data_toByteArray]

end Forum.Utf8

/-! ## Percent encoding

Bytes of a request target, some of them written as a percent sign and two hexadecimal digits. A
percent sign without two digits after it stands for itself. -/

namespace Forum.Http

/-- The value of a byte that is a hexadecimal digit. -/
def hexByte? (b : UInt8) : Option Nat :=
  Numeral.hexDigit? (Char.ofNat b.toNat)

/-- The byte that a percent sign and two hexadecimal digits stand for. -/
def escaped? (sign high low : UInt8) : Option UInt8 := do
  if sign.toNat ≠ '%'.toNat then none
  else return UInt8.ofNat (16 * (← hexByte? high) + (← hexByte? low))

/-- The bytes that an encoded sequence stands for. -/
def percentDecode : List UInt8 → List UInt8
  | b :: high :: low :: rest =>
    match escaped? b high low with
    | some value => value :: percentDecode rest
    | none => b :: percentDecode (high :: low :: rest)
  | rest => rest

/-- The text that an encoded part of a path stands for, if it is one. -/
def decodePathPart? (part : List Char) : Option (List Char) :=
  Utf8.decode? (percentDecode (Utf8.encode (String.ofList part)))

/-- The text that an encoded part of a query stands for. A plus sign is a space, and bytes that are
no text are replaced. -/
def decodeQueryPart (part : List Char) : List Char :=
  Utf8.decodeLossy (percentDecode
    (Utf8.encode (String.ofList (part.map fun c => if c = '+' then ' ' else c))))

end Forum.Http
