/-!
# Splitting texts and reading numbers

What texts are taken apart into, and the numbers that they write.
-/

/-! ## Splitting

The parts of a text between the occurrences of a character. -/

namespace Forum.Split

/-- Splits at every occurrence of a character. What has been read of the first part is held in
reverse. -/
def partsFrom (mark : Char) : List Char → List Char → List (List Char)
  | read, [] => [read.reverse]
  | read, c :: rest =>
    if c = mark then read.reverse :: partsFrom mark [] rest else partsFrom mark (c :: read) rest

/-- The parts between the occurrences of a character; a text without it is one part. -/
def parts (mark : Char) (cs : List Char) : List (List Char) :=
  partsFrom mark [] cs

/-- Before the first occurrence of the character nothing is split. -/
theorem partsFrom_append {mark : Char} {before : List Char} (h : mark ∉ before)
    (read rest : List Char) :
    partsFrom mark read (before ++ rest) = partsFrom mark (before.reverse ++ read) rest := by
  induction before generalizing read with
  | nil => rfl
  | cons c before ih =>
    simp only [List.mem_cons, not_or] at h
    simp [partsFrom, Ne.symm h.1, ih h.2]

/-- A text without the character is one part. -/
theorem parts_of_not_mem {mark : Char} {cs : List Char} (h : mark ∉ cs) : parts mark cs = [cs] := by
  simpa [parts, partsFrom] using partsFrom_append h [] []

/-- The first occurrence of the character ends the first part. -/
theorem parts_append_cons {mark : Char} {before : List Char} (h : mark ∉ before)
    (rest : List Char) : parts mark (before ++ mark :: rest) = before :: parts mark rest := by
  simp [parts, partsFrom_append h, partsFrom]

/-- The last occurrence of the character splits a text in one way only. -/
theorem eq_of_append_cons_eq {mark : Char} {before before' after after' : List Char}
    (h : mark ∉ after) (h' : mark ∉ after')
    (same : before ++ mark :: after = before' ++ mark :: after') :
    before = before' ∧ after = after' := by
  -- Read backwards, the last occurrence is the first one.
  have hreverse : after.reverse ++ mark :: before.reverse =
      after'.reverse ++ mark :: before'.reverse := by
    simpa using congrArg List.reverse same
  have hparts := congrArg (parts mark) hreverse
  rw [parts_append_cons (by simpa using h), parts_append_cons (by simpa using h')] at hparts
  obtain rfl : after = after' := List.reverse_inj.1 (List.cons.inj hparts).1
  exact ⟨List.append_cancel_right same, rfl⟩

end Forum.Split

/-! ## Numerals

Reading of whole numbers written in ASCII digits, with an optional sign and a range, and the
zero-padded form. Nothing but digits may follow the sign: no blanks, no separators, no exponent.
Digits of other bases up to sixteen go on with letters of either case. -/

namespace Forum.Numeral

-- Powers of numbers are the built-in ones, whatever else is in scope.
attribute [local instance (high)] instPowNat

/-- The number that a list of digits writes, most significant digit first. -/
def value (digits : List Char) : Nat :=
  digits.foldl (fun n c => 10 * n + (c.toNat - '0'.toNat)) 0

/-- Reads one or more digits and nothing else. -/
def natural? (cs : List Char) : Option Nat :=
  if !cs.isEmpty && cs.all Char.isDigit then some (value cs) else none

/-- Reads digits with an optional sign. -/
def integer? : List Char → Option Int
  | '-' :: cs => (natural? cs).map fun n => -(n : Int)
  | '+' :: cs => (natural? cs).map fun n => (n : Int)
  | cs => (natural? cs).map fun n => (n : Int)

/-- Reads digits with an optional plus sign, below a bound. -/
def below? (bound : Nat) (cs : List Char) : Option Nat :=
  (natural? (match cs with | '+' :: rest => rest | _ => cs)).filter (· < bound)

/-- A whole number that fits into 64 bits. -/
def fitting? (n : Int) : Option Int64 :=
  if -2 ^ (63 : Nat) ≤ n ∧ n < 2 ^ (63 : Nat) then some (Int64.ofInt n) else none

/-- Reads a signed number of 64 bits. -/
def int64? (cs : List Char) : Option Int64 :=
  (integer? cs).bind fitting?

/-- The value of a hexadecimal digit. -/
def hexDigit? (c : Char) : Option Nat :=
  if '0' ≤ c ∧ c ≤ '9' then some (c.toNat - 48)
  else if 'a' ≤ c ∧ c ≤ 'f' then some (c.toNat - 87)
  else if 'A' ≤ c ∧ c ≤ 'F' then some (c.toNat - 55)
  else none

/-- The value of a digit of a base. -/
def digit? (base : Nat) (c : Char) : Option Nat :=
  (hexDigit? c).filter (· < base)

/-- The number that digits of a base write; no digits write zero. -/
def inBase? (base : Nat) (cs : List Char) : Option Nat :=
  cs.foldlM (fun n c => (digit? base c).map (base * n + ·)) 0

/-- The decimal digits of a number in a field of at least the given width, filled up with zeros
on the left. A minus sign counts towards the width and stands before the zeros. -/
def padded (width : Nat) (n : Int) : List Char :=
  let digits := Nat.toDigits 10 n.natAbs
  if n < 0 then '-' :: (List.replicate (width - 1 - digits.length) '0' ++ digits)
  else List.replicate (width - digits.length) '0' ++ digits

end Forum.Numeral
