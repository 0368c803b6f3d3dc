import Forum.Json
import Forum.Text.Scan

/-!
# JSON tokens

The pieces that every reader of JSON shares: blanks, literal words, numbers and strings. Each
reader takes the text after the piece begins and returns what it read and the rest of the text,
or nothing when the piece is not well-formed.

A string is read in two ways. `string?` decodes it and refuses an escape that names half of a
surrogate pair; `skipString?` only looks for its end and lets such an escape pass, and bytes that
are no character.
-/

namespace Forum.Json

/-- The four characters that may stand between tokens. -/
def isBlank (c : Char) : Bool :=
  c = ' ' || c = '\n' || c = '\t' || c = '\r'

/-- The text from its first character that is not blank. -/
def skipBlanks (cs : List Char) : List Char :=
  cs.dropWhile isBlank

/-- The rest of a text that starts with the given word. -/
def word? : List Char → List Char → Option (List Char)
  | [], cs => some cs
  | w :: ws, c :: cs => if w = c then word? ws cs else none
  | _ :: _, [] => none

/-- The digits at the front of a text and the rest. -/
def digits (cs : List Char) : List Char × List Char :=
  (cs.takeWhile Char.isDigit, cs.dropWhile Char.isDigit)

/-- The digits before the point: a single zero, or digits that do not start with zero. -/
def leadingDigits? (cs : List Char) : Option (List Char × List Char) :=
  match digits cs with
  | ([], _) => none
  | (d :: ds, rest) => if d = '0' && !ds.isEmpty then none else some (d :: ds, rest)

/-- The digits after a point, if there is one. A point needs at least one digit. -/
def fraction? : List Char → Option (List Char × List Char)
  | '.' :: cs => if (digits cs).1.isEmpty then none else some (digits cs)
  | cs => some ([], cs)

/-- The exponent after its letter. -/
def signedExponent? (cs : List Char) : Option (Int × List Char) :=
  let (negative, rest) := match cs with
    | '-' :: rest => (true, rest)
    | '+' :: rest => (false, rest)
    | _ => (false, cs)
  let (ds, rest) := digits rest
  if ds.isEmpty then none
  else some (if negative then -(Numeral.value ds : Int) else (Numeral.value ds : Int), rest)

/-- The exponent, if there is one. -/
def exponent? : List Char → Option (Option Int × List Char)
  | 'e' :: cs => (signedExponent? cs).map fun (e, rest) => (some e, rest)
  | 'E' :: cs => (signedExponent? cs).map fun (e, rest) => (some e, rest)
  | cs => some (none, cs)

/-- A number at the front of a text. -/
def number? (cs : List Char) : Option (Number × List Char) := do
  let (negative, rest) := match cs with
    | '-' :: rest => (true, rest)
    | _ => (false, cs)
  let (ds, rest) ← leadingDigits? rest
  let (fs, rest) ← fraction? rest
  let (e, rest) ← exponent? rest
  return (⟨negative, ds, fs, e⟩, rest)

/-- The value of the four hexadecimal digits of an escape. -/
def hex4? (a b c d : Char) : Option Nat :=
  Numeral.inBase? 16 [a, b, c, d]

/-- The character that a one-letter escape stands for. -/
def shortEscape? (c : Char) : Option Char :=
  match c with
  | '"' => some '"'
  | '\\' => some '\\'
  | '/' => some '/'
  | 'b' => some (Char.ofNat 8)
  | 'f' => some (Char.ofNat 12)
  | 'n' => some '\n'
  | 'r' => some '\r'
  | 't' => some '\t'
  | _ => none

/-- The character that a pair of surrogates stands for. -/
def surrogatePair? (high low : Nat) : Option Char :=
  if 0xD800 ≤ high ∧ high ≤ 0xDBFF ∧ 0xDC00 ≤ low ∧ low ≤ 0xDFFF then
    some (Char.ofNat (0x10000 + (high - 0xD800) * 0x400 + (low - 0xDC00)))
  else none

/-- Whether a code unit is half of a surrogate pair. -/
def isSurrogate (n : Nat) : Bool :=
  0xD800 ≤ n && n ≤ 0xDFFF

/-- Reads the inside of a string and its closing quote. The characters read so far are held in
reverse. -/
def stringFrom? (read : List Char) : List Char → Option (List Char × List Char)
  | [] => none
  | '"' :: cs => some (read.reverse, cs)
  | '\\' :: 'u' :: a :: b :: c :: d :: '\\' :: 'u' :: e :: f :: g :: h :: cs =>
    match hex4? a b c d with
    | none => none
    | some n =>
      if isSurrogate n then
        match (hex4? e f g h).bind (surrogatePair? n) with
        | none => none
        | some p => stringFrom? (p :: read) cs
      else stringFrom? (Char.ofNat n :: read) ('\\' :: 'u' :: e :: f :: g :: h :: cs)
  | '\\' :: 'u' :: a :: b :: c :: d :: cs =>
    match hex4? a b c d with
    | none => none
    | some n => if isSurrogate n then none else stringFrom? (Char.ofNat n :: read) cs
  | '\\' :: c :: cs =>
    match shortEscape? c with
    | none => none
    | some e => stringFrom? (e :: read) cs
  | c :: cs => if c.toNat < 0x20 || c = '\\' then none else stringFrom? (c :: read) cs

/-- Reads a string after its opening quote. -/
def string? (cs : List Char) : Option (String × List Char) :=
  (stringFrom? [] cs).map fun (s, rest) => (String.ofList s, rest)

/-- What stands for bytes that are no character. It is a control character, which must not stand in
JSON outside the blanks, so that nothing is read from there on; only what is passed over may have
it. -/
def unreadable : Char := Char.ofNat 1

/-- The rest of a text after a string whose opening quote has been read. -/
def skipString? : List Char → Option (List Char)
  | [] => none
  | '"' :: cs => some cs
  | '\\' :: 'u' :: a :: b :: c :: d :: cs => if (hex4? a b c d).isSome then skipString? cs else none
  | '\\' :: c :: cs => if (shortEscape? c).isSome then skipString? cs else none
  | c :: cs =>
    if (c.toNat < 0x20 && c ≠ unreadable) || c = '\\' then none else skipString? cs

end Forum.Json
