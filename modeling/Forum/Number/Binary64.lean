import Forum.Text.Scan

/-!
# Binary numbers of 64 bits

Exact arithmetic on the numbers of the IEEE binary64 format: a sign, a mantissa below 2^53 and an
exponent of two between -1074 and 971. Every operation is the exact result rounded once, to the
nearest number of the format, a tie going to the even mantissa. Only what the settings and the
score index need is here: reading a decimal, the products and quotients with powers of ten, and
the passages to and from whole numbers.
-/

namespace Forum

-- Powers of numbers are the built-in ones, whatever else is in scope.
attribute [local instance (high)] instPowNat

/-- A number of the binary64 format. -/
inductive Binary64 where
  /-- Not a number. -/
  | nan
  /-- Infinity with a sign. -/
  | infinity (negative : Bool)
  /-- The mantissa times two to the exponent, with a sign. -/
  | finite (negative : Bool) (mantissa : Nat) (exponent : Int)
  deriving Repr, DecidableEq

namespace Binary64

/-- The least exponent of the format. -/
def minExponent : Int := -1074

/-- The greatest exponent of the format. -/
def maxExponent : Int := 971

/-- Zero with a sign. -/
def zero (negative : Bool) : Binary64 :=
  .finite negative 0 minExponent

/-- A quotient over two to the given power, as a numerator and a denominator. -/
def scaled (num den : Nat) (e : Int) : Nat × Nat :=
  if 0 ≤ e then (num, den * 2 ^ e.toNat) else (num * 2 ^ (-e).toNat, den)

/-- The whole number nearest to a quotient, a tie going to the even one. -/
def nearestEven (num den : Nat) : Nat :=
  let q := num / den
  let r := num % den
  if den < 2 * r || (2 * r = den && q % 2 = 1) then q + 1 else q

/-- The exponent at which a positive quotient has a mantissa of full length, or the least one. -/
def fittingExponent (num den : Nat) : Int :=
  let guess := max ((num.log2 : Int) - den.log2 - 52) minExponent
  let (n, d) := scaled num den guess
  if n / d < 2 ^ (52 : Nat) then max (guess - 1) minExponent else guess

/-- The number of the format nearest to a quotient of whole numbers. -/
def ofRatio (negative : Bool) (num den : Nat) : Binary64 :=
  if num = 0 then zero negative
  else
    let e := fittingExponent num den
    let (n, d) := scaled num den e
    let m := nearestEven n d
    let (m, e) := if m = 2 ^ (53 : Nat) then (2 ^ (52 : Nat), e + 1) else (m, e)
    if maxExponent < e then .infinity negative else .finite negative m e

/-- The number nearest to a whole number. -/
def ofInt (n : Int) : Binary64 :=
  ofRatio (n < 0) n.natAbs 1

/-- The size of a mantissa times a power of two, as a numerator and a denominator. -/
def ratio (mantissa : Nat) (exponent : Int) : Nat × Nat :=
  if 0 ≤ exponent then (mantissa * 2 ^ exponent.toNat, 1) else (mantissa, 2 ^ (-exponent).toNat)

/-- Whether a number is neither infinite nor undefined. -/
def isFinite : Binary64 → Bool
  | .finite .. => true
  | _ => false

/-- Whether a number is zero, of either sign. -/
def isZero : Binary64 → Bool
  | .finite _ m _ => m = 0
  | _ => false

/-- The product with the number nearest to a power of ten. -/
def timesPowerOfTen (x : Binary64) (k : Nat) : Binary64 :=
  match x, ofRatio false (10 ^ k) 1 with
  | .finite s m e, .finite _ m' e' =>
    let (n, d) := ratio m e
    let (n', d') := ratio m' e'
    ofRatio s (n * n') (d * d')
  | x, _ => x

/-- The quotient by the number nearest to a power of ten. -/
def overPowerOfTen (x : Binary64) (k : Nat) : Binary64 :=
  match x, ofRatio false (10 ^ k) 1 with
  | .finite s m e, .finite _ m' e' =>
    let (n, d) := ratio m e
    let (n', d') := ratio m' e'
    ofRatio s (n * d') (d * n')
  | x, _ => x

/-- The number nearest to a whole number times a power of ten. Beyond four hundred decimal places
on either side of the point the answer is infinity or zero. -/
def ofDecimal (negative : Bool) (n : Nat) (exponent : Int) : Binary64 :=
  let places := (Nat.toDigits 10 n).length + exponent
  if n = 0 ∨ places < -400 then zero negative
  else if 400 < places then .infinity negative
  else if 0 ≤ exponent then ofRatio negative (n * 10 ^ exponent.toNat) 1
  else ofRatio negative n (10 ^ (-exponent).toNat)

/-- The whole number that remains when the places after the point are dropped. -/
def truncated (m : Nat) (e : Int) : Nat :=
  let (n, d) := ratio m e
  n / d

/-- The nearest whole number, a half going up. -/
def roundedUp (m : Nat) (e : Int) : Nat :=
  let (n, d) := ratio m e
  (2 * n + d) / (2 * d)

/-- A whole number brought into a range. -/
def clamp (lo hi n : Int) : Int :=
  max lo (min hi n)

/-- The number as a whole number between the two bounds: the places after the point are dropped,
a number outside becomes the nearer bound, and what is not a number becomes zero. -/
def truncateWithin (lo hi : Int) : Binary64 → Int
  | .nan => 0
  | .infinity negative => if negative then lo else hi
  | .finite negative m e =>
    clamp lo hi (if negative then -(truncated m e : Int) else truncated m e)

/-- The number as a whole number between the two bounds: rounded, a half going away from zero, a
number outside becoming the nearer bound, and what is not a number becoming zero. -/
def roundWithin (lo hi : Int) : Binary64 → Int
  | .nan => 0
  | .infinity negative => if negative then lo else hi
  | .finite negative m e =>
    clamp lo hi (if negative then -(roundedUp m e : Int) else roundedUp m e)

/-- The exponent part of a written number after its letter. -/
def writtenExponent? (cs : List Char) : Option Int :=
  Numeral.integer? cs

/-- Reads a number without its sign: the words for infinity and for what is not a number, or
digits with at most one point among or beside them and an optional exponent. -/
def parseUnsigned? (negative : Bool) (cs : List Char) : Option Binary64 :=
  let word := cs.map Char.toLower
  if word = ['i', 'n', 'f'] || word = ['i', 'n', 'f', 'i', 'n', 'i', 't', 'y'] then
    some (.infinity negative)
  else if word = ['n', 'a', 'n'] then some .nan
  else
    let whole := cs.takeWhile Char.isDigit
    let rest := cs.dropWhile Char.isDigit
    let (places, rest) := match rest with
      | '.' :: rest => (rest.takeWhile Char.isDigit, rest.dropWhile Char.isDigit)
      | _ => ([], rest)
    if whole.isEmpty && places.isEmpty then none
    else
      let exponent := match rest with
        | [] => some 0
        | 'e' :: rest => writtenExponent? rest
        | 'E' :: rest => writtenExponent? rest
        | _ => none
      exponent.map fun e => ofDecimal negative (Numeral.value (whole ++ places)) (e - places.length)

/-- Reads a number with an optional sign. -/
def parse? : List Char → Option Binary64
  | '-' :: cs => parseUnsigned? true cs
  | '+' :: cs => parseUnsigned? false cs
  | cs => parseUnsigned? false cs

end Binary64

end Forum

/-! ## The shortest decimal

The fewest digits that read back as the same binary64 number, and of those the digits nearest to
it. `Binary64.shortest` tests, for one digit, two digits and so on, the two neighbours of the
number on the decimal grid of that many digits. `Binary64.text` writes the digits positionally:
no exponent, and no point after a whole number. -/

namespace Forum.Binary64

-- Powers of numbers are the built-in ones, whatever else is in scope.
attribute [local instance (high)] instPowNat

/-- The interval of numbers that round to a positive number of the format, in quarters of its last
place: its lower end, the number itself, its upper end. Below a power of two the grid is finer. -/
def quarters (m : Nat) (e : Int) : Nat × Nat × Nat :=
  (if m = 2 ^ (52 : Nat) ∧ minExponent < e then 4 * m - 1 else 4 * m - 2, 4 * m, 4 * m + 2)

/-- How many digits stand before the point of a positive quotient; zero or less counts the zeros
after the point. -/
def magnitude (num den : Nat) : Int :=
  if den ≤ num then (Nat.toDigits 10 (num / den)).length
  else 1 - ((Nat.toDigits 10 ((den - 1) / num)).length : Int)

/-- The candidate with the given number of digits: the neighbour on the decimal grid that lies in
the interval and is nearest to the number, if any does; of two at the same distance it is the
greater one. -/
def candidate? (m : Nat) (e : Int) (count : Nat) : Option (Nat × Int) :=
  let (low, mid, high) := quarters m e
  let (unitNum, unitDen) := ratio 1 (e - 2)
  let grid := magnitude (mid * unitNum) unitDen - count
  let (gridNum, gridDen) := if 0 ≤ grid then (10 ^ grid.toNat, 1) else (1, 10 ^ (-grid).toNat)
  -- both sides in units of one over the product of the two denominators
  let step := gridNum * unitDen
  let unit := unitNum * gridDen
  let below := mid * unit / step
  let inside (c : Nat) : Bool :=
    if m % 2 = 0 then low * unit ≤ c * step && c * step ≤ high * unit
    else low * unit < c * step && c * step < high * unit
  match inside below, inside (below + 1) with
  | true, true =>
    if mid * unit - below * step < (below + 1) * step - mid * unit then some (below, grid)
    else some (below + 1, grid)
  | true, false => some (below, grid)
  | false, true => some (below + 1, grid)
  | false, false => none

/-- The same decimal without a zero at its end, if it has one. The neighbour of a number just below
a power of ten may be that power, with a digit too many. -/
def withoutZero (n : Nat) (exponent : Int) : Nat × Int :=
  if n % 10 = 0 then (n / 10, exponent + 1) else (n, exponent)

/-- The shortest decimal of a positive number of the format, as a whole number and a power of
ten. Seventeen digits always suffice. -/
def shortest (m : Nat) (e : Int) : Nat × Int :=
  let (n, exponent) := ((List.range 17).findSome? fun k => candidate? m e (k + 1)).getD (m, 0)
  withoutZero n exponent

/-- A whole number times a power of ten, written positionally. -/
def positional (n : Nat) (exponent : Int) : List Char :=
  let digits := Nat.toDigits 10 n
  if 0 ≤ exponent then digits ++ List.replicate exponent.toNat '0'
  else
    let places := (-exponent).toNat
    if digits.length ≤ places then
      '0' :: '.' :: (List.replicate (places - digits.length) '0' ++ digits)
    else digits.take (digits.length - places) ++ '.' :: digits.drop (digits.length - places)

/-- The text of a number: the shortest decimal, positional, with a minus sign also before a
negative zero. -/
def text : Binary64 → String
  | .nan => "NaN"
  | .infinity negative => if negative then "-inf" else "inf"
  | .finite negative m e =>
    let body := if m = 0 then ['0'] else let (n, k) := shortest m e; positional n k
    String.ofList (if negative then '-' :: body else body)

end Forum.Binary64
