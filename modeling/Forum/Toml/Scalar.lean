import Forum.Settings.Node
import Forum.Text.Scan
import Forum.Time.Timestamp

/-!
# TOML values of one word

The blanks, comments, strings and keys of TOML, and its booleans, numbers and times.
-/

/-! ## Text

The blanks, comments, strings and keys of TOML. Each reader takes the text where the piece begins
and returns what it read and the rest, or nothing. Line ends inside strings are read as a single
line feed. -/

namespace Forum.Toml

/-- The blanks within a line. -/
def isBlank (c : Char) : Bool :=
  c = ' ' || c = '\t'

/-- Whether a character may stand in comments and strings: no control character but the tab. -/
def isPlain (c : Char) : Bool :=
  c = '\t' || (0x20 ≤ c.toNat && c.toNat ≠ 0x7F)

/-- The text from its first character that is no blank. -/
def skipBlanks (cs : List Char) : List Char :=
  cs.dropWhile isBlank

/-- The rest after the end of a line. -/
def newline? : List Char → Option (List Char)
  | '\n' :: rest => some rest
  | '\r' :: '\n' :: rest => some rest
  | _ => none

/-- The rest after a comment, if there is one. -/
def skipComment (cs : List Char) : List Char :=
  match cs with
  | '#' :: rest => rest.dropWhile isPlain
  | cs => cs

/-- The rest after the end of a statement: blanks, a comment, and the end of the line or text. -/
def endLine? (cs : List Char) : Option (List Char) :=
  match skipComment (skipBlanks cs) with
  | [] => some []
  | cs => newline? cs

/-- Passes over blanks, comments and line ends. The first argument bounds the number of lines. -/
def skipLines : Nat → List Char → List Char
  | 0, cs => cs
  | steps + 1, cs =>
    let cs := skipComment (skipBlanks cs)
    match newline? cs with
    | some rest => skipLines steps rest
    | none => cs

/-- The character with a code point, if there is one. -/
def character? (n : Nat) : Option Char :=
  if n.isValidChar then some (Char.ofNat n) else none

/-- Reads the digits of an escape that gives a code point. -/
def codePoint? (width : Nat) (cs : List Char) : Option (Char × List Char) :=
  if (cs.take width).length = width then
    ((Numeral.inBase? 16 (cs.take width)).bind character?).map (·, cs.drop width)
  else none

/-- Reads an escape after its backslash. -/
def escape? : List Char → Option (Char × List Char)
  | 'b' :: rest => some (Char.ofNat 8, rest)
  | 't' :: rest => some ('\t', rest)
  | 'n' :: rest => some ('\n', rest)
  | 'f' :: rest => some (Char.ofNat 12, rest)
  | 'r' :: rest => some ('\r', rest)
  | '"' :: rest => some ('"', rest)
  | '\\' :: rest => some ('\\', rest)
  | 'u' :: rest => codePoint? 4 rest
  | 'U' :: rest => codePoint? 8 rest
  | _ => none

/-- Reads the inside of a string on one line and its closing quote. The characters read so far are
held in reverse. -/
def basicFrom? : Nat → List Char → List Char → Option (List Char × List Char)
  | 0, _, _ => none
  | _ + 1, _, [] => none
  | _ + 1, read, '"' :: rest => some (read.reverse, rest)
  | steps + 1, read, '\\' :: rest =>
    match escape? rest with
    | some (c, rest) => basicFrom? steps (c :: read) rest
    | none => none
  | steps + 1, read, c :: rest => if isPlain c then basicFrom? steps (c :: read) rest else none

/-- Reads a string on one line after its opening quote. -/
def basic? (cs : List Char) : Option (String × List Char) :=
  (basicFrom? (cs.length + 1) [] cs).map fun (s, rest) => (String.ofList s, rest)

/-- Reads a string without escapes on one line after its opening quote. -/
def literal? (cs : List Char) : Option (String × List Char) :=
  let inside (c : Char) : Bool := isPlain c && c ≠ '\''
  match cs.dropWhile inside with
  | '\'' :: rest => some (String.ofList (cs.takeWhile inside), rest)
  | _ => none

/-- The rest after a backslash that ends a line: all blanks and line ends are passed over. -/
def foldedLine? (cs : List Char) : Option (List Char) :=
  (newline? (skipBlanks cs)).map fun rest =>
    rest.dropWhile fun c => isBlank c || c = '\n' || c = '\r'

/-- The closing quotes of a string over several lines. Up to two more belong to the string; the
answer is how many do, and the rest. -/
def closing? (quote : Char) (cs : List Char) : Option (Nat × List Char) :=
  let count := ((cs.takeWhile (· = quote)).take 5).length
  if count < 3 then none else some (count - 3, cs.drop count)

/-- Reads the inside of a string over several lines and its closing quotes. -/
def blockFrom? (quote : Char) (escapes : Bool) :
    Nat → List Char → List Char → Option (List Char × List Char)
  | 0, _, _ => none
  | _ + 1, _, [] => none
  | steps + 1, read, c :: rest =>
    match closing? quote (c :: rest) with
    | some (more, rest) => some (read.reverse ++ List.replicate more quote, rest)
    | none =>
      if escapes && c = '\\' then
        match foldedLine? rest with
        | some rest => blockFrom? quote escapes steps read rest
        | none =>
          match escape? rest with
          | some (e, rest) => blockFrom? quote escapes steps (e :: read) rest
          | none => none
      else match newline? (c :: rest) with
        | some rest => blockFrom? quote escapes steps ('\n' :: read) rest
        | none =>
          if isPlain c then blockFrom? quote escapes steps (c :: read) rest else none

/-- Reads a string over several lines after its opening quotes. A line end right after them does
not belong to it. -/
def block? (quote : Char) (escapes : Bool) (cs : List Char) : Option (String × List Char) :=
  let cs := (newline? cs).getD cs
  (blockFrom? quote escapes (cs.length + 1) [] cs).map fun (s, rest) => (String.ofList s, rest)

/-- Reads a string of any kind. -/
def string? : List Char → Option (String × List Char)
  | '"' :: '"' :: '"' :: rest => block? '"' true rest
  | '"' :: rest => basic? rest
  | '\'' :: '\'' :: '\'' :: rest => block? '\'' false rest
  | '\'' :: rest => literal? rest
  | _ => none

/-- Whether a character may stand in a key without quotes. -/
def isKeyChar (c : Char) : Bool :=
  c.isAlphanum || c = '_' || c = '-'

/-- Reads one part of a key. -/
def keyPart? (cs : List Char) : Option (String × List Char) :=
  match cs with
  | '"' :: rest => basic? rest
  | '\'' :: rest => literal? rest
  | _ =>
    let part := cs.takeWhile isKeyChar
    if part.isEmpty then none else some (String.ofList part, cs.dropWhile isKeyChar)

/-- Reads the parts of a key, joined by points with blanks around them, up to a bound. -/
def keyParts? : Nat → List Char → Option (List String × List Char)
  | 0, _ => none
  | steps + 1, cs =>
    match keyPart? (skipBlanks cs) with
    | none => none
    | some (part, rest) =>
      match skipBlanks rest with
      | '.' :: rest => (keyParts? steps rest).map fun (parts, rest) => (part :: parts, rest)
      | rest => some ([part], rest)

/-- The greatest number of parts of a key. -/
def maxKeyParts : Nat := 79

/-- Reads a key and the blanks after it: the tables on the way, and the last part. -/
def key? (cs : List Char) : Option ((List String × String) × List Char) := do
  let (parts, rest) ← keyParts? maxKeyParts cs
  return ((parts.dropLast, ← parts.getLast?), rest)

end Forum.Toml

/-! ## Scalars

Booleans, numbers and times, each written as one word. Underscores may stand between digits.
Decimal numbers have no leading zeros, whole numbers fit into 64 bits, and a time is kept as its
text, with the fraction of the second in as few digits as hold it, at most nine. -/

namespace Forum.Toml

/-- The digits of a number without the underscores, each of which stands between two digits. -/
def digitRun? (isDigit : Char → Bool) : List Char → Option (List Char)
  | [] => none
  | [c] => if isDigit c then some [c] else none
  | c :: '_' :: rest => if isDigit c then (digitRun? isDigit rest).map (c :: ·) else none
  | c :: rest => if isDigit c then (digitRun? isDigit rest).map (c :: ·) else none

/-- The digits of a decimal number: zero alone, or digits that do not start with zero. -/
def decimalDigits? (cs : List Char) : Option (List Char) :=
  (digitRun? Char.isDigit cs).filter fun ds => ds.length = 1 || ds.head? ≠ some '0'

/-- A sign split off a number: whether it is negative, and the rest. -/
def splitSign : List Char → Bool × List Char
  | '-' :: rest => (true, rest)
  | '+' :: rest => (false, rest)
  | cs => (false, cs)

/-- A whole number in digits of the given base. -/
def inBase? (base : Nat) (cs : List Char) : Option Int64 := do
  let ds ← digitRun? (fun c => (Numeral.digit? base c).isSome) cs
  Numeral.fitting? (← Numeral.inBase? base ds)

/-- Reads a whole number. -/
def integer? : List Char → Option Int64
  | '0' :: 'x' :: cs => inBase? 16 cs
  | '0' :: 'o' :: cs => inBase? 8 cs
  | '0' :: 'b' :: cs => inBase? 2 cs
  | cs => do
    let (negative, ds) := splitSign cs
    let n := Numeral.value (← decimalDigits? ds)
    Numeral.fitting? (if negative then -n else n)

/-- The exponent of a number with a point, after its letter. -/
def exponent? (cs : List Char) : Option (List Char) :=
  match cs with
  | '-' :: rest => (digitRun? Char.isDigit rest).map ('-' :: ·)
  | '+' :: rest => digitRun? Char.isDigit rest
  | _ => digitRun? Char.isDigit cs

/-- The digits of a number with a point or an exponent, or both, without underscores. -/
def floatChars? (cs : List Char) : Option (List Char) := do
  let inMantissa (c : Char) : Bool := c ≠ 'e' && c ≠ 'E'
  let mantissa := cs.takeWhile inMantissa
  let whole ← decimalDigits? (mantissa.takeWhile (· ≠ '.'))
  let fraction ← match mantissa.dropWhile (· ≠ '.') with
    | [] => some []
    | _ :: rest => (digitRun? Char.isDigit rest).map ('.' :: ·)
  let exponent ← match cs.dropWhile inMantissa with
    | [] => some []
    | _ :: rest => (exponent? rest).map ('e' :: ·)
  if fraction.isEmpty && exponent.isEmpty then none else return whole ++ fraction ++ exponent

/-- Reads a number with a point or an exponent, or one of the words for numbers that are none. A
number that is too large is refused. -/
def float? (cs : List Char) : Option Binary64 :=
  let (negative, rest) := splitSign cs
  if rest = ['i', 'n', 'f'] then some (.infinity negative)
  else if rest = ['n', 'a', 'n'] then some .nan
  else ((floatChars? rest).bind (Binary64.parseUnsigned? negative)).filter (· ≠ .infinity false)

/-- The number in two digits, up to a bound. -/
def twoDigits? (max : Nat) : List Char → Option (Nat × List Char)
  | a :: b :: rest => ((Numeral.natural? [a, b]).filter (· ≤ max)).map (·, rest)
  | _ => none

/-- The rest after a character that must be there. -/
def mark? (c : Char) : List Char → Option (List Char)
  | d :: rest => if d = c then some rest else none
  | [] => none

/-- Reads a date. -/
def date? (cs : List Char) : Option (Date × List Char) := do
  let year ← if (cs.take 4).length = 4 then Numeral.natural? (cs.take 4) else none
  let (month, cs) ← twoDigits? 12 (← mark? '-' (cs.drop 4))
  let (day, cs) ← twoDigits? 31 (← mark? '-' cs)
  return (← Date.of? year month day, cs)

/-- The text of a date. -/
def dateChars (d : Date) : List Char :=
  Numeral.padded 4 d.year ++ '-' :: Numeral.padded 2 d.month ++ '-' :: Numeral.padded 2 d.day

/-- Reads the fraction of a second, if there is one. The answer is its text. -/
def fraction? : List Char → Option (List Char × List Char)
  | '.' :: rest =>
    let ds := rest.takeWhile Char.isDigit
    let kept := ((ds.take 9).reverse.dropWhile (· = '0')).reverse
    if ds.isEmpty then none
    else some (if kept.isEmpty then [] else '.' :: kept, rest.dropWhile Char.isDigit)
  | cs => some ([], cs)

/-- Reads a time of day. The answer is its text. -/
def time? (cs : List Char) : Option (List Char × List Char) := do
  let (hour, cs) ← twoDigits? 23 cs
  let (minute, cs) ← twoDigits? 59 (← mark? ':' cs)
  let (second, cs) ← twoDigits? 60 (← mark? ':' cs)
  let (fraction, cs) ← fraction? cs
  return (Numeral.padded 2 hour ++ ':' :: Numeral.padded 2 minute ++ ':' :: Numeral.padded 2 second
    ++ fraction, cs)

/-- Reads hours and minutes of an offset. -/
def offset? (sign : Char) (cs : List Char) : Option (List Char) := do
  let (hours, cs) ← twoDigits? 23 cs
  let (minutes, cs) ← twoDigits? 59 (← mark? ':' cs)
  let sign := if hours = 0 ∧ minutes = 0 then '+' else sign
  if cs.isEmpty then
    return sign :: (Numeral.padded 2 hours ++ ':' :: Numeral.padded 2 minutes)
  else none

/-- Reads the zone of a time, if there is one. The answer is its text. -/
def zone? : List Char → Option (List Char)
  | [] => some []
  | ['Z'] => some ['Z']
  | ['z'] => some ['Z']
  | '+' :: cs => offset? '+' cs
  | '-' :: cs => offset? '-' cs
  | _ => none

/-- Reads a date, a time of day or both. The answer is the text. -/
def moment? (cs : List Char) : Option (List Char) :=
  match date? cs with
  | some (d, []) => some (dateChars d)
  | some (d, c :: rest) =>
    if c = 'T' || c = 't' || c = ' ' then do
      let (time, rest) ← time? rest
      return dateChars d ++ 'T' :: time ++ (← zone? rest)
    else none
  | none =>
    match time? cs with
    | some (time, []) => some time
    | _ => none

/-- Whether a character may stand in a word. -/
def isWordChar (c : Char) : Bool :=
  c.isAlphanum || c = '_' || c = '+' || c = '-' || c = '.' || c = ':'

/-- The value of a word. -/
def scalar? (word : List Char) : Option Settings.Node :=
  if word = ['t', 'r', 'u', 'e'] then some (.boolean true)
  else if word = ['f', 'a', 'l', 's', 'e'] then some (.boolean false)
  else match integer? word, moment? word, float? word with
    | some n, _, _ => some (.integer n)
    | none, some s, _ => some (.text (String.ofList s))
    | none, none, some x => some (.float x)
    | none, none, none => none

/-- Reads a word. A date may be followed by a blank and a time of day. -/
def word (cs : List Char) : List Char × List Char :=
  let first := cs.takeWhile isWordChar
  match cs.dropWhile isWordChar with
  | ' ' :: a :: b :: ':' :: rest =>
    if (date? first).any (·.2.isEmpty) && a.isDigit && b.isDigit then
      let time := (a :: b :: ':' :: rest).takeWhile isWordChar
      (first ++ ' ' :: time, (a :: b :: ':' :: rest).dropWhile isWordChar)
    else (first, cs.dropWhile isWordChar)
  | rest => (first, rest)

end Forum.Toml
