import Forum.Text.Scan

/-!
# JSON values

The values of the JSON format and their compact written form. A number keeps the digits it was
written with, so that each reader can decide for itself what it accepts as a whole number. The
members of an object keep their order, and a name may occur more than once.
-/

namespace Forum

/-- A number as it is written: sign, digits before and after the point, and exponent. -/
structure Json.Number where
  /-- Whether a minus sign stands in front. -/
  negative : Bool
  /-- The digits before the point. -/
  digits : List Char
  /-- The digits after the point, none if there is no point. -/
  fraction : List Char
  /-- The exponent, if one is written. -/
  exponent : Option Int
  deriving Repr, DecidableEq

/-- A JSON value. -/
inductive Json where
  | null
  | bool (b : Bool)
  | number (n : Json.Number)
  | string (s : String)
  | array (items : List Json)
  | object (members : List (String × Json))
  deriving Repr, Inhabited

namespace Json

/-- The whole number that the digits write when there is neither a point nor an exponent. Minus
zero is not whole. -/
def Number.whole? (n : Number) : Option Int :=
  if n.fraction.isEmpty && n.exponent.isNone then
    let v := Numeral.value n.digits
    if n.negative then (if v = 0 then none else some (-(v : Int))) else some v
  else none

/-- A whole number, written without a point. -/
def Number.ofInt (v : Int) : Number :=
  ⟨v < 0, Nat.toDigits 10 v.natAbs, [], none⟩

/-- A whole number as a value. -/
def int (v : Int) : Json :=
  .number (.ofInt v)

/-- The last member of an object with the given name. -/
def member? (name : String) : Json → Option Json
  | .object members => (members.reverse.find? (·.1 = name)).map (·.2)
  | _ => none

/-- The written form of a number. -/
def Number.chars (n : Number) : List Char :=
  (if n.negative then ['-'] else []) ++ n.digits
    ++ (if n.fraction.isEmpty then [] else '.' :: n.fraction)
    ++ (match n.exponent with | none => [] | some e => 'e' :: (toString e).toList)

/-- A hexadecimal digit in lower case. -/
def hexDigit (n : Nat) : Char :=
  Nat.digitChar (n % 16)

/-- The form of one character inside a string. Quotes, backslashes and control characters are
escaped and nothing else. -/
def escape (c : Char) : List Char :=
  if c = '"' then ['\\', '"']
  else if c = '\\' then ['\\', '\\']
  else if c.toNat = 8 then ['\\', 'b']
  else if c.toNat = 12 then ['\\', 'f']
  else if c = '\n' then ['\\', 'n']
  else if c = '\r' then ['\\', 'r']
  else if c = '\t' then ['\\', 't']
  else if c.toNat < 0x20 then ['\\', 'u', '0', '0', hexDigit (c.toNat / 16), hexDigit c.toNat]
  else [c]

/-- The written form of a string, quotes included. -/
def stringChars (s : String) : List Char :=
  '"' :: (s.toList.flatMap escape ++ ['"'])

/-- Parts joined by commas. -/
def commas : List (List Char) → List Char
  | [] => []
  | [p] => p
  | p :: rest => p ++ ',' :: commas rest

mutual

/-- The compact written form of a value. -/
def chars : Json → List Char
  | .null => ['n', 'u', 'l', 'l']
  | .bool true => ['t', 'r', 'u', 'e']
  | .bool false => ['f', 'a', 'l', 's', 'e']
  | .number n => n.chars
  | .string s => stringChars s
  | .array items => '[' :: (commas (itemChars items) ++ [']'])
  | .object members => '\x7b' :: (commas (memberChars members) ++ ['\x7d'])

/-- The written forms of the items of an array. -/
def itemChars : List Json → List (List Char)
  | [] => []
  | v :: rest => v.chars :: itemChars rest

/-- The written forms of the members of an object. -/
def memberChars : List (String × Json) → List (List Char)
  | [] => []
  | (name, v) :: rest => (stringChars name ++ ':' :: v.chars) :: memberChars rest

end

/-- The compact text of a value: no blanks between its parts. -/
def render (v : Json) : String :=
  String.ofList v.chars

end Json

end Forum
