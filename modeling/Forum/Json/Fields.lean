import Forum.Json
import Forum.Json.Token
import Forum.Number.Binary64
import Forum.Text.Utf8

/-!
# Request bodies in JSON

What is read of a request body, an object whose fields are texts, some of them optional. Values that
nobody asked for are passed over, and only their form is checked.
-/

/-! ## The size of a written number

A JSON number with a point, an exponent or too many digits is read as a binary64 number in three
steps: as many leading digits as fit into 64 bits are taken as a whole number, that number is
rounded, and the result is multiplied or divided by a power of ten. Each step rounds, so the
answer can differ in its last place from the number nearest to what is written. -/

namespace Forum.Json

-- Powers of numbers are the built-in ones, whatever else is in scope.
attribute [local instance (high)] instPowNat

/-- The leading digits taken so far, and the power of ten they are to be multiplied by. -/
structure Significand where
  /-- The whole number that the digits write. -/
  value : Nat
  /-- The power of ten. -/
  exponent : Int

/-- Whether one more digit still fits into 64 bits. -/
def Significand.fits (s : Significand) (d : Char) : Bool :=
  s.value * 10 + (d.toNat - 48) < 2 ^ (64 : Nat)

/-- Takes the digits before the point. From the first that does not fit, each only multiplies by
ten. -/
def Significand.takeWhole : Significand → List Char → Significand
  | s, [] => s
  | s, d :: ds =>
    if s.exponent = 0 ∧ s.fits d then takeWhole ⟨s.value * 10 + (d.toNat - 48), 0⟩ ds
    else takeWhole ⟨s.value, s.exponent + 1⟩ ds

/-- Takes the digits after the point, up to the first that does not fit. -/
def Significand.takeFraction : Significand → List Char → Significand
  | s, [] => s
  | s, d :: ds =>
    if s.fits d then takeFraction ⟨s.value * 10 + (d.toNat - 48), s.exponent - 1⟩ ds else s

/-- Divides by ten to the power 308 as long as the exponent is below what one power of ten can
express. After three divisions every number is zero. -/
def scaleDown : Nat → Binary64 → Int → Binary64
  | 0, x, _ => x
  | n + 1, x, e =>
    if x.isZero then x
    else if e < -308 then scaleDown n (x.overPowerOfTen 308) (e + 308)
    else x.overPowerOfTen (-e).toNat

/-- The rounded digits times the power of ten. -/
def Significand.toBinary64 (negative : Bool) (s : Significand) : Binary64 :=
  let x := Binary64.ofRatio negative s.value 1
  if s.exponent < 0 then scaleDown 4 x s.exponent
  else if x.isZero then x
  else if 308 < s.exponent then .infinity negative
  else x.timesPowerOfTen s.exponent.toNat

/-- The binary64 number that is read for a written number. It is infinite where readers report
that the number is out of range. -/
def Number.toBinary64 (n : Number) : Binary64 :=
  let s := ((Significand.mk 0 0).takeWhole n.digits).takeFraction n.fraction
  Significand.toBinary64 n.negative ⟨s.value, s.exponent + n.exponent.getD 0⟩

end Forum.Json

/-! ## Values passed over

The end of a value that nobody asked for. Only its form is checked: numbers may be of any size,
escapes may name half of a surrogate pair, and there is no bound on the nesting, because the open
arrays and objects are held in a list. -/

namespace Forum.Json

/-- What is open around the place reached: arrays and objects, innermost first. -/
inductive Opened where
  | array
  | object
  deriving DecidableEq, Repr

/-- What may stand at the place reached. -/
inductive Expected where
  /-- A value. -/
  | value
  /-- The first item or member, or the end of what was just opened. -/
  | first
  /-- The name of a member. -/
  | name
  /-- A comma, or the end of what is open. -/
  | next
  deriving DecidableEq, Repr

/-- Passes over the rest of a value. The first argument bounds the number of steps. -/
def skipFrom? : Nat → Expected → List Opened → List Char → Option (List Char)
  | 0, _, _, _ => none
  | _ + 1, .next, [], cs => some cs
  | steps + 1, .value, opened, cs =>
    match skipBlanks cs with
    | 'n' :: rest => (word? ['u', 'l', 'l'] rest).bind (skipFrom? steps .next opened ·)
    | 't' :: rest => (word? ['r', 'u', 'e'] rest).bind (skipFrom? steps .next opened ·)
    | 'f' :: rest => (word? ['a', 'l', 's', 'e'] rest).bind (skipFrom? steps .next opened ·)
    | '"' :: rest => (skipString? rest).bind (skipFrom? steps .next opened ·)
    | '[' :: rest => skipFrom? steps .first (.array :: opened) rest
    | '\x7b' :: rest => skipFrom? steps .first (.object :: opened) rest
    | cs => (number? cs).bind fun (_, rest) => skipFrom? steps .next opened rest
  | steps + 1, .first, opened, cs =>
    match opened, skipBlanks cs with
    | .array :: outer, ']' :: rest => skipFrom? steps .next outer rest
    | .object :: outer, '\x7d' :: rest => skipFrom? steps .next outer rest
    | .object :: _, rest => skipFrom? steps .name opened rest
    | _, rest => skipFrom? steps .value opened rest
  | steps + 1, .name, opened, cs =>
    match skipBlanks cs with
    | '"' :: rest =>
      match (skipString? rest).map skipBlanks with
      | some (':' :: rest) => skipFrom? steps .value opened rest
      | _ => none
    | _ => none
  | steps + 1, .next, o :: outer, cs =>
    match o, skipBlanks cs with
    | .array, ',' :: rest => skipFrom? steps .value (o :: outer) rest
    | .object, ',' :: rest => skipFrom? steps .name (o :: outer) rest
    | .array, ']' :: rest => skipFrom? steps .next outer rest
    | .object, '\x7d' :: rest => skipFrom? steps .next outer rest
    | _, _ => none

/-- The rest of a text after the value at its front. The bound is one on the length of the text;
each character accounts for at most two steps. -/
def skip? (bound : Nat) (cs : List Char) : Option (List Char) :=
  skipFrom? (2 * bound + 2) .value [] cs

end Forum.Json

/-! ## Text fields

Requests carry an object whose fields are texts, some of them optional. `readFields` reads such a
body from left to right and stops at its first problem, which is one of two kinds: the text is not
JSON, or it is JSON but not what was asked for. Members with other names are passed over. An array
is taken in place of an object, with the fields in order. Bytes that are no character may only stand
in strings that are passed over. -/

namespace Forum.Json

/-- Why a body could not be read. -/
inductive Problem where
  /-- The text read so far cannot be continued to JSON. -/
  | malformed
  /-- A value of the wrong kind, a field that is missing, or one that is given twice. -/
  | mismatch
  deriving DecidableEq, Repr

/-- A text field: its name, and whether it may be left out. -/
structure Field where
  /-- The name of the member. -/
  name : String
  /-- Whether the field may be left out. -/
  optional : Bool
  deriving DecidableEq, Repr

/-- The texts found for a list of fields, in their order. -/
abbrev Found := List (Option String)

/-- What is wrong with a value that is not of the kind asked for. A literal word or a number is
read to its end first, an array or an object only opened. -/
def wrongKind (cs : List Char) : Problem :=
  let ifRead (ok : Bool) : Problem := if ok then .mismatch else .malformed
  match cs with
  | 'n' :: rest => ifRead (word? ['u', 'l', 'l'] rest).isSome
  | 't' :: rest => ifRead (word? ['r', 'u', 'e'] rest).isSome
  | 'f' :: rest => ifRead (word? ['a', 'l', 's', 'e'] rest).isSome
  | '"' :: rest => ifRead (string? rest).isSome
  | '[' :: _ => .mismatch
  | '\x7b' :: _ => .mismatch
  | _ => ifRead ((number? cs).any fun (n, _) => n.toBinary64.isFinite)

/-- Reads a text value. -/
def readText (cs : List Char) : Except Problem (String × List Char) :=
  match skipBlanks cs with
  | '"' :: rest => (string? rest).elim (.error .malformed) .ok
  | cs => .error (wrongKind cs)

/-- The texts found with one more, if the field had none yet. -/
def Found.add? (fields : List Field) (name text : String) (found : Found) : Option Found :=
  match fields, found with
  | f :: fs, x :: xs =>
    if f.name = name then (if x.isNone then some (some text :: xs) else none)
    else (Found.add? fs name text xs).map (x :: ·)
  | _, _ => none

/-- Whether a field of the given name has been found already. -/
def Found.has (fields : List Field) (name : String) (found : Found) : Bool :=
  (fields.zip found).any fun (f, x) => f.name = name && x.isSome

/-- The texts found, if every field that must be there is there. -/
def Found.complete (fields : List Field) (found : Found) : Except Problem Found :=
  if (fields.zip found).all fun (f, x) => f.optional || x.isSome then .ok found
  else .error .mismatch

/-- Reads the value of the member whose name and colon have been read, and keeps it if its name is
that of a field. The bound is one on the length of the text. -/
def readMember (fields : List Field) (bound : Nat) (name : String) (found : Found)
    (cs : List Char) : Except Problem (Found × List Char) :=
  if fields.any (·.name = name) then do
    let (text, rest) ← readText cs
    return ((found.add? fields name text).getD found, rest)
  else (skip? bound cs).elim (.error .malformed) fun rest => .ok (found, rest)

/-- Reads the members of an object from the name of the first one. The first argument bounds the
length of the text, and so the number of members. -/
def readMembers (fields : List Field) : Nat → Found → List Char →
    Except Problem (Found × List Char)
  | 0, _, _ => .error .malformed
  | steps + 1, found, cs =>
    match skipBlanks cs with
    | '"' :: rest =>
      match string? rest with
      | none => .error .malformed
      | some (name, rest) =>
        if found.has fields name then .error .mismatch
        else match skipBlanks rest with
          | ':' :: rest =>
            match readMember fields steps name found rest with
            | .error p => .error p
            | .ok (found, rest) =>
              match skipBlanks rest with
              | ',' :: rest => readMembers fields steps found rest
              | '\x7d' :: rest => (found.complete fields).map (·, rest)
              | _ => .error .malformed
          | _ => .error .malformed
    | _ => .error .malformed

/-- Reads an object after its opening brace. -/
def readObject (fields : List Field) (cs : List Char) : Except Problem (Found × List Char) :=
  let none := fields.map fun _ => (none : Option String)
  match skipBlanks cs with
  | '\x7d' :: rest => (Found.complete fields none).map (·, rest)
  | cs => readMembers fields (cs.length + 1) none cs

/-- Reads the items of an array in the order of the fields. Before every item but the first a
comma must stand; items that are left out must be optional, and none may be left over. -/
def readItems (isFirst : Bool) : List Field → List Char → Except Problem (Found × List Char)
  | [], cs =>
    match skipBlanks cs with
    | ']' :: rest => .ok ([], rest)
    | _ => .error .malformed
  | f :: fs, cs =>
    match skipBlanks cs with
    | [] => .error .malformed
    | ']' :: rest =>
      if f.optional then
        match readItems isFirst fs (']' :: rest) with
        | .error p => .error p
        | .ok (found, rest) => .ok (none :: found, rest)
      else .error .mismatch
    | ',' :: rest =>
      if isFirst then .error .malformed
      else if (skipBlanks rest).head? = some ']' then .error .malformed
      else
        match readText rest with
        | .error p => .error p
        | .ok (text, rest) =>
          match readItems false fs rest with
          | .error p => .error p
          | .ok (found, rest) => .ok (some text :: found, rest)
    | cs =>
      if isFirst then
        match readText cs with
        | .error p => .error p
        | .ok (text, rest) =>
          match readItems false fs rest with
          | .error p => .error p
          | .ok (found, rest) => .ok (some text :: found, rest)
      else .error .malformed

/-- The characters of a body. A control character that is there becomes another one, so as not to
pass for bytes that are none. -/
def bodyChars (body : List UInt8) : List Char :=
  (Utf8.parts none body).map fun
    | some c => if c = unreadable then Char.ofNat 0 else c
    | none => unreadable

/-- Reads a body that holds the given fields: an object, or an array with the fields in order,
with nothing but blanks around it. -/
def readFields (fields : List Field) (body : List UInt8) : Except Problem Found :=
  let read := match skipBlanks (bodyChars body) with
    | '\x7b' :: rest => readObject fields rest
    | '[' :: rest => readItems true fields rest
    | cs => .error (wrongKind cs)
  match read with
  | .error p => .error p
  | .ok (found, rest) => if (skipBlanks rest).isEmpty then .ok found else .error .malformed

end Forum.Json
