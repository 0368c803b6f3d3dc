import Forum.Json.Token

/-!
# JSON documents

A whole text as one value. The reader bounds how deeply arrays and objects may be nested; blanks
may stand around the value and nothing else.
-/

namespace Forum.Json

mutual

/-- Reads one value. The first bound is on the steps taken, the second on the nesting. -/
def value? : Nat → Nat → List Char → Option (Json × List Char)
  | 0, _, _ => none
  | steps + 1, depth, cs =>
    match skipBlanks cs with
    | 'n' :: rest => (word? ['u', 'l', 'l'] rest).map (Json.null, ·)
    | 't' :: rest => (word? ['r', 'u', 'e'] rest).map (Json.bool true, ·)
    | 'f' :: rest => (word? ['a', 'l', 's', 'e'] rest).map (Json.bool false, ·)
    | '"' :: rest => (string? rest).map fun (s, rest) => (Json.string s, rest)
    | '[' :: rest =>
      if depth < 2 then none
      else match skipBlanks rest with
        | ']' :: rest => some (.array [], rest)
        | _ => items? steps (depth - 1) [] rest
    | '\x7b' :: rest =>
      if depth < 2 then none
      else match skipBlanks rest with
        | '\x7d' :: rest => some (.object [], rest)
        | _ => members? steps (depth - 1) [] rest
    | cs => (number? cs).map fun (n, rest) => (Json.number n, rest)

/-- Reads the items of an array up to its closing bracket. The items read so far are held in
reverse. -/
def items? : Nat → Nat → List Json → List Char → Option (Json × List Char)
  | 0, _, _, _ => none
  | steps + 1, depth, read, cs =>
    match value? steps depth cs with
    | none => none
    | some (v, rest) =>
      match skipBlanks rest with
      | ',' :: rest => items? steps depth (v :: read) rest
      | ']' :: rest => some (.array (v :: read).reverse, rest)
      | _ => none

/-- Reads the members of an object up to its closing brace. The members read so far are held in
reverse. -/
def members? : Nat → Nat → List (String × Json) → List Char → Option (Json × List Char)
  | 0, _, _, _ => none
  | steps + 1, depth, read, cs =>
    match skipBlanks cs with
    | '"' :: rest =>
      match string? rest with
      | none => none
      | some (name, rest) =>
        match skipBlanks rest with
        | ':' :: rest =>
          match value? steps depth rest with
          | none => none
          | some (v, rest) =>
            match skipBlanks rest with
            | ',' :: rest => members? steps depth ((name, v) :: read) rest
            | '\x7d' :: rest => some (.object ((name, v) :: read).reverse, rest)
            | _ => none
        | _ => none
    | _ => none

end

/-- Reads a text that is one value, nested less deeply than the bound. -/
def parseWithin? (depth : Nat) (text : String) : Option Json :=
  match value? (text.length + 1) depth text.toList with
  | some (v, rest) => if (skipBlanks rest).isEmpty then some v else none
  | none => none

/-- Reads a text that is one value, however deeply nested. -/
def parse? (text : String) : Option Json :=
  parseWithin? (text.length + 2) text

end Forum.Json
