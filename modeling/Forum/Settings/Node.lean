import Forum.Number.Binary64
import Forum.Text.LetterCase

/-!
# Trees of settings

What files and the environment say about settings, before anyone asks for a particular one. Names
in tables are kept in lower case. A later layer is merged into an earlier one: tables are merged
name by name, anything else takes the place of what was there.
-/

namespace Forum.Settings

/-- A setting, or a group of settings. -/
inductive Node where
  /-- No value. -/
  | nothing
  | boolean (b : Bool)
  | integer (n : Int64)
  | float (x : Binary64)
  | text (s : String)
  | list (items : List Node)
  | table (entries : List (String × Node))
  deriving Repr, Inhabited

namespace Node

/-- The entries of a table; anything else has none. -/
def entries : Node → List (String × Node)
  | table es => es
  | _ => []

/-- The items of a list; anything else has none. -/
def items : Node → List Node
  | list xs => xs
  | _ => []

/-- The value of a name in a list of entries. -/
def lookup? (name : String) (es : List (String × Node)) : Option Node :=
  (es.find? (·.1 = name)).map (·.2)

/-- Gives a name a new value, made from its old one. A name that is not there counts as having no
value, and comes last. -/
def alter (name : String) (f : Node → Node) : List (String × Node) → List (String × Node)
  | [] => [(name, f nothing)]
  | (n, v) :: rest => if n = name then (n, f v) :: rest else (n, v) :: alter name f rest

/-- The value of a name, or an empty table if it is not there. -/
def subtable (name : String) (n : Node) : Node :=
  (lookup? name n.entries).getD (table [])

mutual

/-- Gives a name a value in a table; what is no table becomes one. If the value is a table, it is
merged into the one that is there. -/
def set (name : String) : Node → Node → Node
  | table es, into =>
    let key := LetterCase.lower name
    let merged := setAll es (into.subtable key)
    table (alter key (fun _ => merged) into.entries)
  | v, into => table (alter (LetterCase.lower name) (fun _ => v) into.entries)

/-- Gives each name its value, in order. -/
def setAll : List (String × Node) → Node → Node
  | [], into => into
  | (name, v) :: rest, into => setAll rest (set name v into)

end

end Node

end Forum.Settings

/-! ## Paths to settings

Where a setting lies in a tree: a name, then names after points and places in brackets. Places are
counted from zero, or backwards from the end when they are negative. Setting a value at a path
turns whatever is in the way into a table or a list. -/

namespace Forum.Settings

-- Powers of numbers are the built-in ones, whatever else is in scope.
attribute [local instance (high)] instPowNat

/-- A path. -/
inductive Path where
  /-- A name at the root. -/
  | name (s : String)
  /-- A name below a path. -/
  | child (parent : Path) (s : String)
  /-- A place below a path. -/
  | item (parent : Path) (place : Int)
  deriving Repr, DecidableEq

namespace Path

/-- Whether a character may stand in a name. -/
def isNameChar (c : Char) : Bool :=
  c.isAlphanum || c = ' ' || c = '_' || c = '-'

/-- Whether a character is a blank around a place. -/
def isBlank (c : Char) : Bool :=
  c = ' ' || c = '\t'

/-- Reads a place between brackets, with blanks around it. -/
def place? (cs : List Char) : Option Int :=
  let cs := ((cs.dropWhile isBlank).reverse.dropWhile isBlank).reverse
  if cs.head? = some '+' then none
  else (Numeral.integer? cs).filter fun n => -2 ^ (63 : Nat) ≤ n && n < 2 ^ (63 : Nat)

/-- Goes on after a path. The first argument bounds the number of steps. -/
def parseFrom? : Nat → Path → List Char → Option Path
  | _, p, [] => some p
  | steps + 1, p, '.' :: cs =>
    let s := cs.takeWhile isNameChar
    if s.isEmpty then none
    else parseFrom? steps (.child p (String.ofList s)) (cs.dropWhile isNameChar)
  | steps + 1, p, '[' :: cs =>
    match place? (cs.takeWhile (· ≠ ']')), cs.dropWhile (· ≠ ']') with
    | some n, ']' :: rest => parseFrom? steps (.item p n) rest
    | _, _ => none
  | _, _, _ => none

/-- Reads a path. -/
def parse? (text : String) : Option Path :=
  let cs := text.toList
  let s := cs.takeWhile isNameChar
  if s.isEmpty then none
  else parseFrom? cs.length (.name (String.ofList s)) (cs.dropWhile isNameChar)

/-- The place counted from the start. -/
def fromStart (place : Int) (length : Nat) : Nat :=
  if 0 ≤ place then place.toNat else length - place.natAbs

/-- Gives a place in a list a new value, made from its old one; the list grows if it is too
short. -/
def alterItem (place : Nat) (f : Node → Node) (xs : List Node) : List Node :=
  let xs := xs ++ List.replicate (place + 1 - xs.length) .nothing
  xs.modify place f

/-- Changes what is at a path. -/
def modify (f : Node → Node) : Path → Node → Node
  | name s, root => .table (Node.alter (LetterCase.lower s) f root.entries)
  | child p s, root =>
    p.modify (fun v => .table (Node.alter (LetterCase.lower s) f v.entries)) root
  | item p n, root =>
    p.modify (fun v => .list (alterItem (fromStart n v.items.length) f v.items)) root

/-- Gives what is at a path a value. -/
def set (value : Node) : Path → Node → Node
  | name s, root => Node.set s value root
  | child p s, root => p.modify (Node.set s value) root
  | item p n, root =>
    p.modify (fun v => .list (alterItem (fromStart n v.items.length) (fun _ => value) v.items)) root

end Path

/-- Gives a key a value: at the path that the key writes, or else under the key as it is. -/
def setKey (key : String) (value root : Node) : Node :=
  match Path.parse? key with
  | some p => p.set value root
  | none => Node.set key value root

/-- Merges a layer, given by its top-level keys, into a tree. -/
def merge (layer : List (String × Node)) (root : Node) : Node :=
  layer.foldl (fun root (key, value) => setKey key value root) root

end Forum.Settings
