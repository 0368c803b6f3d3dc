import Forum.Settings.Node
import Forum.Toml.Scalar

/-!
# TOML documents

A whole text as a table of settings, and the tables while it is being read.
-/

/-! ## Tables

Tables while a document is being read. A table may be mentioned before it is defined, but it is
defined only once: by its own header, by keys with points, or as a value in braces, which is
closed at once. A header that is used for a list of tables adds a table to the list, and paths
through the list lead into its last table. -/

namespace Forum.Toml

open Settings (Node)

/-- What a name stands for. -/
inductive Tree where
  /-- A value, to which nothing can be added. -/
  | value (v : Node)
  /-- A table: whether it has only been mentioned, whether keys with points made it, and what it
  holds. -/
  | table (mentioned dotted : Bool) (entries : List (String × Tree))
  /-- A list of tables. -/
  | tables (elements : List (List (String × Tree)))
  deriving Repr, Inhabited

/-- The names of a table with what they stand for. -/
abbrev Entries := List (String × Tree)

namespace Tree

/-- What a name stands for. -/
def lookup? (name : String) (es : Entries) : Option Tree :=
  (es.find? (·.1 = name)).map (·.2)

/-- Lets a name stand for something else; a new name comes last. -/
def put (name : String) (t : Tree) : Entries → Entries
  | [] => [(name, t)]
  | (n, u) :: rest => if n = name then (n, t) :: rest else (n, u) :: put name t rest

/-- Changes the table at the end of a path, which is told whether keys with points made it. Tables
on the way that are not there are mentioned by this. Keys with points do not lead into a table
that has a header of its own. -/
def descend (dotted : Bool) (f : Bool → Entries → Option Entries) (isDotted : Bool) :
    List String → Entries → Option Entries
  | [], es => f isDotted es
  | name :: path, es =>
    match lookup? name es with
    | none => (descend dotted f dotted path []).map fun new => put name (table true dotted new) es
    | some (value _) => none
    | some (table mentioned made inner) =>
      if dotted && !mentioned then none
      else (descend dotted f made path inner).map fun new =>
        put name (table mentioned made new) es
    | some (tables elements) =>
      match elements.getLast? with
      | none => none
      | some last => (descend dotted f false path last).map fun new =>
          put name (tables (elements.dropLast ++ [new])) es

/-- Adds a value under a key. -/
def addPair (path : List String) (name : String) (v : Node) (es : Entries) : Option Entries :=
  descend true (fun isDotted inner =>
    if isDotted = path.isEmpty then none
    else if (lookup? name inner).isSome then none
    else some (inner ++ [(name, value v)])) false path es

/-- A key with its value: the tables on the way, the last part, the value. -/
abbrev Pair := (List String × String) × Node

/-- Adds values under keys, in order. -/
def addPairs (pairs : List Pair) (es : Entries) : Option Entries :=
  pairs.foldlM (fun es ((path, name), v) => addPair path name v es) es

/-- Adds the table of a header with its pairs. -/
def addTable (path : List String) (name : String) (pairs : List Pair) (es : Entries) :
    Option Entries :=
  descend false (fun _ inner =>
    match lookup? name inner with
    | none => (addPairs pairs []).map fun new => inner ++ [(name, table false false new)]
    | some (table true false old) =>
      (addPairs pairs old).map fun new => put name (table false false new) inner
    | some _ => none) false path es

/-- Adds a table with its pairs to a list of tables. -/
def addElement (path : List String) (name : String) (pairs : List Pair) (es : Entries) :
    Option Entries :=
  descend false (fun _ inner =>
    match lookup? name inner with
    | none => (addPairs pairs []).map fun new => inner ++ [(name, tables [new])]
    | some (tables elements) =>
      (addPairs pairs []).map fun new => put name (tables (elements ++ [new])) inner
    | some _ => none) false path es

mutual

/-- What has been read, as a setting or a group of settings. -/
def toNode : Tree → Node
  | value v => v
  | table _ _ entries => .table (toNodes entries)
  | tables elements => .list (toTables elements)

/-- The entries of a table as settings. -/
def toNodes : List (String × Tree) → List (String × Node)
  | [] => []
  | (name, t) :: rest => (name, t.toNode) :: toNodes rest

/-- The elements of a list of tables as groups of settings. -/
def toTables : List (List (String × Tree)) → List Node
  | [] => []
  | es :: rest => .table (toNodes es) :: toTables rest

end

end Tree

end Forum.Toml

/-! ## Documents

A whole text as a table of settings: pairs of keys and values line by line, under headers that
open tables. `Toml.parse?` accepts the documents of version 1.0 of the format, nested at most
eighty deep. -/

namespace Forum.Toml

open Settings (Node)

mutual

/-- Reads one value. The first bound is on the steps taken, the second on the nesting. -/
def value? : Nat → Nat → List Char → Option (Node × List Char)
  | 0, _, _ => none
  | steps + 1, depth, cs =>
    match cs with
    | '"' :: _ => (string? cs).map fun (s, rest) => (Node.text s, rest)
    | '\'' :: _ => (string? cs).map fun (s, rest) => (Node.text s, rest)
    | '[' :: rest => if depth = 0 then none else items? steps (depth - 1) [] rest
    | '\x7b' :: rest =>
      if depth = 0 then none
      else match skipBlanks rest with
        | '\x7d' :: rest => some (.table [], rest)
        | rest => pairs? steps (depth - 1) [] rest
    | _ => (scalar? (word cs).1).map (·, (word cs).2)

/-- Reads the items of a list up to its closing bracket. The items read so far are held in
reverse. -/
def items? : Nat → Nat → List Node → List Char → Option (Node × List Char)
  | 0, _, _, _ => none
  | steps + 1, depth, read, cs =>
    match skipLines (cs.length + 1) cs with
    | ']' :: rest => some (.list read.reverse, rest)
    | cs =>
      match value? steps depth cs with
      | none => none
      | some (v, rest) =>
        match skipLines (rest.length + 1) rest with
        | ',' :: rest => items? steps depth (v :: read) rest
        | ']' :: rest => some (.list (v :: read).reverse, rest)
        | _ => none

/-- Reads the pairs of a table in braces up to its closing brace. The pairs read so far are held
in reverse. -/
def pairs? : Nat → Nat → List Tree.Pair → List Char → Option (Node × List Char)
  | 0, _, _, _ => none
  | steps + 1, depth, read, cs =>
    match key? cs with
    | some (key, '=' :: rest) =>
      match value? steps depth (skipBlanks rest) with
      | none => none
      | some (v, rest) =>
        match skipBlanks rest with
        | ',' :: rest => pairs? steps depth ((key, v) :: read) rest
        | '\x7d' :: rest =>
          (Tree.addPairs ((key, v) :: read).reverse []).map fun es =>
            (.table (Tree.toNodes es), rest)
        | _ => none
    | _ => none

end

/-- The greatest depth of nesting. -/
def maxDepth : Nat := 80

/-- One line of a document. -/
inductive Statement where
  /-- A value under a key. -/
  | pair (p : Tree.Pair)
  /-- The header of a table. -/
  | header (path : List String) (name : String)
  /-- The header of one more table of a list. -/
  | element (path : List String) (name : String)
  deriving Repr

/-- Reads a statement and the end of its line. -/
def statement? (cs : List Char) : Option (Statement × List Char) :=
  match cs with
  | '[' :: '[' :: rest =>
    match key? rest with
    | some ((path, name), ']' :: ']' :: rest) => (endLine? rest).map (.element path name, ·)
    | _ => none
  | '[' :: rest =>
    match key? rest with
    | some ((path, name), ']' :: rest) => (endLine? rest).map (.header path name, ·)
    | _ => none
  | _ =>
    match key? cs with
    | some (key, '=' :: rest) =>
      match value? (cs.length + 1) maxDepth (skipBlanks rest) with
      | some (v, rest) => (endLine? rest).map (.pair (key, v), ·)
      | none => none
    | _ => none

/-- Reads all statements. The first argument bounds their number. -/
def statements? : Nat → List Char → Option (List Statement)
  | 0, _ => none
  | steps + 1, cs =>
    match skipLines (cs.length + 1) cs with
    | [] => some []
    | cs =>
      match statement? cs with
      | none => none
      | some (s, rest) => (statements? steps rest).map (s :: ·)

/-- The pairs before the first header, and the statements from there on. -/
def leadingPairs : List Statement → List Tree.Pair × List Statement
  | .pair p :: rest => (p :: (leadingPairs rest).1, (leadingPairs rest).2)
  | rest => ([], rest)

/-- Adds the tables of all headers. The first argument bounds their number. -/
def addSections? : Nat → List Statement → Entries → Option Entries
  | _, [], es => some es
  | 0, _, _ => none
  | _ + 1, .pair _ :: _, _ => none
  | steps + 1, .header path name :: rest, es =>
    (Tree.addTable path name (leadingPairs rest).1 es).bind
      (addSections? steps (leadingPairs rest).2)
  | steps + 1, .element path name :: rest, es =>
    (Tree.addElement path name (leadingPairs rest).1 es).bind
      (addSections? steps (leadingPairs rest).2)

/-- The table that a document writes. -/
def parse? (text : String) : Option (List (String × Node)) := do
  let cs := match text.toList with
    | '\uFEFF' :: rest => rest
    | cs => cs
  let statements ← statements? (cs.length + 1) cs
  let (pairs, sections) := leadingPairs statements
  let es ← addSections? sections.length sections (← Tree.addPairs pairs [])
  return Tree.toNodes es

end Forum.Toml
