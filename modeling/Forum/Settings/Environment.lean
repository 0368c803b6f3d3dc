import Forum.Settings.Node
import Forum.Text.CharClass
import Forum.Text.Scan

/-!
# The environment

Variables as the process sees them, and the settings among them. A variable whose name begins with
`AGORA__`, in any mixture of capitals, gives a setting: what follows is its path, with two
underscores for each point. The value is a boolean, a whole number or a number with a point if it
can be read as one, and a text otherwise.
-/

namespace Forum.Settings

/-- Variables with their values; each name occurs once. -/
abbrev Environment := List (String × String)

namespace Environment

/-- The value of a variable. -/
def get? (env : Environment) (name : String) : Option String :=
  (env.find? (·.1 = name)).map (·.2)

/-- Adds a variable, unless there is one of the same name. -/
def setIfAbsent (env : Environment) (name value : String) : Environment :=
  if (env.get? name).isSome then env else env ++ [(name, value)]

/-- Reads variables from their entries, each a name and a value with an equals sign between them
and ended by a zero character. -/
def ofBlock (text : String) : Environment :=
  (Split.parts (Char.ofNat 0) text.toList).filterMap fun entry =>
    match entry.dropWhile (· ≠ '=') with
    | _ :: value => some (String.ofList (entry.takeWhile (· ≠ '=')), String.ofList value)
    | [] => none

/-- What the names of settings begin with. -/
def mark : List Char := ['a', 'g', 'o', 'r', 'a', '_', '_']

/-- A name with each pair of underscores made a point. -/
def pointed : List Char → List Char
  | '_' :: '_' :: rest => '.' :: pointed rest
  | c :: rest => c :: pointed rest
  | [] => []

/-- The path of the setting that a variable gives, if it gives one. -/
def settingName? (name : String) : Option String :=
  let cs := (LetterCase.lower name).toList
  if mark.isPrefixOf cs then some (String.ofList (pointed (cs.drop mark.length))) else none

/-- The value of a setting that is given as text. -/
def valueOf (text : String) : Node :=
  let word := LetterCase.lower text
  if word = "true" then .boolean true
  else if word = "false" then .boolean false
  else match Numeral.int64? text.toList, Binary64.parse? text.toList with
    | some n, _ => .integer n
    | none, some x => .float x
    | none, none => .text text

/-- The settings among the variables. -/
def settings (env : Environment) : List (String × Node) :=
  env.filterMap fun (name, value) => (settingName? name).map (·, valueOf value)

end Environment

end Forum.Settings

/-! ## Files of variables

A file that sets variables, one `NAME=value` to a line, which may begin with `export`. A value may
be quoted and then go over several lines; between double quotes and outside quotes a backslash
escapes, and a dollar sign puts in the value of another variable. A number sign after a blank
begins a comment. Reading ends silently at the first line that is not of this form. A variable
that is already set keeps its value. -/

namespace Forum.Settings.EnvFile

/-- Where in a logical line a character stands. -/
inductive Place where
  /-- Outside quotes. -/
  | plain
  /-- After a blank outside quotes. -/
  | blank
  /-- After a backslash outside quotes. -/
  | escape
  /-- Between single quotes. -/
  | strong
  /-- After a backslash between single quotes. -/
  | strongEscape
  /-- Between double quotes. -/
  | weak
  /-- After a backslash between double quotes. -/
  | weakEscape
  deriving DecidableEq, Repr

/-- Where the next character stands. A number sign after a blank is dealt with by `scan`. -/
def Place.step (p : Place) (c : Char) : Place :=
  let opened (otherwise : Place) : Place :=
    if c = '\\' then .escape
    else if c = '"' then .weak
    else if c = '\'' then .strong
    else otherwise
  match p with
  | .plain => opened (if Blank.contains c && c ≠ '\n' && c ≠ '\r' then .blank else .plain)
  | .blank => opened .plain
  | .escape => .plain
  | .strong => if c = '\\' then .strongEscape else if c = '\'' then .plain else .strong
  | .strongEscape => .strong
  | .weak => if c = '\\' then .weakEscape else if c = '"' then .plain else .weak
  | .weakEscape => .weak

/-- Goes through a line: where it ends, and if a comment begins, what stands before it. -/
def scan : Place → List Char → Place × Option (List Char)
  | p, [] => (p, none)
  | p, c :: rest =>
    if p = .blank && c = '#' then (p, some [])
    else
      let (last, before) := scan (p.step c) rest
      (last, before.map (c :: ·))

/-- The lines of a text, each with its line feed. -/
def physicalLines : List Char → List (List Char)
  | [] => []
  | c :: rest =>
    if c = '\n' then [c] :: physicalLines rest
    else match physicalLines rest with
      | [] => [[c]]
      | line :: lines => (c :: line) :: lines

/-- A line without its line feed, and without the carriage return before it. -/
def chomp (line : List Char) : List Char :=
  match line.reverse with
  | '\n' :: '\r' :: rest => rest.reverse
  | '\n' :: rest => rest.reverse
  | _ => line

/-- Joins lines that are held together by quotes or a backslash. What has been read of a line comes
first. A line that is not closed at the end of the text is none. -/
def logicalLines (read : List Char) (p : Place) : List (List Char) → List (Option (List Char))
  | [] => if p = .plain then [] else [none]
  | line :: rest =>
    if (Blank.trimStart (read ++ line)).head? = some '#' then
      some [] :: logicalLines [] .plain rest
    else match scan p line with
      | (_, some before) => some (read ++ before) :: logicalLines [] .plain rest
      | (.plain, none) => some (chomp (read ++ line)) :: logicalLines [] .plain rest
      | (p, none) => logicalLines (read ++ line) p rest

/-- Where in a value a character stands. -/
inductive ValuePlace where
  /-- Outside single quotes; the flag says whether between double quotes. -/
  | text (weak : Bool)
  /-- Between single quotes. -/
  | strong
  /-- After a backslash. -/
  | escape (weak : Bool)
  /-- In a name after a dollar sign. The characters of the name are held in reverse. -/
  | name (weak : Bool) (read : List Char)
  /-- In a name between braces after a dollar sign. -/
  | braced (weak : Bool) (read : List Char)
  /-- After the value. -/
  | ended
  /-- In a comment. -/
  | comment
  deriving DecidableEq, Repr

/-- How far a value has been read: where the next character stands, and what has been read, in
reverse. -/
abbrev ValueScan := ValuePlace × List Char

/-- The value of the variable whose name is held in reverse, put behind what has been read. -/
def putIn (env : Environment) (name out : List Char) : List Char :=
  ((env.get? (String.ofList name.reverse)).getD "").toList.reverse ++ out

/-- Goes on by one character. -/
def stepValue? (env : Environment) (s : ValueScan) (c : Char) : Option ValueScan :=
  match s with
  | (.ended, out) =>
    if c = ' ' || c = '\t' then some (.ended, out)
    else if c = '#' then some (.comment, out)
    else none
  | (.comment, out) => some (.comment, out)
  | (.escape weak, out) =>
    if c = '\\' || c = '\'' || c = '"' || c = '$' || c = ' ' then some (.text weak, c :: out)
    else if c = 'n' then some (.text weak, '\n' :: out)
    else none
  | (.strong, out) => if c = '\'' then some (.text false, out) else some (.strong, c :: out)
  | (.name weak read, out) =>
    if Alphanumeric.contains c then some (.name weak (c :: read), out)
    else if c = '\x7b' && read.isEmpty then some (.braced weak [], out)
    else if c = '$' then some (.name weak [], putIn env read out)
    else some (.text weak, c :: putIn env read out)
  | (.braced weak read, out) =>
    if c = '\x7d' then some (.text weak, putIn env read out)
    else some (.braced weak (c :: read), out)
  | (.text weak, out) =>
    if c = '$' then some (.name weak [], out)
    else if c = '\\' then some (.escape weak, out)
    else if c = '"' then some (.text (!weak), out)
    else if weak then some (.text weak, c :: out)
    else if c = '\'' then some (.strong, out)
    else if c = ' ' || c = '\t' then some (.ended, out)
    else some (.text weak, c :: out)

/-- The value that has been read, if it may end here. -/
def endValue? (env : Environment) : ValueScan → Option String
  | (.name false read, out) => some (String.ofList (putIn env read out).reverse)
  | (.text false, out) | (.escape false, out) | (.ended, out) | (.comment, out) =>
    some (String.ofList out.reverse)
  | _ => none

/-- Reads a value. -/
def value? (env : Environment) (cs : List Char) : Option String :=
  (cs.foldlM (stepValue? env) (.text false, [])).bind (endValue? env)

/-- Reads a name. -/
def name? (cs : List Char) : Option (String × List Char) :=
  let inName (c : Char) : Bool := c.isAlphanum || c = '_' || c = '.'
  match cs with
  | c :: _ =>
    if c.isAlpha || c = '_' then
      some (String.ofList (cs.takeWhile inName), Blank.trimStart (cs.dropWhile inName))
    else none
  | [] => none

/-- Reads a name and the equals sign after it. The word `export` may stand in front. -/
def assigned? (cs : List Char) : Option (String × List Char) :=
  match name? cs with
  | some (name, '=' :: rest) => some (name, rest)
  | some (word, rest) =>
    if word = "export" then
      match name? rest with
      | some (name, '=' :: rest) => some (name, rest)
      | _ => none
    else none
  | none => none

/-- What a line sets: nothing, or a variable. No answer means that the line is not of the form. -/
def readLine? (env : Environment) (line : List Char) : Option (Option (String × String)) :=
  let cs := Blank.trimStart (Blank.trimEnd line)
  if cs.isEmpty || cs.head? = some '#' then some none
  else match assigned? cs with
    | none => none
    | some (name, rest) =>
      let rest := Blank.trimStart rest
      if rest.isEmpty || rest.head? = some '#' then some (some (name, ""))
      else (value? env rest).map fun v => some (name, v)

/-- Sets the variables of lines, up to the first that is not of the form. -/
def loadLines : List (Option (List Char)) → Environment → Environment
  | some line :: rest, env =>
    match readLine? env line with
    | some (some (name, value)) => loadLines rest (env.setIfAbsent name value)
    | some none => loadLines rest env
    | none => env
  | _, env => env

/-- Sets the variables of a file. -/
def load (text : String) (env : Environment) : Environment :=
  let cs := match text.toList with
    | '\uFEFF' :: rest => rest
    | cs => cs
  loadLines (logicalLines [] .plain (physicalLines cs)) env

end Forum.Settings.EnvFile
