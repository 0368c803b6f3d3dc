import Forum.Json.Document
import Forum.Json.Fields
import Forum.Text.Scan
import Forum.Toml.Document

/-!
# Files of settings

Finding a file of settings and reading it. A file is named without its extension, which says in
which of the known formats it is; a name that is that of a file as it stands is taken as it is. A
file that does not exist gives no settings. TOML and JSON are known unless other formats are given.
-/

namespace Forum.Settings

/-- The files at hand: their paths, from the working directory, and their texts. -/
abbrev Files := List (String × String)

/-- The parts of a path, without those that lead nowhere. -/
def pathParts (path : String) : List String :=
  ((Split.parts '/' path.toList).map String.ofList).filter fun part => part ≠ "" && part ≠ "."

namespace Files

/-- The text of the file at a path. -/
def get? (files : Files) (parts : List String) : Option String :=
  (files.find? fun (path, _) => pathParts path = parts).map (·.2)

/-- Whether there is a file below a path. -/
def isDirectory (files : Files) (parts : List String) : Bool :=
  files.any fun (path, _) => parts.isPrefixOf (pathParts path) && pathParts path ≠ parts

/-- The directory that parts lead to from the place reached. Only a directory that exists can be
left again, and the working directory cannot. -/
def directory? (files : Files) : List String → List String → Option (List String)
  | reached, [] => some reached
  | reached, part :: rest =>
    if part ≠ ".." then files.directory? (reached ++ [part]) rest
    else if !reached.isEmpty && files.isDirectory reached then
      files.directory? reached.dropLast rest
    else none

end Files

/-! ## Formats -/

mutual

/-- A JSON value as settings. A whole number of more than 64 bits counts as one with a point, and a
number that is too large cannot be read. -/
def ofJson? : Json → Option Node
  | .null => some .nothing
  | .bool b => some (.boolean b)
  | .number n =>
    match n.whole?.bind Numeral.fitting? with
    | some v => some (.integer v)
    | none => if n.toBinary64.isFinite then some (.float n.toBinary64) else none
  | .string s => some (.text s)
  | .array items => (ofItems? items).map .list
  | .object members => (ofMembers? members).map .table

/-- The items of an array as settings. -/
def ofItems? : List Json → Option (List Node)
  | [] => some []
  | v :: rest => do return (← ofJson? v) :: (← ofItems? rest)

/-- The members of an object as settings; of members of the same name the last one counts. -/
def ofMembers? : List (String × Json) → Option (List (String × Node))
  | [] => some []
  | (name, v) :: rest => do
    let v ← ofJson? v
    let rest ← ofMembers? rest
    return if rest.any (·.1 = name) then rest else (name, v) :: rest

end

/-- The greatest depth to which JSON files may be nested. -/
def maxJsonDepth : Nat := 128

/-- The settings in a JSON text, by their top-level keys. -/
def readJson? (text : String) : Option (List (String × Node)) :=
  match (Json.parseWithin? maxJsonDepth text).bind ofJson? with
  | some (.table es) => some es
  | _ => none

/-- A format of files. -/
structure Format where
  /-- The extensions that the names of its files have. -/
  extensions : List String
  /-- Reads the settings in a text, by their top-level keys. -/
  read? : String → Option (List (String × Node))

/-- The known formats, in the order in which their extensions are tried. -/
class Formats where
  known : List Format

/-- TOML and JSON. -/
instance Formats.usual : Formats :=
  ⟨[⟨["toml"], Toml.parse?⟩, ⟨["json"], readJson?⟩]⟩

/-- The settings in a file of a format. A mark of the byte order in front does not count. -/
def Format.readFile? (format : Format) (text : String) : Option (List (String × Node)) :=
  format.read? <| match text.toList with
    | '\uFEFF' :: rest => String.ofList rest
    | _ => text

/-! ## Finding a file -/

/-- The format that the name of a file ends in. -/
def Format.ofName? [Formats] (name : String) : Option Format :=
  match (Split.parts '.' name.toList).reverse with
  | last :: stem :: more =>
    if more.isEmpty && stem.isEmpty then none
    else Formats.known.find? (·.extensions.any (·.toList = last))
  | _ => none

/-- The names of the files of known formats that are looked for under a name. -/
def extended [Formats] (name : String) : List (Format × String) :=
  Formats.known.flatMap fun format => format.extensions.map (format, name ++ "." ++ ·)

/-- The file with a name in a directory: the file of exactly that name, or with an extension
added. -/
def findIn? [Formats] (files : Files) (directory : List String) (name : String) :
    Option (Format × String) :=
  match files.get? (directory ++ [name]) with
  | some text => (Format.ofName? name).map (·, text)
  | none => (extended name).findSome? fun (format, name) =>
      (files.get? (directory ++ [name])).map (format, ·)

/-- The file at a path. A path that ends in a step back leads to none. -/
def find? [Formats] (files : Files) (path : String) : Option (Format × String) :=
  let parts := pathParts path
  (parts.getLast?.filter (· ≠ "..")).bind fun name =>
    (files.directory? [] parts.dropLast).bind fun directory => findIn? files directory name

end Forum.Settings
