import Forum.Number.Binary64
import Forum.Settings.Node

/-!
# Reading settings

How a setting is read as the kind of value that is asked for. Numbers, booleans and texts stand in
for each other where that makes sense; tables, lists and missing values never do.
-/

namespace Forum.Settings

-- Powers of numbers are the built-in ones, whatever else is in scope.
attribute [local instance (high)] instPowNat

/-- What is wrong with the settings. -/
inductive Problem where
  /-- A setting or a group that must be there is not. -/
  | missing (name : String)
  /-- A setting has a value of the wrong kind, or one that is out of range. -/
  | invalidValue (key : String)
  /-- A file cannot be read. -/
  | unreadableFile
  /-- Anything else: a group that is none, or a choice that does not exist. -/
  | malformed
  deriving DecidableEq, Repr

/-- The wording of a problem. -/
def Problem.message : Problem → String
  | .missing name => s!"missing field `{name}`"
  | .invalidValue key => s!"invalid value for key `{key}`"
  | .unreadableFile => "file parse error"
  | .malformed => "invalid configuration"

/-- Whether a word says yes or no. -/
def yesOrNo? (word : String) : Option Bool :=
  if word = "true" ∨ word = "on" ∨ word = "yes" then some true
  else if word = "false" ∨ word = "off" ∨ word = "no" then some false
  else none

/-- The value of a boolean as a number. -/
def bit (b : Bool) : Nat :=
  if b then 1 else 0

namespace Node

/-- The greatest unsigned number of 64 bits. -/
def maxUnsigned : Nat := 2 ^ (64 : Nat) - 1

/-- A setting as an unsigned number of 64 bits. -/
def unsigned? : Node → Option Nat
  | integer n => if 0 ≤ n.toInt then some n.toInt.toNat else none
  | float x => some (x.roundWithin 0 maxUnsigned).toNat
  | boolean b => some (bit b)
  | text s =>
    match yesOrNo? (LetterCase.lower s) with
    | some b => some (bit b)
    | none => Numeral.below? (maxUnsigned + 1) s.toList
  | nothing | list _ | table _ => none

/-- A setting as an unsigned number up to a bound. -/
def upTo? (max : Nat) (n : Node) : Option Nat :=
  n.unsigned?.filter (· ≤ max)

/-- A setting as a boolean. -/
def boolean? : Node → Option Bool
  | boolean b => some b
  | integer n => some (n ≠ 0)
  | float x => some (!x.isZero)
  | text s =>
    let word := LetterCase.lower s
    if word = "1" then some true else if word = "0" then some false else yesOrNo? word
  | nothing | list _ | table _ => none

/-- A setting as a text. -/
def text? : Node → Option String
  | text s => some s
  | integer n => some (toString n)
  | float x => some x.text
  | boolean b => some (if b then "true" else "false")
  | nothing | list _ | table _ => none

end Node

/-- A group of settings, by name or by place. -/
inductive Group where
  | named (entries : List (String × Node))
  | listed (items : List Node)
  deriving Repr

namespace Group

/-- The group that a setting is. -/
def ofNode? : Node → Option Group
  | .table es => some (named es)
  | .list xs => some (listed xs)
  | _ => none

/-- The setting with a name, or at a place. -/
def find? (name : String) (place : Nat) : Group → Option Node
  | named es => Node.lookup? name es
  | listed xs => xs[place]?

/-- How a setting of a group is called. -/
def key (group name : String) (place : Nat) : Group → String
  | named _ => s!"{group}.{name}"
  | listed _ => s!"{group}[{place}]"

/-- Reads a setting that may be left out. -/
def read? {α : Type} (g : Group) (group name : String) (place : Nat) (read : Node → Option α) :
    Except Problem (Option α) :=
  match g.find? name place with
  | none => .ok none
  | some n =>
    match read n with
    | some a => .ok (some a)
    | none => .error (.invalidValue (g.key group name place))

/-- Reads a setting that has a usual value. -/
def readOr {α : Type} (g : Group) (group name : String) (place : Nat) (read : Node → Option α)
    (usual : α) : Except Problem α := do
  return (← g.read? group name place read).getD usual

/-- The problem of a setting that is left out. In a list nothing can be left out by name. -/
def missing (name : String) : Group → Problem
  | named _ => .missing name
  | listed _ => .malformed

end Group

end Forum.Settings
