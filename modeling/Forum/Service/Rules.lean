import Forum.Fault
import Forum.Json
import Forum.Text.LetterCase

/-!
# Pages and rules

How a request for a page is brought into bounds, and what the services are told by the settings.
-/

/-! ## Pages

Listings come in pages. A request may ask for any page of any size, or for none; it is brought
into bounds before anything is fetched. Pages count from one, sizes lie between one and a maximum,
and the offset never exceeds the greatest signed number of 64 bits. -/

namespace Forum

-- Powers of numbers are the built-in ones, whatever else is in scope.
attribute [local instance (high)] instPowNat

/-- The order of a listing. -/
inductive ListOrder where
  /-- By falling score. -/
  | hot
  /-- Newest first. -/
  | newest
  deriving DecidableEq, Repr

/-- The name of an order. -/
def ListOrder.name : ListOrder → String
  | hot => "hot"
  | newest => "new"

/-- The order that a text asks for, in any mixture of capitals; newest first unless it asks for
scores. -/
def ListOrder.ofText (text : Option String) : ListOrder :=
  match text.map LetterCase.lowerAscii with
  | some word => if word = "hot" ∨ word = "score" then hot else newest
  | none => newest

namespace Page

/-- What a caller asks for. -/
structure Request where
  /-- The number of the page. -/
  page : Option Int64
  /-- The size of the page. -/
  limit : Option Int64
  /-- The order, by name. -/
  order : Option String
  deriving DecidableEq, Repr

/-- A number that may be left out or null. -/
def readNumber? : Option Json → Option (Option Int64)
  | none | some .null => some none
  | some (.number n) =>
    (n.whole?.bind Numeral.fitting?).map some
  | some _ => none

/-- A text that may be left out or null. -/
def readText? : Option Json → Option (Option String)
  | none | some .null => some none
  | some (.string s) => some (some s)
  | some _ => none

/-- The request that a JSON value stands for: an object, or an array of the three fields. -/
def Request.ofJson? : Json → Option Request
  | .object members => do
    let v := Json.object members
    return ⟨← readNumber? (v.member? "page"), ← readNumber? (v.member? "limit"),
      ← readText? (v.member? "order")⟩
  | .array [page, limit, order] => do
    return ⟨← readNumber? (some page), ← readNumber? (some limit), ← readText? (some order)⟩
  | _ => none

/-- The sizes of pages: the usual one and the greatest. -/
structure Sizes where
  /-- The size of a page when none is asked for. -/
  preferred : Nat
  /-- The greatest size. -/
  largest : Nat
  deriving DecidableEq, Repr

/-- The greatest size that is given out; at least one. -/
def Sizes.greatest (s : Sizes) : Nat :=
  max s.largest 1

/-- The usual size, brought between one and the greatest. -/
def Sizes.usual (s : Sizes) : Nat :=
  min (max s.preferred 1) s.greatest

/-- A request within bounds. -/
structure Bounds where
  /-- The number of the page, from one. -/
  page : Nat
  /-- The size of the page. -/
  size : Nat
  /-- How many posts lie before the page. -/
  offset : Nat
  /-- The order. -/
  order : ListOrder
  deriving DecidableEq, Repr

/-- The greatest offset. -/
def maxOffset : Nat := 2 ^ (63 : Nat) - 1

/-- A number that was asked for, if it is positive. -/
def positive? (n : Option Int64) : Option Nat :=
  (n.map fun n => n.toInt.toNat).filter (0 < ·)

/-- Brings a request into bounds. -/
def Request.resolve (r : Request) (sizes : Sizes) : Bounds :=
  let page := (positive? r.page).getD 1
  let size := ((positive? r.limit).map (min · sizes.greatest)).getD sizes.usual
  ⟨page, size, min ((page - 1) * size) maxOffset, .ofText r.order⟩

theorem greatest_pos (s : Sizes) : 0 < s.greatest := by
  unfold Sizes.greatest
  omega

theorem usual_pos (s : Sizes) : 0 < s.usual := by
  have := greatest_pos s
  unfold Sizes.usual
  omega

/-- A number that is taken over is positive. -/
theorem pos_of_positive? {n : Option Int64} {k : Nat} (h : positive? n = some k) : 0 < k := by
  simpa using (Option.filter_eq_some_iff.1 h).2

/-- Every size that is given out is positive. -/
theorem size_resolve_pos (r : Request) (sizes : Sizes) : 0 < (r.resolve sizes).size := by
  have greatest := greatest_pos sizes
  have usual := usual_pos sizes
  unfold Request.resolve
  cases h : positive? r.limit with
  | none => simpa using usual
  | some n =>
    have positive := pos_of_positive? h
    simp only [Option.map_some, Option.getD_some]
    omega

end Page

/-- One page of a listing. -/
structure Page where
  /-- The posts on the page. -/
  ids : List Int64
  /-- How many posts the whole listing has. -/
  total : Nat
  /-- What was asked for, within bounds. -/
  bounds : Page.Bounds
  deriving DecidableEq, Repr

end Forum

/-! ## Rules

The settings that decide how the services work, and how long the texts may be that users send. -/

namespace Forum

/-! ### Rules of the forum

The settings that decide how the services work. -/

/-- How the services work. -/
structure Rules where
  /-- Whether posts that the engagement store does not know count as registered with score zero. -/
  autoRegister : Bool
  /-- How long the engagement store may take for an answer, in milliseconds. -/
  deadline : Nat
  /-- How often a vote that met another one is tried again. -/
  maxRetries : Nat
  /-- The sizes of pages. -/
  sizes : Page.Sizes
  deriving DecidableEq, Repr

/-! ### Length rules

How long the texts that users send may be, counted in characters. Every field is checked, and all
fields that break their rule are reported together. -/

/-- The allowed number of characters of a field. -/
structure LengthRule where
  /-- The name of the field. -/
  field : String
  /-- The least number, if there is one. -/
  min : Option Nat
  /-- The greatest number. -/
  max : Nat
  deriving DecidableEq, Repr

namespace LengthRule

/-- Whether a text keeps a rule. -/
def admits (r : LengthRule) (text : String) : Bool :=
  r.min.getD 0 ≤ text.length && text.length ≤ r.max

/-- The rules that their texts break. -/
def broken (checks : List (LengthRule × String)) : List LengthRule :=
  (checks.filter fun (r, text) => !r.admits text).map (·.1)

/-- The fault that reports broken rules, by field name. -/
def fault (rules : List LengthRule) : Fault :=
  let fields := (rules.map (·.field)).mergeSort fun a b => decide (a ≤ b)
  .validation (", ".intercalate (fields.map fun field => s!"{field}: length"))

/-- Fails if a text breaks its rule. -/
def check (checks : List (LengthRule × String)) : Except Fault Unit :=
  match broken checks with
  | [] => .ok ()
  | rules => .error (fault rules)

end LengthRule

end Forum
