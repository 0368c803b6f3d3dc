import Mathlib
import Forum.Service.Rules

/-!
# Bounds in words

A request brought into bounds with unsigned numbers of 64 bits only. Subtracting and bringing a word
between two others are not defined for all words, and multiplying stops at the greatest word, so
this could fail or give another offset than `Page.Request.resolve`, which computes without a bound.
It does neither: the sizes are in order and the page is not zero whatever the settings and the
request are, and an offset at which the product stops is beyond the greatest offset anyway.
-/

namespace Forum.Page

/-- A signed number as a word; nothing if it is negative. -/
def word? (n : Int64) : Option UInt64 :=
  if 0 ≤ n then some (.ofNat n.toInt.toNat) else none

/-- The difference of two words; nothing below zero. -/
def minus? (a b : UInt64) : Option UInt64 :=
  if b ≤ a then some (a - b) else none

/-- A word brought between two others; nothing if these are the wrong way round. -/
def between? (n low high : UInt64) : Option UInt64 :=
  if low ≤ high then some (min (max n low) high) else none

/-- The product of two words, or the greatest word if it is larger. -/
def times (a b : UInt64) : UInt64 :=
  .ofNat (min (a.toNat * b.toNat) (2 ^ 64 - 1))

/-- Bounds in words. -/
structure WordBounds where
  /-- The number of the page. -/
  page : UInt64
  /-- The size of the page. -/
  size : UInt64
  /-- How many posts lie before the page. -/
  offset : UInt64
  /-- The order. -/
  order : ListOrder
  deriving DecidableEq, Repr

/-- The bounds that words stand for. -/
def WordBounds.toBounds (b : WordBounds) : Bounds :=
  ⟨b.page.toNat, b.size.toNat, b.offset.toNat, b.order⟩

/-- The greatest size in words. -/
def greatestWord (largest : UInt64) : UInt64 :=
  max largest 1

/-- Brings a request into bounds, with words only; nothing if one of the steps is not defined. -/
def Request.resolveWords? (r : Request) (preferred largest : UInt64) : Option WordBounds := do
  let usual ← between? preferred 1 (greatestWord largest)
  let page := max ((r.page.bind word?).getD 1) 1
  let limit := (r.limit.bind word?).filter (0 < ·)
  let size := (limit.map (min · (greatestWord largest))).getD usual
  let before ← minus? page 1
  return ⟨page, size, min (times before size) (.ofNat maxOffset), .ofText r.order⟩

/-- The sizes that settings in words stand for. -/
def Sizes.ofWords (preferred largest : UInt64) : Sizes :=
  ⟨preferred.toNat, largest.toNat⟩

variable (preferred largest : UInt64)

/-- A number that is positive is one that is a positive word. -/
theorem positive?_eq (n : Option Int64) :
    positive? n = ((n.bind word?).filter (0 < ·)).map UInt64.toNat := by
  rcases n with _ | n
  · rfl
  · have hrange : n.toInt.toNat < 2 ^ 64 := by
      have := n.toInt_lt
      omega
    by_cases hn : 0 ≤ n
    · have hword : (UInt64.ofNat n.toInt.toNat).toNat = n.toInt.toNat :=
        UInt64.toNat_ofNat_of_lt' hrange
      have hpos : (0 : UInt64) < .ofNat n.toInt.toNat ↔ 0 < n.toInt.toNat := by
        rw [UInt64.lt_iff_toNat_lt, hword]
        rfl
      simp only [positive?, word?, Option.map_some, Option.bind_some, if_pos hn, Option.filter_some,
        decide_eq_true_eq, hpos]
      split
      · rw [Option.map_some, hword]
      · rfl
    · have hzero : n.toInt.toNat = 0 := by
        rw [Int64.le_iff_toInt_le] at hn
        have : (0 : Int64).toInt = 0 := rfl
        omega
      simp only [positive?, word?, Option.map_some, Option.bind_some, if_neg hn, hzero]
      rfl

/-- A page that is left out, zero or negative is the first one, in words as well. -/
theorem toNat_page (n : Option Int64) :
    (max ((n.bind word?).getD 1) 1).toNat = (positive? n).getD 1 := by
  have hone : (1 : UInt64).toNat = 1 := rfl
  rw [positive?_eq, UInt64.toNat_max, hone]
  rcases n.bind word? with _ | word
  · rfl
  · by_cases hword : 0 < word
    · have hpos : 0 < word.toNat := UInt64.lt_iff_toNat_lt.1 hword
      rw [Option.filter_some_pos (by exact decide_eq_true hword), Option.map_some, Option.getD_some,
        Option.getD_some]
      omega
    · have hzero : word.toNat = 0 := by
        rw [UInt64.lt_iff_toNat_lt] at hword
        have : (0 : UInt64).toNat = 0 := rfl
        omega
      rw [Option.filter_some_neg (by simpa using hword), Option.map_none, Option.getD_some,
        Option.getD_none, hzero]
      rfl

/-- The greatest size is the greatest size in words. -/
theorem toNat_greatestWord :
    (greatestWord largest).toNat = (Sizes.ofWords preferred largest).greatest :=
  UInt64.toNat_max _ _

/-- The usual size is defined, and is the usual size in words. -/
theorem between?_eq_usual : ∃ usual, between? preferred 1 (greatestWord largest) = some usual ∧
    usual.toNat = (Sizes.ofWords preferred largest).usual := by
  have horder : (1 : UInt64) ≤ greatestWord largest := by
    rw [UInt64.le_iff_toNat_le, greatestWord, UInt64.toNat_max]
    exact le_max_right _ _
  refine ⟨_, if_pos horder, ?_⟩
  rw [UInt64.toNat_min, UInt64.toNat_max, toNat_greatestWord preferred]
  rfl

/-- The size of a page is its size in words. -/
theorem toNat_size (n : Option Int64) {usual : UInt64}
    (husual : usual.toNat = (Sizes.ofWords preferred largest).usual) :
    ((((n.bind word?).filter (0 < ·)).map (min · (greatestWord largest))).getD usual).toNat =
      ((positive? n).map (min · (Sizes.ofWords preferred largest).greatest)).getD
        (Sizes.ofWords preferred largest).usual := by
  rw [positive?_eq]
  cases (n.bind word?).filter fun word => decide (0 < word) with
  | none => exact husual
  | some word =>
    simp only [Option.map_some, Option.getD_some]
    rw [UInt64.toNat_min, toNat_greatestWord preferred]

/-- A product that stops at the greatest word is beyond the greatest offset. -/
theorem toNat_offset (before size : UInt64) :
    (min (times before size) (.ofNat maxOffset)).toNat =
      min (before.toNat * size.toNat) maxOffset := by
  have hmax : (UInt64.ofNat maxOffset).toNat = maxOffset := rfl
  have htimes : (times before size).toNat = min (before.toNat * size.toNat) (2 ^ 64 - 1) :=
    UInt64.toNat_ofNat_of_lt' ((min_le_right _ _).trans_lt (by decide))
  rw [UInt64.toNat_min, htimes, hmax, maxOffset]
  omega

/-- Bringing a request into bounds with words is defined, and gives the bounds that are computed
without them. -/
theorem resolveWords?_eq (r : Request) : ∃ words, r.resolveWords? preferred largest = some words ∧
    words.toBounds = r.resolve (.ofWords preferred largest) := by
  obtain ⟨usual, husual, hword⟩ := between?_eq_usual preferred largest
  have hone : (1 : UInt64).toNat = 1 := rfl
  have hpage : (1 : UInt64) ≤ max ((r.page.bind word?).getD 1) 1 := by
    rw [UInt64.le_iff_toNat_le, UInt64.toNat_max]
    exact le_max_right _ _
  have hbefore : (max ((r.page.bind word?).getD 1) 1 - 1).toNat =
      (positive? r.page).getD 1 - 1 := by
    rw [UInt64.toNat_sub_of_le _ _ hpage, toNat_page, hone]
  simp only [Request.resolveWords?, husual, minus?, if_pos hpage]
  refine ⟨_, rfl, ?_⟩
  rw [WordBounds.toBounds, Request.resolve]
  dsimp only
  rw [toNat_offset, hbefore, toNat_page, toNat_size preferred largest r.limit hword]

/-! ## What lies within the bounds -/

/-- The number of a page is positive. -/
theorem page_resolve_pos (r : Request) (sizes : Sizes) : 0 < (r.resolve sizes).page := by
  rw [Request.resolve]
  dsimp only
  cases h : positive? r.page with
  | none => exact Nat.one_pos
  | some n => exact pos_of_positive? h

/-- A page that is asked for by its number has that number. -/
theorem page_resolve_of_pos {number : Int64} (h : 1 ≤ number.toInt) (limit : Option Int64)
    (order : Option String) (sizes : Sizes) :
    ((Request.mk (some number) limit order).resolve sizes).page = number.toInt.toNat := by
  have hpositive : positive? (some number) = some number.toInt.toNat := by
    rw [positive?, Option.map_some, Option.filter_some_pos]
    exact decide_eq_true (by omega)
  rw [Request.resolve, hpositive]
  rfl

/-- No page is larger than the greatest size. -/
theorem size_resolve_le (r : Request) (sizes : Sizes) :
    (r.resolve sizes).size ≤ sizes.greatest := by
  rw [Request.resolve]
  dsimp only
  cases positive? r.limit with
  | none => exact min_le_right _ _
  | some n => exact min_le_right _ _

end Forum.Page
