import Mathlib
import Forum.Number.Binary64
import Forum.Proofs.Text.Numeral

/-!
# Whole numbers in binary64

Up to 2^53 the format holds every whole number. Such a number passes into the format and back
without being rounded, its shortest decimal is its ordinary decimal text, and that text reads back
as the same number of the format.
-/

namespace Forum.Binary64

/-- The mantissa and the exponent with which the format holds a positive whole number. -/
inductive Holds : Nat → Nat → Int → Prop
  /-- A number of at most 53 bits is shifted to the left until it has 53. -/
  | shifted (n k : Nat) : Holds n (n * 2 ^ k) (-k)
  /-- The next number loses its last zero. -/
  | top : Holds (2 ^ 53) (2 ^ 52) 1

section holds

variable {n m : Nat} {e : Int}

/-- Shifting a number to the left until it has 53 bits. -/
theorem shift_bounds {k : Nat} (hn : 0 < n) (hk : n.log2 + k = 52) :
    2 ^ 52 ≤ n * 2 ^ k ∧ n * 2 ^ k < 2 ^ 53 := by
  have hnext : n.log2 + 1 + k = 53 := by omega
  have hlow := Nat.mul_le_mul_right (2 ^ k) (Nat.log2_self_le hn.ne')
  have hhigh := Nat.mul_lt_mul_of_pos_right (Nat.lt_log2_self (n := n)) (Nat.two_pow_pos k)
  rw [← Nat.pow_add] at hlow hhigh
  exact ⟨hk ▸ hlow, hnext ▸ hhigh⟩

theorem scaled_neg (n k : Nat) : scaled n 1 (-k) = (n * 2 ^ k, 1) := by
  unfold scaled
  split
  case isTrue hk =>
    obtain rfl : k = 0 := by omega
    simp
  case isFalse => simp

/-- The exponent that fits a number of at most 53 bits needs no correction. -/
theorem fittingExponent_shifted {k : Nat} (hn : 0 < n) (hk : n.log2 + k = 52) :
    fittingExponent n 1 = -k := by
  have hguess : max ((n.log2 : Int) - Nat.log2 1 - 52) minExponent = -k := by
    rw [show Nat.log2 1 = 0 from rfl]
    unfold minExponent
    omega
  have hlow := (shift_bounds hn hk).1
  unfold fittingExponent
  simp only [hguess, scaled_neg, Nat.div_one]
  exact if_neg (by omega)

/-- A whole number has nothing to round. -/
theorem nearestEven_one (n : Nat) : nearestEven n 1 = n := by
  simp [nearestEven, Nat.mod_one]

/-- A positive number up to 2^53 is not rounded. -/
theorem ofRatio_whole (negative : Bool) (hn : 0 < n) (hb : n ≤ 2 ^ 53) :
    ∃ m e, Holds n m e ∧ ofRatio negative n 1 = .finite negative m e := by
  rcases hb.lt_or_eq with hlt | rfl
  · have hlog := (Nat.log2_lt hn.ne').2 hlt
    obtain ⟨k, hk⟩ : ∃ k, n.log2 + k = 52 := ⟨52 - n.log2, by omega⟩
    have hhigh := (shift_bounds hn hk).2
    refine ⟨_, _, .shifted n k, ?_⟩
    unfold ofRatio
    rw [if_neg hn.ne']
    simp only [fittingExponent_shifted hn hk, scaled_neg, nearestEven_one, if_neg hhigh.ne]
    exact if_neg (by unfold maxExponent; omega)
  · exact ⟨_, _, .top, by cases negative <;> decide⟩

theorem ratio_neg (n k : Nat) : ratio n (-k) = (n, 2 ^ k) := by
  unfold ratio
  split
  case isTrue hk =>
    obtain rfl : k = 0 := by omega
    simp
  case isFalse => simp

theorem Holds.mantissa_ne_zero (hh : Holds n m e) (hn : 0 < n) : m ≠ 0 := by
  cases hh with
  | top => decide
  | shifted _ k => exact (Nat.mul_pos hn (Nat.two_pow_pos k)).ne'

/-- Dropping the places after the point gives the whole number back. -/
theorem Holds.truncated_eq (hh : Holds n m e) : truncated m e = n := by
  cases hh with
  | top => decide
  | shifted _ k => simp [truncated, ratio_neg]

/-- The interval of a shifted number, in a unit that is at least four. -/
theorem quarters_shifted {n : Nat} (hn : 0 < n) (k : Nat) (e : Int) :
    ∃ low, quarters (n * 2 ^ k) e = (low, n * 2 ^ (k + 2), n * 2 ^ (k + 2) + 2) ∧
      low < n * 2 ^ (k + 2) ∧ n * 2 ^ (k + 2) ≤ low + 2 := by
  have hmid : 4 * (n * 2 ^ k) = n * 2 ^ (k + 2) := by ring
  have hpos : 0 < n * 2 ^ k := Nat.mul_pos hn (Nat.two_pow_pos k)
  unfold quarters
  rw [hmid]
  refine ⟨_, rfl, ?_⟩
  split <;> omega

/-- A multiple of a unit lies next to another one only if it is the same. -/
private theorem within_iff {n x unit low high : Nat} (hu : 4 ≤ unit) (hl : low < n * unit)
    (hl' : n * unit ≤ low + 2) (hh : n * unit < high) (hh' : high ≤ n * unit + 2) :
    (low ≤ x * unit ∧ x * unit ≤ high ↔ x = n) ∧ (low < x * unit ∧ x * unit < high ↔ x = n) := by
  rcases lt_trichotomy x n with hx | rfl | hx
  · have hm : (x + 1) * unit ≤ n * unit := Nat.mul_le_mul_right unit hx
    rw [Nat.add_mul] at hm
    constructor <;> constructor <;> omega
  · constructor <;> constructor <;> omega
  · have hm : (n + 1) * unit ≤ x * unit := Nat.mul_le_mul_right unit hx
    rw [Nat.add_mul] at hm
    constructor <;> constructor <;> omega

/-- The test for the interval, with or without its ends, on a grid of such multiples. -/
private theorem inside_eq (even : Prop) [Decidable even] {n unit low : Nat} (hu : 4 ≤ unit)
    (hl : low < n * unit) (hl' : n * unit ≤ low + 2) (power c : Nat) :
    (if even then decide (low ≤ c * (power * unit)) && decide (c * (power * unit) ≤ n * unit + 2)
      else decide (low < c * (power * unit)) && decide (c * (power * unit) < n * unit + 2)) =
      decide (c * power = n) := by
  have hw := within_iff (x := c * power) hu hl hl' (Nat.lt_add_of_pos_right two_pos) le_rfl
  rw [← Nat.mul_assoc, ← Bool.decide_and, ← Bool.decide_and]
  split
  · exact decide_eq_decide.2 hw.1
  · exact decide_eq_decide.2 hw.2

/-- Among decimals with no place after the point only the number itself is close enough to it. -/
theorem candidate?_shifted {n count : Nat} (hn : 0 < n) (k : Nat)
    (hc : count ≤ (Nat.toDigits 10 n).length) :
    candidate? (n * 2 ^ k) (-k) count =
      let grid := (Nat.toDigits 10 n).length - count
      if n / 10 ^ grid * 10 ^ grid = n then some (n / 10 ^ grid, (grid : Int)) else none := by
  have hunit : 4 ≤ 2 ^ (k + 2) := by
    rw [Nat.pow_add]
    exact Nat.le_mul_of_pos_left 4 (Nat.two_pow_pos k)
  have hratio : ratio 1 (-(k : Int) - 2) = (1, 2 ^ (k + 2)) := by
    rw [← ratio_neg]
    congr 1
    push_cast
    ring
  have hmag : magnitude (n * 2 ^ (k + 2)) (2 ^ (k + 2)) = (Nat.toDigits 10 n).length := by
    rw [magnitude, if_pos (Nat.le_mul_of_pos_left _ hn), Nat.mul_div_cancel _ (by omega)]
  obtain ⟨grid, hgrid⟩ : ∃ grid, (Nat.toDigits 10 n).length = count + grid :=
    ⟨(Nat.toDigits 10 n).length - count, by omega⟩
  have hint : ((count + grid : Nat) : Int) - count = grid := by omega
  obtain ⟨low, hquarters, hl, hl'⟩ := quarters_shifted hn k (-k)
  have hinside := inside_eq (n * 2 ^ k % 2 = 0) hunit hl hl' (10 ^ grid)
  have hdiv : n * 2 ^ (k + 2) / (10 ^ grid * 2 ^ (k + 2)) = n / 10 ^ grid :=
    Nat.mul_div_mul_right _ _ (by omega)
  have hnext : ¬ (n / 10 ^ grid + 1) * 10 ^ grid = n := by
    have hlt := Nat.lt_mul_div_succ n (Nat.pow_pos (n := grid) (by decide : 0 < 10))
    rw [Nat.mul_comm] at hlt
    exact hlt.ne'
  unfold candidate?
  simp only [hquarters, hratio, Nat.mul_one, hmag, hgrid, hint, Int.natCast_nonneg, if_true,
    Int.toNat_natCast, Nat.add_sub_cancel_left, hinside, hdiv, hnext, decide_false]
  by_cases hexact : n / 10 ^ grid * 10 ^ grid = n
  · simp [hexact]
  · simp [hexact]

/-- A search through the numbers below a bound ends at a hit, and not after one that is known. -/
theorem findSome?_range_le {α : Type} {f : Nat → Option α} {count last : Nat} (hl : last < count)
    (hf : (f last).isSome) :
    ∃ i ≤ last, ∃ a, f i = some a ∧ (List.range count).findSome? f = some a := by
  have hsome : ((List.range count).findSome? f).isSome :=
    List.findSome?_isSome_iff.2 ⟨last, List.mem_range.2 hl, hf⟩
  obtain ⟨a, ha⟩ := Option.isSome_iff_exists.1 hsome
  obtain ⟨before, i, after, hrange, hi, hnone⟩ := List.findSome?_eq_some_iff.1 ha
  refine ⟨i, ?_, a, hi, ha⟩
  by_contra hlt
  have hmem : last ∈ before ++ i :: after := hrange ▸ List.mem_range.2 hl
  have hsorted : (before ++ i :: after).Pairwise (· < ·) := hrange ▸ List.pairwise_lt_range
  have hafter := (List.pairwise_cons.1 (List.pairwise_append.1 hsorted).2.1).1
  rcases List.mem_append.1 hmem with hb | ha
  · rw [hnone last hb] at hf
    cases hf
  · rcases List.mem_cons.1 ha with rfl | ha
    · omega
    · have := hafter last ha
      omega

/-- Trying one number of digits after the other ends at the number itself, at the latest when all
its digits are there. -/
theorem findSome?_candidate?_shifted {n : Nat} (hn : 0 < n) (k : Nat)
    (hd : (Nat.toDigits 10 n).length ≤ 17) :
    ∃ d j : Nat, d * 10 ^ j = n ∧
      ((List.range 17).findSome? fun i => candidate? (n * 2 ^ k) (-k) (i + 1)) =
        some (d, (j : Int)) := by
  have hpos : 0 < (Nat.toDigits 10 n).length := Nat.length_toDigits_pos
  obtain ⟨last, hlast⟩ : ∃ last, (Nat.toDigits 10 n).length = last + 1 :=
    ⟨(Nat.toDigits 10 n).length - 1, by omega⟩
  have hall : candidate? (n * 2 ^ k) (-k) (last + 1) = some (n, 0) := by
    rw [candidate?_shifted hn k hlast.ge, hlast, Nat.sub_self]
    simp
  obtain ⟨i, hi, found, hcandidate, hfound⟩ :=
    findSome?_range_le (f := fun i => candidate? (n * 2 ^ k) (-k) (i + 1)) (by omega : last < 17)
      (Option.isSome_of_eq_some hall)
  rw [candidate?_shifted hn k (by omega)] at hcandidate
  dsimp only at hcandidate
  split at hcandidate
  case isTrue hexact => exact ⟨_, _, hexact, hfound.trans hcandidate.symm⟩
  case isFalse => cases hcandidate

/-- Moving a zero into the exponent keeps the number. -/
theorem withoutZero_mul (d j : Nat) : ∃ d' j' : Nat,
    withoutZero d j = (d', (j' : Int)) ∧ d' * 10 ^ j' = d * 10 ^ j := by
  unfold withoutZero
  split
  case isTrue hz =>
    refine ⟨d / 10, j + 1, rfl, ?_⟩
    rw [Nat.pow_succ', ← Nat.mul_assoc, Nat.div_mul_cancel (Nat.dvd_of_mod_eq_zero hz)]
  case isFalse => exact ⟨d, j, rfl, rfl⟩

/-- The shortest decimal of a whole number is the number. -/
theorem Holds.shortest_eq (hh : Holds n m e) (hn : 0 < n) (hb : n ≤ 2 ^ 53) :
    ∃ d j : Nat, shortest m e = (d, (j : Int)) ∧ d * 10 ^ j = n := by
  cases hh with
  | top => exact ⟨2 ^ 53, 0, by decide +kernel, by decide⟩
  | shifted _ k =>
    have hd : (Nat.toDigits 10 n).length ≤ 17 :=
      (Nat.length_toDigits_le_iff (by decide) (by decide)).2 (hb.trans_lt (by decide))
    obtain ⟨d, j, hexact, hfound⟩ := findSome?_candidate?_shifted hn k hd
    obtain ⟨d', j', hw, hmul⟩ := withoutZero_mul d j
    refine ⟨d', j', ?_, hmul.trans hexact⟩
    rw [shortest, hfound, Option.getD_some]
    exact hw

end holds

/-- A whole number is written with its digits and the zeros of its exponent. -/
theorem positional_eq {d : Nat} (hd : 0 < d) (j : Nat) :
    positional d j = Nat.toDigits 10 (d * 10 ^ j) := by
  rw [positional, if_pos (Int.natCast_nonneg j), Int.toNat_natCast, Numeral.toDigits_mul_pow hd]

variable {n : Int}

/-- A whole number in the format: zero, or the number that holds its size, with its sign. -/
theorem ofInt_cases (hn : n.natAbs ≤ 2 ^ 53) :
    n = 0 ∧ ofInt n = zero false ∨
      ∃ m e, 0 < n.natAbs ∧ Holds n.natAbs m e ∧ ofInt n = .finite (n < 0) m e := by
  by_cases hz : n = 0
  · subst hz
    exact Or.inl ⟨rfl, rfl⟩
  · have hpos : 0 < n.natAbs := Int.natAbs_pos.2 hz
    obtain ⟨m, e, hh, he⟩ := ofRatio_whole (decide (n < 0)) hpos hn
    exact Or.inr ⟨m, e, hpos, hh, he⟩

/-- The text of a whole number in the format is its ordinary text. -/
theorem text_ofInt (hn : n.natAbs ≤ 2 ^ 53) : (ofInt n).text = toString n := by
  apply String.toList_injective
  rw [Numeral.toList_toString]
  obtain ⟨rfl, hz⟩ | ⟨m, e, hpos, hh, he⟩ := ofInt_cases hn
  · rw [hz]
    rfl
  · have hm : m ≠ 0 := hh.mantissa_ne_zero hpos
    obtain ⟨d, j, hs, hexact⟩ := hh.shortest_eq hpos hn
    have hd : 0 < d := Nat.pos_of_mul_pos_right (hexact ▸ hpos)
    rw [he, text]
    simp only [hm, if_false, hs, positional_eq hd, hexact, String.toList_ofList, Numeral.padded,
      Nat.zero_sub, List.replicate_zero, List.nil_append, decide_eq_true_eq]

/-- Digits are no letters. -/
theorem toLower_digit {c : Char} (hc : c.isDigit) : c.toLower = c := by
  have hb := Char.isDigit_iff_toNat.1 hc
  have h9 : '9'.toNat = 57 := rfl
  unfold Char.toLower
  rw [dif_neg]
  rintro ⟨hA, -⟩
  have hA' : 'A'.val.toNat ≤ c.val.toNat := UInt32.le_iff_toNat_le.1 hA
  rw [Char.toNat_val, Char.toNat_val] at hA'
  have h65 : 'A'.toNat = 65 := rfl
  omega

/-- Digits alone are read as the whole number that they write. -/
theorem parseUnsigned?_digits (negative : Bool) {cs : List Char} (hne : cs ≠ [])
    (hd : ∀ c ∈ cs, c.isDigit) :
    parseUnsigned? negative cs = some (ofDecimal negative (Numeral.value cs) 0) := by
  obtain _ | ⟨c, rest⟩ := cs
  · exact absurd rfl hne
  have hc : c.isDigit := hd c List.mem_cons_self
  have hword (d : Char) (word : List Char) (hl : ¬ d.isDigit) :
      (c :: rest).map Char.toLower ≠ d :: word := by
    rw [List.map_cons, toLower_digit hc]
    intro heq
    exact hl ((List.cons.inj heq).1 ▸ hc)
  have htake : (c :: rest).takeWhile Char.isDigit = c :: rest := List.takeWhile_eq_self_iff.2 hd
  have hdrop : (c :: rest).dropWhile Char.isDigit = [] := List.dropWhile_eq_nil_iff.2 hd
  unfold parseUnsigned?
  simp only [hword 'i' _ (by decide), hword 'n' _ (by decide), htake, hdrop]
  simp

/-- A whole number of at most 2^53 is not too large to be read. -/
theorem ofDecimal_whole (negative : Bool) {n : Nat} (hn : n ≤ 2 ^ 53) :
    ofDecimal negative n 0 = ofRatio negative n 1 := by
  have hlen : (Nat.toDigits 10 n).length ≤ 17 :=
    (Nat.length_toDigits_le_iff (by decide) (by decide)).2 (hn.trans_lt (by decide))
  unfold ofDecimal
  by_cases hz : n = 0
  · simp [hz, ofRatio]
  · simp only [hz, false_or]
    rw [if_neg (by omega), if_neg (by omega)]
    simp

/-- Reading the text of a whole number gives its number of the format. -/
theorem parse?_toString (hn : n.natAbs ≤ 2 ^ 53) : parse? (toString n).toList = some (ofInt n) := by
  have hdigit (c : Char) (hc : c ∈ Nat.toDigits 10 n.natAbs) : c.isDigit :=
    Nat.isDigit_of_mem_toDigits (by decide) (by decide) hc
  have hread (negative : Bool) : parseUnsigned? negative (Nat.toDigits 10 n.natAbs) =
      some (ofRatio negative n.natAbs 1) := by
    rw [parseUnsigned?_digits negative Nat.toDigits_ne_nil hdigit, Numeral.value_toDigits,
      ofDecimal_whole negative hn]
  rw [Numeral.toList_toString, Numeral.padded]
  simp only [Nat.zero_sub, List.replicate_zero, List.nil_append]
  split
  case isTrue hneg => rw [parse?, hread, ofInt, decide_eq_true hneg]
  case isFalse hpos =>
    unfold parse?
    split
    · rename_i heq
      exact absurd (hdigit '-' (heq ▸ List.mem_cons_self)) (by decide)
    · rename_i heq
      exact absurd (hdigit '+' (heq ▸ List.mem_cons_self)) (by decide)
    · rw [hread, ofInt, decide_eq_false hpos]

theorem truncated_zero (e : Int) : truncated 0 e = 0 := by
  have hr : (ratio 0 e).1 = 0 := by
    unfold ratio
    split
    · exact Nat.zero_mul _
    · rfl
  change (ratio 0 e).1 / (ratio 0 e).2 = 0
  rw [hr, Nat.zero_div]

/-- Cutting off the places of a whole number in the format gives the number back. -/
theorem truncateWithin_ofInt {lo hi : Int} (hn : n.natAbs ≤ 2 ^ 53) (hl : lo ≤ n) (hh : n ≤ hi) :
    (ofInt n).truncateWithin lo hi = n := by
  obtain ⟨rfl, hz⟩ | ⟨m, e, hpos, hm, he⟩ := ofInt_cases hn
  · rw [hz, zero, truncateWithin, truncated_zero, clamp]
    simp [hl, hh]
  · rw [he, truncateWithin, hm.truncated_eq]
    unfold clamp
    split
    case isTrue hneg =>
      have := of_decide_eq_true hneg
      omega
    case isFalse hneg =>
      have : ¬ n < 0 := fun h => hneg (decide_eq_true h)
      omega

end Forum.Binary64
