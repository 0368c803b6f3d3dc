import Mathlib
import Forum.Text.Scan

/-!
# Numerals

Numbers with one more digit, and numbers that are read back as they were written.
-/

/-! ## Positional notation

A number with one more digit, in any base. It compares by the number before it, and by the last
digit when these are equal. -/

namespace Forum.Positional

variable {a b c d base : Nat}

theorem lt_iff (hb : b < base) (hd : d < base) :
    a * base + b < c * base + d ↔ a < c ∨ a = c ∧ b < d := by
  rcases lt_trichotomy a c with hac | hac | hac
  · have hm : (a + 1) * base ≤ c * base := Nat.mul_le_mul_right base hac
    rw [Nat.add_mul] at hm
    constructor <;> omega
  · subst hac
    constructor <;> omega
  · have hm : (c + 1) * base ≤ a * base := Nat.mul_le_mul_right base hac
    rw [Nat.add_mul] at hm
    constructor <;> omega

theorem eq_iff (hb : b < base) (hd : d < base) : a * base + b = c * base + d ↔ a = c ∧ b = d := by
  have hlt := lt_iff (a := a) (c := c) hb hd
  have hgt := lt_iff (a := c) (c := a) hd hb
  omega

/-- A number of so many digits stays below the next one with zeros behind it. -/
theorem lt_mul (ha : a < c) (hb : b < base) : a * base + b < c * base :=
  (lt_iff hb (Nat.zero_lt_of_lt hb)).2 (Or.inl ha)

/-- The number before the last digit. -/
theorem div_eq (hb : b < base) : (a * base + b) / base = a := by
  have hpos : 0 < base := Nat.zero_lt_of_lt hb
  rw [Nat.add_comm, Nat.add_mul_div_right b a hpos, Nat.div_eq_of_lt hb, Nat.zero_add]

end Forum.Positional

/-! ## Written numbers read back

The decimal text of a number, padded or not, reads back as the number, so different numbers have
different texts. Of two texts with as many digits the one that comes first is the one that writes
the smaller number. -/

namespace Forum.Numeral

theorem value_eq (cs : List Char) : value cs = Nat.ofDigitChars 10 cs 0 :=
  rfl

theorem value_cons (c : Char) (cs : List Char) :
    value (c :: cs) = (c.toNat - '0'.toNat) * 10 ^ cs.length + value cs := by
  rw [value_eq, value_eq, Nat.ofDigitChars_cons, Nat.mul_zero, Nat.zero_add,
    Nat.ofDigitChars_eq_ofDigitChars_zero, Nat.mul_comm]

/-- Zeros in front do not count. -/
theorem value_zeros (count n : Nat) :
    value (List.replicate count '0' ++ Nat.toDigits 10 n) = n := by
  rw [value_eq, Nat.ofDigitChars_append, Nat.ofDigitChars_replicate_zero, Nat.mul_zero,
    Nat.ofDigitChars_ten_toDigits]

theorem value_toDigits (n : Nat) : value (Nat.toDigits 10 n) = n :=
  value_zeros 0 n

/-- A written number holds nothing but digits. -/
theorem isDigit_of_mem_zeros {count n : Nat} {c : Char}
    (hc : c ∈ List.replicate count '0' ++ Nat.toDigits 10 n) : c.isDigit := by
  rcases List.mem_append.1 hc with hz | hd
  · rw [List.eq_of_mem_replicate hz]
    rfl
  · exact Nat.isDigit_of_mem_toDigits (by decide) (by decide) hd

section digits

variable {cs ds : List Char}

theorem natural?_of_digits (hne : cs ≠ []) (hd : ∀ c ∈ cs, c.isDigit) :
    natural? cs = some (value cs) := by
  have hall : cs.all Char.isDigit := List.all_eq_true.2 hd
  simp [natural?, hne, hall]

/-- Digits without a sign write a number that is not negative. -/
theorem integer?_of_digits (hne : cs ≠ []) (hd : ∀ c ∈ cs, c.isDigit) :
    integer? cs = some (value cs : Int) := by
  have hn := natural?_of_digits hne hd
  unfold integer?
  split
  · exact absurd (hd '-' List.mem_cons_self) (by decide)
  · exact absurd (hd '+' List.mem_cons_self) (by decide)
  · rw [hn]
    rfl

theorem integer?_minus (hne : cs ≠ []) (hd : ∀ c ∈ cs, c.isDigit) :
    integer? ('-' :: cs) = some (-(value cs : Int)) := by
  rw [integer?, natural?_of_digits hne hd]
  rfl

/-- A digit is less than the base. -/
theorem digit_lt {c : Char} (hc : c.isDigit) : c.toNat - '0'.toNat < 10 := by
  have hb := Char.isDigit_iff_toNat.1 hc
  have h0 : '0'.toNat = 48 := rfl
  have h9 : '9'.toNat = 57 := rfl
  omega

/-- Digits compare as characters the way they compare as numbers. -/
theorem digit_lt_digit_iff {c d : Char} (hc : c.isDigit) :
    c < d ↔ c.toNat - '0'.toNat < d.toNat - '0'.toNat := by
  have hb := Char.isDigit_iff_toNat.1 hc
  rw [Char.lt_def, UInt32.lt_iff_toNat_lt, Char.toNat_val, Char.toNat_val]
  omega

theorem digit_eq_digit_iff {c d : Char} (hc : c.isDigit) (hd : d.isDigit) :
    c = d ↔ c.toNat - '0'.toNat = d.toNat - '0'.toNat := by
  have hcb := Char.isDigit_iff_toNat.1 hc
  have hdb := Char.isDigit_iff_toNat.1 hd
  rw [← Char.toNat_inj]
  omega

theorem value_lt (hd : ∀ c ∈ cs, c.isDigit) : value cs < 10 ^ cs.length := by
  induction cs with
  | nil => decide
  | cons c cs ih =>
    have hc := digit_lt (hd c List.mem_cons_self)
    have hcs := ih fun d hm => hd d (List.mem_cons_of_mem c hm)
    rw [value_cons, List.length_cons, Nat.pow_succ', Nat.mul_comm 10]
    exact (Positional.lt_mul hc hcs).trans_eq (Nat.mul_comm _ _)

/-- Digits compare as texts the way the numbers compare that they write, if there are as many. -/
theorem lt_iff_value_lt (hc : ∀ c ∈ cs, c.isDigit) (hd : ∀ d ∈ ds, d.isDigit)
    (hl : cs.length = ds.length) : cs < ds ↔ value cs < value ds := by
  induction cs generalizing ds with
  | nil =>
    rw [List.length_eq_zero_iff.1 hl.symm]
    decide
  | cons c cs ih =>
    obtain _ | ⟨d, ds⟩ := ds
    · cases hl
    have hcs : ∀ x ∈ cs, x.isDigit := fun x hx => hc x (List.mem_cons_of_mem c hx)
    have hds : ∀ x ∈ ds, x.isDigit := fun x hx => hd x (List.mem_cons_of_mem d hx)
    have hlen : cs.length = ds.length := Nat.succ.inj hl
    have hlc := value_lt hcs
    have hld := value_lt hds
    rw [hlen] at hlc
    rw [List.cons_lt_cons_iff, value_cons, value_cons, hlen, Positional.lt_iff hlc hld,
      ih hcs hds hlen, digit_lt_digit_iff (hc c List.mem_cons_self),
      digit_eq_digit_iff (hc c List.mem_cons_self) (hd d List.mem_cons_self)]

end digits

/-- A padded number reads back. -/
theorem integer?_padded (width : Nat) (n : Int) : integer? (padded width n) = some n := by
  have hne (count : Nat) : List.replicate count '0' ++ Nat.toDigits 10 n.natAbs ≠ [] :=
    List.append_ne_nil_of_right_ne_nil _ Nat.toDigits_ne_nil
  unfold padded
  split
  case isTrue hn =>
    rw [integer?_minus (hne _) fun _ hc => isDigit_of_mem_zeros hc, value_zeros]
    exact congrArg some (by omega)
  case isFalse hn =>
    rw [integer?_of_digits (hne _) fun _ hc => isDigit_of_mem_zeros hc, value_zeros]
    exact congrArg some (by omega)

/-- The text of a number is the number without padding. -/
theorem toList_toString (n : Int) : (toString n).toList = padded 0 n := by
  unfold padded
  rw [Int.toString_eq_repr, Int.repr_eq_if]
  split
  case isTrue hn =>
    rw [Nat.toList_repr, if_neg (by omega), Nat.zero_sub]
    congr 2
    omega
  case isFalse hn =>
    rw [if_pos (by omega), String.toList_append, Nat.toList_repr]
    have hz : 0 - 1 - (Nat.toDigits 10 n.natAbs).length = 0 := by omega
    have hn' : (-n).toNat = n.natAbs := by omega
    rw [hz, hn']
    rfl

/-- The text of a number reads back. -/
theorem integer?_toString (n : Int) : integer? (toString n).toList = some n := by
  rw [toList_toString, integer?_padded]

/-- A number of 64 bits fits. -/
theorem fitting?_toInt (n : Int64) : fitting? n.toInt = some n := by
  rw [fitting?, if_pos ⟨n.le_toInt, n.toInt_lt⟩, Int64.ofInt_toInt]

/-- Different numbers have different texts. -/
theorem toString_injective : Function.Injective (toString : Int → String) := by
  intro a b hab
  have hread := congrArg (fun s => integer? s.toList) hab
  simpa only [integer?_toString, Option.some.injEq] using hread

theorem toString_int64_injective : Function.Injective (toString : Int64 → String) := by
  intro a b hab
  exact Int64.toInt.inj (toString_injective hab)

/-- A padded number holds digits and at most a sign. -/
theorem eq_minus_or_isDigit_of_mem_padded {width : Nat} {n : Int} {c : Char}
    (hc : c ∈ padded width n) : c = '-' ∨ c.isDigit := by
  unfold padded at hc
  split at hc
  case isTrue => exact (List.mem_cons.1 hc).imp_right isDigit_of_mem_zeros
  case isFalse => exact .inr (isDigit_of_mem_zeros hc)

theorem eq_minus_or_isDigit_of_mem_toString {n : Int64} {c : Char}
    (hc : c ∈ (toString n).toList) : c = '-' ∨ c.isDigit := by
  have htext : (toString n).toList = padded 0 n.toInt := toList_toString n.toInt
  exact eq_minus_or_isDigit_of_mem_padded (htext ▸ hc)

/-- A number that is not negative and not longer than the field fills it. -/
theorem length_padded {width : Nat} {n : Int} (hw : 0 < width) (hn : 0 ≤ n) (hl : n < 10 ^ width) :
    (padded width n).length = width := by
  have hd : (Nat.toDigits 10 n.natAbs).length ≤ width :=
    (Nat.length_toDigits_le_iff (by decide) hw).2 (by zify; rwa [abs_of_nonneg hn])
  rw [padded, if_neg (by omega), List.length_append, List.length_replicate]
  omega

/-- Padded to one width, texts come in the order of the numbers. -/
theorem padded_lt_padded_iff {width : Nat} {a b : Int} (hw : 0 < width) (ha : 0 ≤ a) (hb : 0 ≤ b)
    (hal : a < 10 ^ width) (hbl : b < 10 ^ width) : padded width a < padded width b ↔ a < b := by
  have hlen : (padded width a).length = (padded width b).length := by
    rw [length_padded hw ha hal, length_padded hw hb hbl]
  rw [padded, if_neg (by omega), padded, if_neg (by omega)] at hlen ⊢
  rw [lt_iff_value_lt (fun _ hc => isDigit_of_mem_zeros hc)
    (fun _ hd => isDigit_of_mem_zeros hd) hlen, value_zeros, value_zeros]
  omega

/-- Every factor of ten adds a zero at the end. -/
theorem toDigits_mul_pow {n : Nat} (hn : 0 < n) (k : Nat) :
    Nat.toDigits 10 (n * 10 ^ k) = Nat.toDigits 10 n ++ List.replicate k '0' := by
  induction k with
  | zero => simp
  | succ k ih =>
    have hp : 0 < n * 10 ^ k := Nat.mul_pos hn (Nat.pow_pos (by decide))
    calc
      Nat.toDigits 10 (n * 10 ^ (k + 1)) = Nat.toDigits 10 (10 * (n * 10 ^ k) + 0) := by ring_nf
      _ = Nat.toDigits 10 (n * 10 ^ k) ++ Nat.toDigits 10 0 :=
        (Nat.toDigits_append_toDigits (by decide) hp (by decide)).symm
      _ = Nat.toDigits 10 n ++ List.replicate (k + 1) '0' := by
        rw [ih, Nat.toDigits_zero, List.append_assoc, List.replicate_succ']

end Forum.Numeral
