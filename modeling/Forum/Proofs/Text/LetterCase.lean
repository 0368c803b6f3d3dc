import Mathlib
import Forum.Text.LetterCase

/-!
# Lower case of ASCII texts

The full lower-case mapping of a text agrees with the one of the letters A to Z as long as the text
is ASCII. It may also map other characters to ASCII ones, so this says nothing of texts that only
look the same in lower case: a text that has the same letters up to ASCII case is ASCII itself.
-/

namespace Forum.LetterCase

/-- Whether all characters of a text are ASCII. -/
def IsAscii (s : String) : Prop :=
  ∀ c ∈ s.toList, c.toNat < 128

/-- All runs of the table but the first are beyond ASCII. -/
theorem ascii_lt_of_mem_tail : ∀ run ∈ lowerRuns.tail, 128 ≤ run.1 := by
  decide +kernel

/-- The first run moves a capital letter by 32 places. -/
theorem toLower_ofNat :
    ∀ n ≤ 90, 65 ≤ n → (Char.ofNat n).toLower = Char.ofNat ((n : Int) + 32).toNat := by
  decide +kernel

/-- The table maps the capital letters A to Z, and no other ASCII character. -/
theorem lowerChar_of_ascii {c : Char} (h : c.toNat < 128) : lowerChar c = c.toLower := by
  have hruns : lowerRuns = (0x41, 0x5A, 1, 32) :: lowerRuns.tail := rfl
  rw [lowerChar, hruns]
  by_cases hcapital : 65 ≤ c.toNat ∧ c.toNat ≤ 90
  · have hmoved := toLower_ofNat c.toNat hcapital.2 hcapital.1
    rw [Char.ofNat_toNat] at hmoved
    rw [List.find?_cons_of_pos (by simpa [Nat.mod_one] using hcapital), hmoved]
  · have hsame : c.toLower = c := by
      unfold Char.toLower
      exact dif_neg hcapital
    rw [List.find?_cons_of_neg (by simpa [Nat.mod_one] using hcapital), hsame]
    split
    case h_1 run _ hfound =>
      have hle := ascii_lt_of_mem_tail _ (List.mem_of_find?_eq_some hfound)
      have hcovers := List.find?_some hfound
      simp only [Bool.and_eq_true, decide_eq_true_eq] at hcovers
      omega
    case h_2 => rfl

/-- The mapping of the letters A to Z leaves ASCII characters ASCII, and makes no other one so. -/
theorem toNat_toLower_lt_iff (c : Char) : c.toLower.toNat < 128 ↔ c.toNat < 128 := by
  unfold Char.toLower
  split
  case isTrue hcapital =>
    have hlast : c.val.toNat ≤ 90 := hcapital.2
    have hmoved : (c.val + ('a'.val - 'A'.val)).toNat = c.val.toNat + 32 := by
      rw [UInt32.toNat_add]
      exact Nat.mod_eq_of_lt (by change c.val.toNat + 32 < _; omega)
    simp only [Char.toNat, hmoved]
    omega
  case isFalse => exact Iff.rfl

theorem lowerAfter_of_ascii (before : List Char) {cs : List Char} (h : ∀ c ∈ cs, c.toNat < 128) :
    lowerAfter before cs = cs.map Char.toLower := by
  induction cs generalizing before with
  | nil => rfl
  | cons c cs ih =>
    have hc := h c List.mem_cons_self
    -- The two capitals with rules of their own are not ASCII.
    have hsigma : c ≠ 'Σ' := by rintro rfl; exact absurd hc (by decide)
    have hdotted : c ≠ 'İ' := by rintro rfl; exact absurd hc (by decide)
    rw [lowerAfter, if_neg hsigma, if_neg hdotted, lowerChar_of_ascii hc,
      ih _ fun d hd => h d (List.mem_cons_of_mem c hd)]
    rfl

/-- Of an ASCII text, the two mappings make the same. -/
theorem IsAscii.lower_eq {s : String} (h : IsAscii s) : lower s = lowerAscii s := by
  rw [lower, lowerAscii, lowerAfter_of_ascii [] h]

/-- A text with the letters of an ASCII text in other capitals is ASCII. -/
theorem IsAscii.of_lowerAscii_eq {s t : String} (h : IsAscii s)
    (same : lowerAscii t = lowerAscii s) : IsAscii t := by
  have hlists : t.toList.map Char.toLower = s.toList.map Char.toLower := by
    simpa only [lowerAscii, String.toList_ofList] using congrArg String.toList same
  intro c hc
  obtain ⟨d, hd, heq⟩ := List.mem_map.1 (hlists ▸ List.mem_map_of_mem (f := Char.toLower) hc)
  rw [← toNat_toLower_lt_iff, ← heq, toNat_toLower_lt_iff]
  exact h d hd

end Forum.LetterCase
