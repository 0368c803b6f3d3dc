import Mathlib
import Forum.Json.Token

/-!
# Strings with escapes

How a string may be written in JSON when nothing is escaped but quotes, backslashes and control
characters: each of these in any form that the format has for it, every other character as it is.
Whoever wrote a string in this way is read, and what is read is the string; and each of its
characters takes six bytes at most.
-/

namespace Forum.Json

/-- The characters that have an escape of one letter, with the letter. -/
def shortForms : List (Char × Char) :=
  [('"', '"'), ('\\', '\\'), (Char.ofNat 8, 'b'), (Char.ofNat 12, 'f'), ('\n', 'n'), ('\r', 'r'),
    ('\t', 't')]

/-- Quotes, backslashes and control characters. -/
def MayBeEscaped (c : Char) : Prop :=
  c = '"' ∨ c = '\\' ∨ c.toNat < 0x20 ∨ 0x7F ≤ c.toNat ∧ c.toNat < 0xA0

/-- Whether a character is the hexadecimal digit for a number, in either case. -/
def IsHexDigit (n : Nat) (x : Char) : Prop :=
  x = Nat.digitChar n ∨ x = (Nat.digitChar n).toUpper

/-- The forms of a character inside a string. -/
inductive Writes (c : Char) : List Char → Prop
  /-- As it is, unless it is one that must be escaped. -/
  | plain (quote : c ≠ '"') (backslash : c ≠ '\\') (control : 0x20 ≤ c.toNat) : Writes c [c]
  /-- By the letter that stands for it. -/
  | short {letter : Char} (form : (c, letter) ∈ shortForms) : Writes c ['\\', letter]
  /-- By its number. -/
  | long {high low : Char} (may : MayBeEscaped c) (isHigh : IsHexDigit (c.toNat / 16) high)
    (isLow : IsHexDigit (c.toNat % 16) low) : Writes c ['\\', 'u', '0', '0', high, low]

/-- The forms of a text inside a string. -/
inductive WritesText : List Char → List Char → Prop
  | nil : WritesText [] []
  | cons {c : Char} {form text written : List Char} (first : Writes c form)
    (rest : WritesText text written) : WritesText (c :: text) (form ++ written)

/-! ## Reading -/

theorem toNat_lt_of_mayBeEscaped {c : Char} (h : MayBeEscaped c) : c.toNat < 0xA0 := by
  rcases h with rfl | rfl | h | h
  · decide
  · decide
  · omega
  · exact h.2

theorem hexDigit?_digitChar : ∀ n < 16, Numeral.hexDigit? (Nat.digitChar n) = some n ∧
    Numeral.hexDigit? (Nat.digitChar n).toUpper = some n := by
  decide

/-- A hexadecimal digit is read as its number. -/
theorem IsHexDigit.read {n : Nat} {x : Char} (h : IsHexDigit n x) (small : n < 16) :
    Numeral.digit? 16 x = some n := by
  have hdigit : Numeral.hexDigit? x = some n := by
    rcases h with rfl | rfl
    · exact (hexDigit?_digitChar n small).1
    · exact (hexDigit?_digitChar n small).2
  rw [Numeral.digit?, hdigit, Option.filter_some, if_pos (decide_eq_true small)]

/-- The digits of an escaped character are read as its number. -/
theorem hex4?_of_long {c high low : Char} (may : MayBeEscaped c)
    (isHigh : IsHexDigit (c.toNat / 16) high) (isLow : IsHexDigit (c.toNat % 16) low) :
    hex4? '0' '0' high low = some c.toNat := by
  have hlt := toNat_lt_of_mayBeEscaped may
  have hzero : Numeral.digit? 16 '0' = some 0 := by decide
  have hhigh := isHigh.read (by omega)
  have hlow := isLow.read (by omega)
  have hsum : 16 * (16 * (16 * (16 * 0 + 0) + 0) + c.toNat / 16) + c.toNat % 16 = c.toNat := by
    omega
  simp only [hex4?, Numeral.inBase?, List.foldlM_cons, List.foldlM_nil, hzero, hhigh, hlow,
    Option.map_some, Option.bind_eq_bind, Option.bind_some, Option.pure_def, hsum]

theorem shortEscape?_of_mem : ∀ form ∈ shortForms, shortEscape? form.2 = some form.1 := by
  decide

/-- A character that stands for itself. -/
theorem stringFrom?_plain {c : Char} (quote : c ≠ '"') (backslash : c ≠ '\\')
    (control : 0x20 ≤ c.toNat) (read rest : List Char) :
    stringFrom? read (c :: rest) = stringFrom? (c :: read) rest := by
  rw [stringFrom?.eq_def]
  split <;> grind

/-- A character that a letter stands for. -/
theorem stringFrom?_short {c letter : Char} (form : (c, letter) ∈ shortForms)
    (read rest : List Char) :
    stringFrom? read ('\\' :: letter :: rest) = stringFrom? (c :: read) rest := by
  have hread : shortEscape? letter = some c := shortEscape?_of_mem _ form
  have hletter : letter ≠ 'u' := by
    rintro rfl
    cases hread
  rw [stringFrom?.eq_def]
  split <;> grind

/-- A character that its number stands for. -/
theorem stringFrom?_long {n : Nat} {a b d e : Char} (digits : hex4? a b d e = some n)
    (whole : isSurrogate n = false) (read rest : List Char) :
    stringFrom? read ('\\' :: 'u' :: a :: b :: d :: e :: rest) =
      stringFrom? (Char.ofNat n :: read) rest := by
  rw [stringFrom?.eq_def]
  split <;> grind

/-- Each form of a character is read as the character. -/
theorem Writes.read {c : Char} {form : List Char} (h : Writes c form) (read rest : List Char) :
    stringFrom? read (form ++ rest) = stringFrom? (c :: read) rest := by
  cases h with
  | plain quote backslash control => exact stringFrom?_plain quote backslash control read rest
  | short form => exact stringFrom?_short form read rest
  | long may isHigh isLow =>
    have hlt := toNat_lt_of_mayBeEscaped may
    have whole : isSurrogate c.toNat = false := by
      rw [isSurrogate, Bool.and_eq_false_iff]
      exact .inl (decide_eq_false (by omega))
    have hread := stringFrom?_long (hex4?_of_long may isHigh isLow) whole read rest
    rwa [Char.ofNat_toNat] at hread

/-- The forms of a text are read as the text, up to the closing quote. -/
theorem WritesText.read {text written : List Char} (h : WritesText text written)
    (read rest : List Char) :
    stringFrom? read (written ++ '"' :: rest) = some (read.reverse ++ text, rest) := by
  induction h generalizing read with
  | nil =>
    rw [List.nil_append, stringFrom?, List.append_nil]
  | cons first _ ih =>
    rw [List.append_assoc, first.read, ih, List.reverse_cons, List.append_assoc]
    rfl

/-- A string is read as its text. -/
theorem string?_of_writesText {text written : List Char} (h : WritesText text written)
    (rest : List Char) :
    string? (written ++ '"' :: rest) = some (String.ofList text, rest) := by
  rw [string?, h.read]
  rfl

/-! ## No control characters -/

/-- A hexadecimal digit is no control character. -/
theorem IsHexDigit.no_control {n : Nat} {x : Char} (h : IsHexDigit n x) (small : n < 16) :
    0x20 ≤ x.toNat := by
  have hall : ∀ n < 16, 0x20 ≤ (Nat.digitChar n).toNat ∧
      0x20 ≤ (Nat.digitChar n).toUpper.toNat := by
    decide
  rcases h with rfl | rfl
  · exact (hall n small).1
  · exact (hall n small).2

/-- No form of a character has a control character in it. -/
theorem Writes.no_control {c : Char} {form : List Char} (h : Writes c form) :
    ∀ d ∈ form, 0x20 ≤ d.toNat := by
  cases h with
  | plain quote backslash control => exact List.forall_mem_singleton.2 control
  | short form =>
    have hletters : ∀ form ∈ shortForms, 0x20 ≤ form.2.toNat := by decide
    simpa using hletters _ form
  | long may isHigh isLow =>
    have hlt := toNat_lt_of_mayBeEscaped may
    have hhigh := isHigh.no_control (by omega)
    have hlow := isLow.no_control (by omega)
    simp [hhigh, hlow]

/-- Neither has a text. -/
theorem WritesText.no_control {text written : List Char} (h : WritesText text written) :
    ∀ d ∈ written, 0x20 ≤ d.toNat := by
  induction h with
  | nil => exact List.forall_mem_nil _
  | cons first _ ih => exact List.forall_mem_append.2 ⟨first.no_control, ih⟩

/-! ## Length -/

/-- A hexadecimal digit takes one byte. -/
theorem IsHexDigit.utf8Size {n : Nat} {x : Char} (h : IsHexDigit n x) (small : n < 16) :
    x.utf8Size = 1 := by
  have hall : ∀ n < 16, (Nat.digitChar n).utf8Size = 1 ∧
      (Nat.digitChar n).toUpper.utf8Size = 1 := by
    decide
  rcases h with rfl | rfl
  · exact (hall n small).1
  · exact (hall n small).2

/-- No form of a character takes more than six bytes. -/
theorem Writes.utf8Len_le {c : Char} {form : List Char} (h : Writes c form) :
    String.utf8Len form ≤ 6 := by
  cases h with
  | plain =>
    have hle := c.utf8Size_le_four
    rw [String.utf8Len_cons, String.utf8Len_nil]
    omega
  | short form =>
    have hletters : ∀ form ∈ shortForms, form.2.utf8Size = 1 := by decide
    have hletter := hletters _ form
    rw [String.utf8Len_cons, String.utf8Len_cons, String.utf8Len_nil, hletter]
    decide
  | long may isHigh isLow =>
    have hlt := toNat_lt_of_mayBeEscaped may
    have hhigh := isHigh.utf8Size (by omega)
    have hlow := isLow.utf8Size (by omega)
    simp only [String.utf8Len_cons, String.utf8Len_nil, hhigh, hlow]
    decide

/-- A text takes six bytes for each of its characters at most. -/
theorem WritesText.utf8Len_le {text written : List Char} (h : WritesText text written) :
    String.utf8Len written ≤ 6 * text.length := by
  induction h with
  | nil => exact Nat.le_refl 0
  | cons first _ ih =>
    have hle := first.utf8Len_le
    rw [String.utf8Len_append, List.length_cons]
    omega

/-! ## The usual form -/

/-- The form that is used for responses is one of those. -/
theorem writes_escape (c : Char) : Writes c (escape c) := by
  have hcode : ∀ {n}, c.toNat = n → c = Char.ofNat n := fun hn => by rw [← hn, Char.ofNat_toNat]
  have hshort : ∀ {d letter}, c = d → (d, letter) ∈ shortForms → Writes c ['\\', letter] := by
    rintro d letter rfl form
    exact .short form
  unfold escape
  split
  case isTrue same => exact hshort same (by decide)
  split
  case isTrue same => exact hshort same (by decide)
  split
  case isTrue same => exact hshort (hcode same) (by decide)
  split
  case isTrue same => exact hshort (hcode same) (by decide)
  split
  case isTrue same => exact hshort same (by decide)
  split
  case isTrue same => exact hshort same (by decide)
  split
  case isTrue same => exact hshort same (by decide)
  split
  case isTrue control =>
    have hhigh : c.toNat / 16 % 16 = c.toNat / 16 := by omega
    refine .long (.inr (.inr (.inl control))) (.inl ?_) (.inl rfl)
    rw [hexDigit, hhigh]
  case isFalse quote backslash _ _ _ _ _ control =>
    exact .plain quote backslash (by omega)

theorem writesText_flatMap_escape (text : List Char) : WritesText text (text.flatMap escape) := by
  induction text with
  | nil => exact .nil
  | cons c text ih => exact .cons (writes_escape c) ih

/-- A text without characters that must be escaped may stand as it is. -/
theorem writesText_self {text : List Char}
    (h : ∀ c ∈ text, c ≠ '"' ∧ c ≠ '\\' ∧ 0x20 ≤ c.toNat) : WritesText text text := by
  induction text with
  | nil => exact .nil
  | cons c text ih =>
    obtain ⟨quote, backslash, control⟩ := h c List.mem_cons_self
    exact .cons (.plain quote backslash control) (ih fun d hd => h d (List.mem_cons_of_mem c hd))

end Forum.Json
