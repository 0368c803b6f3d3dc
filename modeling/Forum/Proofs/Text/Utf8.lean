import Mathlib
import Forum.Text.Utf8

/-!
# Texts and their bytes

The bytes of a text are read as the text. Comparing the bytes of two texts decides like comparing
their characters, so what is sorted by bytes is sorted by characters. Characters may take different
numbers of bytes: the first byte of one that takes more is greater, and with as many bytes on both
sides these are digits to the base 64. Hence the lesser character is decided within its own bytes,
whatever follows them.
-/

namespace Forum.Utf8

section bytes

variable {m n : ℕ}

theorem ofNat_lt_ofNat_iff (hm : m < 256) (hn : n < 256) :
    UInt8.ofNat m < UInt8.ofNat n ↔ m < n := by
  rw [UInt8.lt_iff_toNat_lt, UInt8.toNat_ofNat_of_lt' hm, UInt8.toNat_ofNat_of_lt' hn]

theorem ofNat_eq_ofNat_iff (hm : m < 256) (hn : n < 256) :
    UInt8.ofNat m = UInt8.ofNat n ↔ m = n := by
  rw [← UInt8.toNat_inj, UInt8.toNat_ofNat_of_lt' hm, UInt8.toNat_ofNat_of_lt' hn]

end bytes

/-! ## Reading -/

section parts

variable {b : UInt8} {owed : Owed}

/-- The first byte of a longer character. -/
theorem parts_lead (high : 0x80 ≤ b.toNat) (h : lead? b.toNat = some owed) (rest : List UInt8) :
    parts none (b :: rest) = parts (some owed) rest := by
  rw [parts, if_neg (Nat.not_lt.2 high), h]

variable (within : owed.next.1 ≤ b.toNat ∧ b.toNat ≤ owed.next.2)

include within

/-- A byte that continues a character, with others to come. -/
theorem parts_later {range : Nat × Nat} {ranges : List (Nat × Nat)}
    (later : owed.later = range :: ranges) (rest : List UInt8) : parts (some owed) (b :: rest) =
      parts (some ⟨owed.bits * 0x40 + b.toNat % 0x40, range, ranges⟩) rest := by
  rw [parts, if_pos within, later]

/-- The last byte of a character. -/
theorem parts_last (later : owed.later = []) (rest : List UInt8) : parts (some owed) (b :: rest) =
    some (Char.ofNat (owed.bits * 0x40 + b.toNat % 0x40)) :: parts none rest := by
  rw [parts, if_pos within, later]

end parts

section lead

variable {m : ℕ}

/-- What the first of three bytes announces, when they are those of a character. -/
theorem lead?_three (least : 0x7FF < m) (greatest : m ≤ 0xFFFF)
    (valid : m < 0xD800 ∨ 0xDFFF < m) : ∃ range, lead? (m / 4096 % 16 + 224) =
      some ⟨m / 4096, range, [tail]⟩ ∧
        range.1 ≤ m / 64 % 64 + 128 ∧ m / 64 % 64 + 128 ≤ range.2 := by
  unfold lead?
  split_ifs
  · omega
  · exact ⟨(0xA0, 0xBF), by simp; omega, by dsimp only; omega⟩
  · exact ⟨(0x80, 0x9F), by simp; omega, by dsimp only; omega⟩
  · exact ⟨tail, by simp; omega, by dsimp only [tail]; omega⟩
  all_goals omega

/-- What the first of four bytes announces, when they are those of a character. -/
theorem lead?_four (least : 0xFFFF < m) (greatest : m < 0x110000) : ∃ range,
    lead? (m / 262144 % 8 + 240) = some ⟨m / 262144, range, [tail, tail]⟩ ∧
      range.1 ≤ m / 4096 % 64 + 128 ∧ m / 4096 % 64 + 128 ≤ range.2 := by
  unfold lead?
  split_ifs
  case pos => omega
  · omega
  · omega
  · omega
  · exact ⟨(0x90, 0xBF), by simp; omega, by dsimp only; omega⟩
  · exact ⟨tail, by simp; omega, by dsimp only [tail]; omega⟩
  · exact ⟨(0x80, 0x8F), by simp; omega, by dsimp only; omega⟩
  · omega

end lead

/-- The bytes of a character are read as the character, whatever stands behind them. -/
theorem parts_utf8EncodeChar_append (c : Char) (rest : List UInt8) :
    parts none (String.utf8EncodeChar c ++ rest) = some c :: parts none rest := by
  have hchar : ∀ {n}, n = c.val.toNat → Char.ofNat n = c := by
    rintro n rfl
    exact Char.ofNat_toNat c
  have hvalid : c.val.toNat < 0xD800 ∨ 0xDFFF < c.val.toNat ∧ c.val.toNat < 0x110000 := c.valid
  have hbyte : ∀ {n}, n < 256 → (UInt8.ofNat n).toNat = n := UInt8.toNat_ofNat_of_lt'
  unfold String.utf8EncodeChar
  dsimp only
  generalize c.val.toNat = m at *
  -- One case for each number of bytes; the bits of all of them together are the character's.
  split_ifs with hone htwo hthree
  · rw [List.singleton_append, parts, hbyte (by omega), if_pos (by omega), hchar rfl]
  · have hlead : lead? (UInt8.ofNat (m / 64 % 32 + 192)).toNat = some ⟨m / 64, tail, []⟩ := by
      rw [hbyte (by omega), lead?, if_pos (by omega)]
      simp
      omega
    rw [List.cons_append, List.singleton_append, parts_lead (by rw [hbyte] <;> omega) hlead,
      parts_last (by dsimp only [tail]; rw [hbyte (by omega)]; omega) rfl, hchar]
    dsimp only
    rw [hbyte (by omega)]
    omega
  · obtain ⟨range, hlead, hrange⟩ := lead?_three (m := m) (by omega) (by omega) (by omega)
    rw [← hbyte (n := m / 4096 % 16 + 224) (by omega)] at hlead
    rw [List.cons_append, List.cons_append, List.singleton_append,
      parts_lead (by rw [hbyte] <;> omega) hlead,
      parts_later (by rw [hbyte (by omega)]; exact hrange) rfl,
      parts_last (by dsimp only [tail]; rw [hbyte (by omega)]; omega) rfl, hchar]
    dsimp only
    rw [hbyte (by omega), hbyte (by omega)]
    omega
  · obtain ⟨range, hlead, hrange⟩ := lead?_four (m := m) (by omega) (by omega)
    rw [← hbyte (n := m / 262144 % 8 + 240) (by omega)] at hlead
    rw [List.cons_append, List.cons_append, List.cons_append, List.singleton_append,
      parts_lead (by rw [hbyte] <;> omega) hlead,
      parts_later (by rw [hbyte (by omega)]; exact hrange) rfl,
      parts_later (by dsimp only [tail]; rw [hbyte (by omega)]; omega) rfl,
      parts_last (by dsimp only [tail]; rw [hbyte (by omega)]; omega) rfl, hchar]
    dsimp only
    rw [hbyte (by omega), hbyte (by omega), hbyte (by omega)]
    omega

/-- The bytes of a text are read as its characters. -/
theorem parts_encode (s : String) : parts none (encode s) = s.toList.map some := by
  rw [← String.ofList_toList (s := s), encode_ofList, String.toList_ofList]
  induction s.toList with
  | nil => rfl
  | cons c cs ih => rw [List.flatMap_cons, parts_utf8EncodeChar_append, ih, List.map_cons]

/-- A text has as many bytes as its size says. -/
theorem length_encode (s : String) : (encode s).length = s.utf8ByteSize := rfl

/-! ## Order -/

/-- The bytes of a lesser character come first, whatever stands behind them. -/
theorem utf8EncodeChar_append_lt {c d : Char} (h : c < d) (xs ys : List UInt8) :
    String.utf8EncodeChar c ++ xs < String.utf8EncodeChar d ++ ys := by
  have hlt : c.val.toNat < d.val.toNat := h
  have hbound : d.val.toNat < 0x110000 := by
    have hvalid := d.valid
    unfold UInt32.isValidChar Nat.isValidChar at hvalid
    omega
  unfold String.utf8EncodeChar
  dsimp only
  generalize c.val.toNat = m at *
  generalize d.val.toNat = n at *
  -- The digits to the base 64, each from the one before it.
  have hsecond (v : ℕ) : v / 4096 = v / 64 / 64 := by omega
  have hthird (v : ℕ) : v / 262144 = v / 64 / 64 / 64 := by omega
  rw [hsecond m, hsecond n, hthird m, hthird n]
  -- One case for each number of bytes on either side; the first byte decides unless it is the same.
  split_ifs <;> simp (disch := omega) only [List.cons_append, List.nil_append,
    List.cons_lt_cons_iff, ofNat_lt_ofNat_iff, ofNat_eq_ofNat_iff] <;> omega

theorem flatMap_utf8EncodeChar_lt {cs ds : List Char} (h : cs < ds) :
    cs.flatMap String.utf8EncodeChar < ds.flatMap String.utf8EncodeChar := by
  induction cs generalizing ds with
  | nil =>
    obtain _ | ⟨d, ds⟩ := ds
    · exact absurd h (List.lt_irrefl [])
    obtain ⟨byte, bytes, hbytes⟩ := List.exists_cons_of_ne_nil (@String.utf8EncodeChar_ne_nil d)
    rw [List.flatMap_nil, List.flatMap_cons, hbytes]
    exact List.nil_lt_cons _ _
  | cons c cs ih =>
    obtain _ | ⟨d, ds⟩ := ds
    · exact absurd h (List.not_lt_nil _)
    rw [List.flatMap_cons, List.flatMap_cons]
    rcases List.cons_lt_cons_iff.1 h with hcd | ⟨rfl, hrest⟩
    · exact utf8EncodeChar_append_lt hcd _ _
    · exact List.append_left_lt (ih hrest)

/-- Texts compare by their bytes the way they compare by their characters. -/
theorem encode_lt_encode_iff {s t : String} : encode s < encode t ↔ s < t := by
  have hmono {s t : String} (h : s < t) : encode s < encode t := by
    have hlists := flatMap_utf8EncodeChar_lt (String.lt_iff.1 h)
    rwa [← encode_ofList, ← encode_ofList, String.ofList_toList, String.ofList_toList] at hlists
  refine ⟨fun h => ?_, hmono⟩
  rcases lt_trichotomy s t with hlt | rfl | hgt
  · exact hlt
  · exact absurd h (List.lt_irrefl _)
  · exact absurd h (List.lt_asymm (hmono hgt))

end Forum.Utf8
