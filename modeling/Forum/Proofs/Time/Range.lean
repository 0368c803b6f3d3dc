import Mathlib
import Forum.Proofs.Text.Numeral
import Forum.Time.Timestamp

/-!
# How far written times reach

A written time has a year of four digits and an offset of less than a day. So it lies within ten
thousand years and a day, and its milliseconds take 48 bits and a sign.
-/

namespace Forum

/-- A step that goes on has had a value, and what follows it has gone on with that. -/
theorem exists_of_bind_eq_ok {ε α β : Type} {x : Except ε α} {f : α → Except ε β} {b : β}
    (h : x >>= f = .ok b) : ∃ a, x = .ok a ∧ f a = .ok b := by
  cases x with
  | error e => cases h
  | ok a => exact ⟨a, rfl, h⟩

/-- A day of the first ten thousand years lies within as many days of 1970. -/
theorem Date.dayNumber_bounds (d : Date) (h : d.year < 10000) :
    -720000 ≤ d.dayNumber ∧ d.dayNumber ≤ 2940000 := by
  obtain ⟨year, month, day, hmonth, hday⟩ := d
  dsimp only at h
  have hshort : daysInMonth year month ≤ 31 := by
    rw [daysInMonth]
    split
    · split <;> decide
    · split <;> decide
  rw [dayNumber]
  dsimp only
  split <;> omega

namespace Timestamp

/-- So many digits write a number below that power of ten. -/
theorem lt_of_fixed {width n : Nat} {cs rest : List Char} (h : fixed width cs = .ok (n, rest)) :
    n < 10 ^ width := by
  rw [fixed, Numeral.natural?] at h
  by_cases hdigits : !(cs.take width).isEmpty && (cs.take width).all Char.isDigit
  · rw [if_pos hdigits] at h
    dsimp only at h
    by_cases hlength : (cs.take width).length = width
    · rw [if_pos hlength] at h
      obtain ⟨rfl, -⟩ := Prod.mk.inj (Except.ok.inj h)
      have hall := List.all_eq_true.1 (Bool.and_eq_true_iff.1 hdigits).2
      exact (Numeral.value_lt hall).trans_eq (congrArg (10 ^ ·) hlength)
    · rw [if_neg hlength] at h
      cases h
  · rw [if_neg hdigits] at h
    cases h

/-- A year is written with four digits. -/
theorem year_lt_of_readDate {date : Date} {cs rest : List Char}
    (h : readDate cs = .ok (date, rest)) : date.year < 10000 := by
  obtain ⟨⟨year, cs⟩, hyear, h⟩ := exists_of_bind_eq_ok h
  obtain ⟨cs, -, h⟩ := exists_of_bind_eq_ok h
  obtain ⟨⟨month, cs⟩, -, h⟩ := exists_of_bind_eq_ok h
  obtain ⟨cs, -, h⟩ := exists_of_bind_eq_ok h
  obtain ⟨⟨day, cs⟩, -, h⟩ := exists_of_bind_eq_ok h
  have hlt := lt_of_fixed hyear
  dsimp only at h
  rw [Date.of?] at h
  split at h
  next found hfound =>
    split at hfound
    · obtain rfl := Option.some.inj hfound
      obtain ⟨rfl, -⟩ := Prod.mk.inj (Except.ok.inj h)
      exact hlt
    · cases hfound
  next => cases h

/-- So is the year of a time that was read. -/
theorem year_lt_of_parse {text : String} {t : Timestamp} (h : parse text = .ok t) :
    t.date.year < 10000 := by
  rw [parse] at h
  dsimp only at h
  split at h
  · cases h
  · obtain ⟨⟨date, cs⟩, hdate, h⟩ := exists_of_bind_eq_ok h
    -- Of the other fields only their reading has to be passed over.
    obtain ⟨cs, -, h⟩ := exists_of_bind_eq_ok h
    obtain ⟨⟨hour, cs⟩, -, h⟩ := exists_of_bind_eq_ok h
    obtain ⟨cs, -, h⟩ := exists_of_bind_eq_ok h
    obtain ⟨⟨minute, cs⟩, -, h⟩ := exists_of_bind_eq_ok h
    obtain ⟨cs, -, h⟩ := exists_of_bind_eq_ok h
    obtain ⟨⟨second, cs⟩, -, h⟩ := exists_of_bind_eq_ok h
    obtain ⟨⟨nanosecond, cs⟩, -, h⟩ := exists_of_bind_eq_ok h
    dsimp only at h
    split at h
    · obtain ⟨⟨offset, cs⟩, -, h⟩ := exists_of_bind_eq_ok h
      dsimp only at h
      split at h
      · cases h
      · split at h
        · obtain rfl := Except.ok.inj h
          exact year_lt_of_readDate hdate
        · cases h
    · cases h

/-- A time with such a year takes 48 bits and a sign. -/
theorem millis_bounds (t : Timestamp) (h : t.date.year < 10000) :
    -2 ^ 48 < t.millis ∧ t.millis < 2 ^ 48 := by
  obtain ⟨hlow, hhigh⟩ := t.date.dayNumber_bounds h
  obtain ⟨hhour, hminute, hsecond, hnanosecond⟩ := t.time_mem
  obtain ⟨hwest, heast⟩ := t.offset_mem
  rw [millis, seconds]
  omega

end Timestamp

end Forum
