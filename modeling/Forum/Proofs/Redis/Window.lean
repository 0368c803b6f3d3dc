import Mathlib
import Forum.Proofs.Redis.Calls

/-!
# Windows in words

The two places of a window are computed with signed numbers of 64 bits, from an offset and a limit
without sign. A number that has no signed one becomes the greatest, one is taken from the limit,
and the sum stops at the greatest number. None of this overflows, and the places from the first to
the last, both included, hold exactly what skipping the offset and taking the limit leaves: where
the greatest number stands in for a larger one, no list has members that far.

A window of limit zero ends before it begins. The server would read a last place below zero as one
counted from the end, so such a window must not be asked for.
-/

namespace Forum.Redis

namespace Place

/-- The signed word of a number; nothing if there is none. -/
def word? (n : Int) : Option Int64 :=
  if -2 ^ 63 ≤ n ∧ n < 2 ^ 63 then some (.ofInt n) else none

/-- The signed word of an unsigned one; the greatest one stands for all that are larger. -/
def capped (n : UInt64) : Int64 :=
  (word? n.toNat).getD .maxValue

/-- The difference of two signed words; nothing if it overflows. -/
def minus? (a b : Int64) : Option Int64 :=
  word? (a.toInt - b.toInt)

/-- The sum of two signed words, or the least or greatest word if it is beyond them. -/
def plus (a b : Int64) : Int64 :=
  .ofIntClamp (a.toInt + b.toInt)

/-- The first and the last place of a window, with words only; nothing if a step overflows. -/
def window? (offset limit : UInt64) : Option (Int64 × Int64) := do
  let more ← minus? (capped limit) 1
  return (capped offset, plus (capped offset) more)

/-- A number in the range of signed words has a word. -/
theorem word?_of_range {n : Int} (hlow : -2 ^ 63 ≤ n) (hhigh : n < 2 ^ 63) :
    ∃ word, word? n = some word ∧ word.toInt = n :=
  ⟨.ofInt n, by rw [word?, if_pos ⟨hlow, hhigh⟩], Int64.toInt_ofInt_of_le hlow hhigh⟩

theorem toInt_capped (n : UInt64) : (capped n).toInt = Store.index n := by
  unfold capped Store.index
  by_cases hn : n.toNat < 2 ^ 63
  · obtain ⟨word, hword, hvalue⟩ := word?_of_range (n := n.toNat) (by omega) (by omega)
    rw [hword, Option.getD_some, hvalue]
    omega
  · have hnone : word? n.toNat = none := if_neg fun hrange => hn (by omega)
    have hmax : Int64.maxValue.toInt = 2 ^ 63 - 1 := rfl
    rw [hnone, Option.getD_none, hmax]
    omega

theorem toInt_plus (a b : Int64) :
    (plus a b).toInt = max (-2 ^ 63) (min (a.toInt + b.toInt) (2 ^ 63 - 1)) := by
  have hleast : Int64.minValue.toInt = -2 ^ 63 := rfl
  have hgreatest : Int64.maxValue.toInt = 2 ^ 63 - 1 := rfl
  unfold plus Int64.ofIntClamp
  split
  case isTrue hlow =>
    split
    case isTrue hhigh =>
      rw [Int64.toInt_ofIntLE]
      omega
    case isFalse hhigh =>
      rw [hgreatest]
      omega
  case isFalse hlow =>
    rw [hleast]
    omega

/-- The number that stands for an unsigned word is a signed word that is not negative. -/
theorem index_bounds (n : UInt64) : 0 ≤ Store.index n ∧ Store.index n < 2 ^ 63 := by
  unfold Store.index
  omega

/-- Both places are defined for all offsets and limits, and are those that are asked for. -/
theorem window?_eq (offset limit : UInt64) : ∃ start stop,
    window? offset limit = some (start, stop) ∧
      (start.toInt, stop.toInt) = Store.range offset limit := by
  have hoffset := index_bounds offset
  have hlimit := index_bounds limit
  have hone : (1 : Int64).toInt = 1 := rfl
  obtain ⟨more, hminus, hmore⟩ := word?_of_range (n := (capped limit).toInt - (1 : Int64).toInt)
    (by rw [toInt_capped, hone]; omega) (by rw [toInt_capped, hone]; omega)
  refine ⟨capped offset, plus (capped offset) more, ?_, ?_⟩
  · rw [window?, minus?, hminus]
    rfl
  · rw [toInt_plus, hmore, toInt_capped, toInt_capped, hone, Store.range, Prod.mk.injEq]
    refine ⟨rfl, ?_⟩
    omega

end Place

section inclusive

variable {α : Type} (start stop : Int) (items : List α)

/-- The items from one place of a list to another one, both included. -/
def inclusive : List α :=
  (items.zipIdx.filter fun item => start ≤ item.2 ∧ item.2 ≤ stop).map Prod.fst

/-- Of a list whose places are counted from any number on, these are the first ones without those
before. -/
theorem map_filter_zipIdx (first : ℕ) :
    ((items.zipIdx first).filter fun item => start ≤ item.2 ∧ item.2 ≤ stop).map Prod.fst =
      (items.take (stop + 1 - first).toNat).drop (start - first).toNat := by
  induction items generalizing first with
  | nil => simp
  | cons item items ih =>
    have hnext := ih (first + 1)
    rw [List.zipIdx_cons]
    by_cases hitem : start ≤ first ∧ (first : Int) ≤ stop
    · have htake : (stop + 1 - first).toNat = (stop + 1 - (first + 1 : ℕ)).toNat + 1 := by omega
      have hdrop : (start - first).toNat = 0 := by omega
      have hdrop' : (start - (first + 1 : ℕ)).toNat = 0 := by omega
      rw [List.filter_cons_of_pos (by exact decide_eq_true hitem), List.map_cons, hnext, htake,
        hdrop, hdrop', List.take_succ_cons, List.drop_zero, List.drop_zero]
    · rw [List.filter_cons_of_neg (by simpa using hitem), hnext]
      by_cases hlast : (first : Int) ≤ stop
      · have htake : (stop + 1 - first).toNat = (stop + 1 - (first + 1 : ℕ)).toNat + 1 := by omega
        have hdrop : (start - first).toNat = (start - (first + 1 : ℕ)).toNat + 1 := by omega
        rw [htake, hdrop, List.take_succ_cons, List.drop_succ_cons]
      · have htake : (stop + 1 - first).toNat = 0 := by omega
        have htake' : (stop + 1 - (first + 1 : ℕ)).toNat = 0 := by omega
        rw [htake, htake', List.take_zero, List.take_zero, List.drop_nil, List.drop_nil]

/-- Places that are not negative are read by the server from the front. -/
theorem inclusive_eq_between (hstart : 0 ≤ start) (hstop : 0 ≤ stop) :
    inclusive start stop items = Keyspace.between start stop items := by
  have hplace : Keyspace.place start items.length = start := if_pos hstart
  have hcount : (stop + 1 - (0 : ℕ)).toNat - (start - (0 : ℕ)).toNat =
      (stop - start + 1).toNat := by
    omega
  rw [inclusive, map_filter_zipIdx, List.drop_take, hcount, Keyspace.between, hplace,
    if_pos hstop, Nat.cast_zero, sub_zero]

/-- The places of a window hold what skipping the offset and taking the limit leaves. -/
theorem inclusive_range {items : List α} (hl : items.length < 2 ^ 63) (offset limit : UInt64) :
    inclusive (Store.range offset limit).1 (Store.range offset limit).2 items =
      (items.drop offset.toNat).take limit.toNat := by
  have hoffset := Place.index_bounds offset
  have hlimit := Place.index_bounds limit
  by_cases hn : limit = 0
  · -- The last place stands before the first one.
    subst hn
    have hzero : Store.index 0 = 0 := rfl
    rw [inclusive, map_filter_zipIdx, List.drop_eq_nil_of_le, UInt64.toNat_zero, List.take_zero]
    rw [List.length_take, Store.range, hzero]
    omega
  · have hpos : 0 < limit.toNat := Nat.pos_of_ne_zero fun hz => hn (UInt64.toNat.inj hz)
    have hindex : 0 < Store.index limit := by
      unfold Store.index
      omega
    rw [inclusive_eq_between, between_range hl hn]
    · exact hoffset.1
    · rw [Store.range]
      omega

end inclusive

namespace Store

/-- A window beyond the last member is empty, and so is one of limit zero. -/
theorem window_eq_nil {items : List String} (hl : items.length < 2 ^ 63) {offset limit : UInt64}
    (h : limit = 0 ∨ items.length ≤ offset.toNat ∨ 2 ^ 63 ≤ offset.toNat) :
    (items.drop offset.toNat).take limit.toNat = [] := by
  rcases h with rfl | hpast
  · rw [UInt64.toNat_zero, List.take_zero]
  · rw [List.drop_eq_nil_of_le (by omega), List.take_nil]

/-- **A window of the ranking is a range of the server's list.** For all offsets and limits the
first and the last place are defined in signed words of 64 bits, and no step on the way to them
overflows. They are the places that are sent, except for limit zero, where nothing is sent. Of the
members of any sorted set, counted from its end and fewer than 2^63, the places from the first to
the last, both included, are exactly those that skipping the offset and taking the limit leaves;
that is what the server selects, and none are left for limit zero, for an offset at or past the end
and for one that no signed word holds. So the call is answered with the posts of these members, and
the keys stay as they are. -/
theorem window_is_range (s : Store) (offset limit : UInt64) :
    ∃ start stop : Int64, Place.window? offset limit = some (start, stop) ∧
      s.command? (.topByScore offset limit) =
        (if limit = 0 then none
          else some (.sortedRange s.scoresKey start.toInt stop.toInt)) ∧
      (∀ members : List String, members.length < 2 ^ 63 →
        let window := (members.drop offset.toNat).take limit.toNat
        inclusive start.toInt stop.toInt members = window ∧
        (limit ≠ 0 → Keyspace.between start.toInt stop.toInt members = window) ∧
        (limit = 0 ∨ members.length ≤ offset.toNat ∨ 2 ^ 63 ≤ offset.toNat → window = [])) ∧
      ∀ (k : Keyspace) (scores : Std.ExtTreeMap String Int),
        k.scores? s.scoresKey = some scores → scores.size < 2 ^ 63 →
        s.answer k (.topByScore offset limit) =
          (readMembers (((Keyspace.descending scores).drop offset.toNat).take limit.toNat), k) := by
  obtain ⟨start, stop, hwords, hrange⟩ := Place.window?_eq offset limit
  obtain ⟨hstart, hstop⟩ : start.toInt = (range offset limit).1 ∧
      stop.toInt = (range offset limit).2 := Prod.mk.inj hrange
  refine ⟨start, stop, hwords, ?_, fun members hl => ⟨?_, fun hn => ?_, window_eq_nil hl⟩,
    fun k scores hs hl => answer_window s hs hl offset limit⟩
  · rw [hstart, hstop]
    rfl
  · rw [hstart, hstop, inclusive_range hl]
  · rw [hstart, hstop, between_range hl hn]

/-- Behind an offset of two and with the greatest limit, the last place is the greatest one. Of
three members the last is left, and of two none. -/
theorem window_is_range_of_greatest_limit :
    let s : Store := ⟨"forum"⟩
    let k := Keyspace.empty.put s.scoresKey (.sortedSet Keyspace.podium)
    let limit : UInt64 := 18446744073709551615
    Place.window? 2 limit = some (2, 9223372036854775807) ∧ limit ≠ 0 ∧
    ["c", "b", "a"].length < 2 ^ 63 ∧
    inclusive 2 9223372036854775807 ["c", "b", "a"] = ["a"] ∧
    Keyspace.between 2 9223372036854775807 ["c", "b", "a"] = ["a"] ∧
    ["b", "a"].length < 2 ^ 63 ∧ ["b", "a"].length ≤ (2 : UInt64).toNat ∧
    (["b", "a"].drop (2 : UInt64).toNat).take limit.toNat = [] ∧
    k.scores? s.scoresKey = some Keyspace.podium ∧ Keyspace.podium.size < 2 ^ 63 ∧
    s.answer k (.topByScore 2 limit) = (.ok [7], k) := by
  intro s k limit
  obtain ⟨start, stop, hwords, -, hmembers, hanswer⟩ := window_is_range s 2 limit
  have hplaces : Place.window? 2 limit = some (2, 9223372036854775807) := by decide
  obtain ⟨rfl, rfl⟩ := Prod.mk.inj (Option.some.inj (hplaces.symm.trans hwords))
  have hlimit : limit ≠ 0 := by decide
  have hthree : ["c", "b", "a"].length < 2 ^ 63 := by decide
  have htwo : ["b", "a"].length < 2 ^ 63 := by decide
  have hpast : ["b", "a"].length ≤ (2 : UInt64).toNat := by decide
  have hscores : k.scores? s.scoresKey = some Keyspace.podium :=
    Keyspace.scores?_put_sortedSet _ _ _
  have hsize : Keyspace.podium.size < 2 ^ 63 := by decide
  obtain ⟨hinclusive, hbetween, -⟩ := hmembers ["c", "b", "a"] hthree
  obtain ⟨-, -, hempty⟩ := hmembers ["b", "a"] htwo
  refine ⟨hplaces, hlimit, hthree, hinclusive, hbetween hlimit, htwo, hpast,
    hempty (.inr (.inl hpast)), hscores, hsize, ?_⟩
  rw [hanswer k Keyspace.podium hscores hsize, Keyspace.descending_podium]
  rfl

end Store

end Forum.Redis
