import Mathlib
import Forum.Proofs.Engagement.Ranking
import Forum.Proofs.Engagement.Tally
import Forum.Proofs.Redis.Keyspace
import Forum.Redis.Keyspace

/-!
# Tallies on the server

A tally stands for the keys of a store, and its ranking for the sorted set read from its end.
-/

/-! ## Windows of a sorted set

The places that a store computes for a window select what skipping and taking would select, for any
window of 64 bits. Read from its end, a sorted set lists the members of the ranked posts in the
order of the ranking. -/

namespace Forum.Redis

/-- The places of a window that is not empty are those that skipping the offset and taking the limit
leave, in a list whose places are signed numbers of 64 bits. -/
theorem between_range {α : Type} {items : List α} (hl : items.length < 2 ^ 63)
    {offset limit : UInt64} (hn : limit ≠ 0) :
    Keyspace.between (Store.range offset limit).1 (Store.range offset limit).2 items =
      (items.drop offset.toNat).take limit.toNat := by
  have hlimit : 0 < limit.toNat := Nat.pos_of_ne_zero fun hz => hn (UInt64.toNat.inj hz)
  have hstart : 0 ≤ (Store.range offset limit).1 := by
    unfold Store.range Store.index
    omega
  have hstop : 0 ≤ (Store.range offset limit).2 := by
    unfold Store.range Store.index
    omega
  rw [Keyspace.between, Keyspace.place, if_pos hstart, if_pos hstop]
  unfold Store.range Store.index
  dsimp only
  by_cases hpast : items.length ≤ offset.toNat
  · -- Beyond the end both windows are empty.
    rw [List.drop_eq_nil_of_le hpast, List.drop_eq_nil_of_le (by omega)]
    simp
  · have hoffset : (min (offset.toNat : Int) (2 ^ 63 - 1)).toNat = offset.toNat := by omega
    rw [hoffset, List.take_eq_take_iff, List.length_drop]
    omega

namespace Keyspace

theorem precedes_iff (a b : String × Int) : precedes a b ↔ FallsTo a b := by
  simp [precedes, FallsTo]

/-- The members of a sorted set come in the order of any listing of it that is sorted. -/
theorem descending_eq_of_sorted {scores : Std.ExtTreeMap String Int}
    {sorted : List (String × Int)} (hp : scores.toList.Perm sorted)
    (hs : sorted.Pairwise (precedes · ·)) : descending scores = sorted.map Prod.fst := by
  rw [descending, FallsTo.mergeSort_eq precedes_iff hp hs]

/-- Three posts, two of them with the same score. -/
def podium : Std.ExtTreeMap String Int :=
  ((∅ : Std.ExtTreeMap String Int).insert (Store.member 7) 2 |>.insert (Store.member 9) 2).insert
    (Store.member 8) 5

theorem descending_podium : descending podium = [8, 9, 7].map Store.member := by
  have hperm : podium.toList.Perm
      [(Store.member 8, 5), (Store.member 9, 2), (Store.member 7, 2)] := by decide
  exact descending_eq_of_sorted hperm (by decide)

end Keyspace

/-- The element of a sorted set that stands for a post with its score. -/
def element (ranked : Int64 × Int64) : String × Int :=
  (Store.member ranked.1, ranked.2.toInt)

/-- The server orders elements the way the ranking orders posts that are not negative. -/
theorem precedes_element {a b : Int64 × Int64} (ha : 0 ≤ a.1) (hb : 0 ≤ b.1) :
    Engagement.Tally.precedes a b = Keyspace.precedes (element a) (element b) := by
  have hm : b.1 ≤ a.1 ↔ Store.member b.1 ≤ Store.member a.1 := by
    rw [← Int64.not_lt, ← String.not_lt, Store.member_lt_member_iff ha hb]
  unfold Engagement.Tally.precedes Keyspace.precedes element
  simp only [hm, Int64.lt_iff_toInt_lt, ← Int64.toInt_inj]

/-- A sorted set with an element for each post of a tally lists them in the order of the ranking. -/
theorem descending_eq {t : Engagement.Tally} {scores : Std.ExtTreeMap String Int}
    (hs : ∀ post ∈ t.ranked, 0 ≤ post.1) (hp : scores.toList.Perm (t.ranked.map element)) :
    Keyspace.descending scores = t.ranking.map Store.member := by
  have hsort : (t.ranked.mergeSort Engagement.Tally.precedes).map element =
      (t.ranked.map element).mergeSort Keyspace.precedes :=
    List.map_mergeSort fun a ha b hb => precedes_element (hs a ha) (hs b hb)
  have hsorted := FallsTo.pairwise_mergeSort Keyspace.precedes_iff (t.ranked.map element)
  rw [Keyspace.descending_eq_of_sorted (hp.trans (List.mergeSort_perm _ _).symm) hsorted, ← hsort,
    t.ranking_eq, List.map_map, List.map_map]
  rfl

end Forum.Redis

/-! ## What the server keeps for a tally

`Store.Represents` links a tally to the keys of a store: the hash of each post holds its votes, and
the sorted set holds the score of each registered post under its member and nothing else. Entries
put in place and posts removed on both sides keep the link. -/

namespace Forum.Redis.Store

open Engagement (Tally Entry)

/-- The server keeps a tally of posts that are not negative under the keys of a store. -/
structure Represents (s : Store) (t : Tally) (k : Keyspace) : Prop where
  /-- The hash of a post holds its votes. -/
  votes : ∀ post, 0 ≤ post → ∃ fields, k.fields? (s.votesKey post) = some fields ∧
    ∀ user : Int64, fields[toString user]? = (t.voteOf post user).map Direction.stored
  /-- The sorted set holds the scores of the registered posts, each under its member. -/
  scores : ∃ scores, k.scores? s.scoresKey = some scores ∧
    (∀ post, 0 ≤ post → scores[member post]? = (t.scoreOf post).map Int64.toInt) ∧
    ∀ m ∈ scores, ∃ post, 0 ≤ post ∧ m = member post
  /-- Registered posts are not negative. -/
  nonneg : ∀ post, (t.scoreOf post).isSome → 0 ≤ post

/-- No key of a store has a value. -/
structure Unused (s : Store) (k : Keyspace) : Prop where
  /-- There are no votes. -/
  votes : ∀ post, k.values[s.votesKey post]? = none
  /-- There are no scores. -/
  scores : k.values[s.scoresKey]? = none

variable {s : Store} {t : Tally} {k k' : Keyspace} {post : Int64}

/-- A store that is not used yet keeps the empty tally. -/
theorem Unused.represents (hu : s.Unused k) : s.Represents .empty k where
  votes post _ := by
    refine ⟨∅, by rw [Keyspace.fields?, hu.votes], fun user => ?_⟩
    rw [Std.ExtTreeMap.getElem?_empty, Tally.voteOf_of_none _ _ _ rfl]
    rfl
  scores := by
    refine ⟨∅, by rw [Keyspace.scores?, hu.scores], fun post _ => ?_, fun m hm => ?_⟩
    · rw [Std.ExtTreeMap.getElem?_empty]
      rfl
    · exact absurd hm Std.ExtTreeMap.not_mem_empty
  nonneg post hs := by cases hs

theorem element_injective : Function.Injective element := by
  rintro ⟨a, x⟩ ⟨b, y⟩ hab
  obtain ⟨hm, hs⟩ := Prod.mk.inj hab
  exact Prod.ext (member_injective hm) (Int64.toInt.inj hs)

namespace Represents

/-- What the sorted set holds, once it is known. -/
theorem getElem?_scores (hr : s.Represents t k) {scores : Std.ExtTreeMap String Int}
    (hk : k.scores? s.scoresKey = some scores) :
    (∀ post, 0 ≤ post → scores[member post]? = (t.scoreOf post).map Int64.toInt) ∧
      ∀ m ∈ scores, ∃ post, 0 ≤ post ∧ m = member post := by
  obtain ⟨scores', hk', hscores⟩ := hr.scores
  obtain rfl : scores = scores' := Option.some.inj (hk.symm.trans hk')
  exact hscores

/-- An entry put in place on both sides. -/
theorem put (hr : s.Represents t k) (hp : 0 ≤ post) {e : Entry}
    {scores : Std.ExtTreeMap String Int} (hk : k.scores? s.scoresKey = some scores)
    (hv : ∃ fields, k'.fields? (s.votesKey post) = some fields ∧
      ∀ user : Int64, fields[toString user]? = e.votes[user]?.map Direction.stored)
    (ho : ∀ other, other ≠ post → k'.fields? (s.votesKey other) = k.fields? (s.votesKey other))
    (hs : k'.scores? s.scoresKey = some (scores.insert (member post) e.score.toInt)) :
    s.Represents (t.put post e) k' where
  votes other hother := by
    by_cases hsame : other = post
    · subst hsame
      obtain ⟨fields, hf, hvotes⟩ := hv
      refine ⟨fields, hf, fun user => ?_⟩
      rw [hvotes, Tally.voteOf_eq_entry, Tally.entry_put, if_pos rfl]
    · obtain ⟨fields, hf, hvotes⟩ := hr.votes other hother
      refine ⟨fields, (ho other hsame).trans hf, fun user => ?_⟩
      rw [hvotes, Tally.voteOf_eq_entry, Tally.voteOf_eq_entry, Tally.entry_put, if_neg hsame]
  scores := by
    obtain ⟨hscores, hmembers⟩ := hr.getElem?_scores hk
    refine ⟨_, hs, fun other hother => ?_, fun m hm => ?_⟩
    · simp only [FiniteMap.getElem?_insert, member_injective.eq_iff, Tally.scoreOf_put,
        hscores other hother]
      split <;> rfl
    · rcases Std.ExtTreeMap.mem_insert.1 hm with heq | hold
      · exact ⟨post, hp, (Std.LawfulEqCmp.eq_of_compare heq).symm⟩
      · exact hmembers m hold
  nonneg other hother := by
    rcases (Tally.isSome_scoreOf_put t post other e).1 hother with rfl | hold
    · exact hp
    · exact hr.nonneg other hold

/-- A post removed on both sides. -/
theorem remove (hr : s.Represents t k) {scores : Std.ExtTreeMap String Int}
    (hk : k.scores? s.scoresKey = some scores) (hv : k'.fields? (s.votesKey post) = some ∅)
    (ho : ∀ other, other ≠ post → k'.fields? (s.votesKey other) = k.fields? (s.votesKey other))
    (hs : k'.scores? s.scoresKey = some (scores.erase (member post))) :
    s.Represents (t.remove post) k' where
  votes other hother := by
    by_cases hsame : other = post
    · subst hsame
      refine ⟨∅, hv, fun user => ?_⟩
      rw [Std.ExtTreeMap.getElem?_empty, Tally.voteOf_eq_entry, Tally.entry_remove, if_pos rfl,
        Std.ExtTreeMap.getElem?_empty]
      rfl
    · obtain ⟨fields, hf, hvotes⟩ := hr.votes other hother
      refine ⟨fields, (ho other hsame).trans hf, fun user => ?_⟩
      rw [hvotes, Tally.voteOf_eq_entry, Tally.voteOf_eq_entry, Tally.entry_remove, if_neg hsame]
  scores := by
    obtain ⟨hscores, hmembers⟩ := hr.getElem?_scores hk
    refine ⟨_, hs, fun other hother => ?_, fun m hm => ?_⟩
    · simp only [FiniteMap.getElem?_erase, member_injective.eq_iff, Tally.scoreOf_remove,
        hscores other hother]
      split <;> rfl
    · exact hmembers m (Std.ExtTreeMap.mem_of_mem_erase hm)
  nonneg other hother := by
    rw [Tally.scoreOf_remove] at hother
    split at hother
    · cases hother
    · exact hr.nonneg other hother

/-- Ranked posts are not negative. -/
theorem ranked_nonneg (hr : s.Represents t k) : ∀ post ∈ t.ranked, 0 ≤ post.1 := by
  rintro ⟨post, score⟩ hm
  exact hr.nonneg post (Option.isSome_of_eq_some (Tally.mem_ranked.1 hm))

/-- The sorted set has one element for each registered post. -/
theorem toList_perm (hr : s.Represents t k) {scores : Std.ExtTreeMap String Int}
    (hs : k.scores? s.scoresKey = some scores) : scores.toList.Perm (t.ranked.map element) := by
  obtain ⟨hscores, hmembers⟩ := hr.getElem?_scores hs
  have hnodup : (t.ranked.map element).Nodup := t.nodup_ranked.map element_injective
  rw [List.perm_ext_iff_of_nodup (FiniteMap.nodup_toList scores) hnodup]
  rintro ⟨m, x⟩
  rw [Std.ExtTreeMap.mem_toList_iff_getElem?_eq_some, List.mem_map]
  constructor
  · intro hx
    obtain ⟨post, hp, rfl⟩ := hmembers m (Std.ExtTreeMap.mem_iff_isSome_getElem?.2
      (Option.isSome_of_eq_some hx))
    rw [hscores post hp] at hx
    obtain ⟨score, hscore, rfl⟩ := Option.map_eq_some_iff.1 hx
    exact ⟨(post, score), Tally.mem_ranked.2 hscore, rfl⟩
  · rintro ⟨⟨post, score⟩, hm, he⟩
    obtain ⟨rfl, rfl⟩ := Prod.mk.inj he
    rw [hscores post (hr.ranked_nonneg _ hm), Tally.mem_ranked.1 hm, Option.map_some]

/-- It has as many members as there are registered posts. -/
theorem size_eq (hr : s.Represents t k) {scores : Std.ExtTreeMap String Int}
    (hs : k.scores? s.scoresKey = some scores) : scores.size = t.cardinality := by
  rw [← Std.ExtTreeMap.length_toList, (hr.toList_perm hs).length_eq, List.length_map,
    t.length_ranked]

end Represents

end Forum.Redis.Store
