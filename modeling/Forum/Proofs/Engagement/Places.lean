import Mathlib
import Forum.Proofs.Engagement.Consistency

/-!
# Places in the ranking

The order of the index is strict on the registered posts, because no two of them have the same
identifier. So there is only one list of them in that order, and the ranking is that list, in
whatever order the posts are gone through and however they are sorted. The place of a post is the
number of posts above it. When its score rises, the posts above it afterwards were above it before,
and when its score falls it is the other way round.
-/

namespace Forum.Engagement.Tally

/-- No post stands above itself. -/
theorem Above.irrefl {t : Tally} {post : Int64} : ¬ t.Above post post :=
  fun h => h.asymm h

/-! ## One order -/

/-- The registered posts, each above all that follow it. -/
structure Lists (t : Tally) (listed : List Int64) : Prop where
  /-- The posts are the registered ones. -/
  mem_iff : ∀ post, post ∈ listed ↔ (t.scoreOf post).isSome
  /-- They fall by score, and by identifier where scores are equal. -/
  order : listed.Pairwise t.Above

/-- The ranking is the only such list. -/
theorem lists_iff (t : Tally) (listed : List Int64) : t.Lists listed ↔ listed = t.ranking := by
  constructor
  · intro h
    have hnodup : listed.Nodup := h.order.imp fun {a b} hab (hsame : a = b) =>
      Above.irrefl (hsame ▸ hab)
    refine List.Perm.eq_of_pairwise (fun a b _ _ hab hba => absurd hba hab.asymm) h.order
      t.pairwise_ranking ?_
    refine (List.perm_ext_iff_of_nodup hnodup t.nodup_ranking).2 fun post => ?_
    rw [h.mem_iff, mem_ranking_iff]
  · rintro rfl
    exact ⟨fun post => mem_ranking_iff, t.pairwise_ranking⟩

/-- However the ranked posts are gone through and sorted, the ranking comes out. -/
theorem map_fst_of_sorted {t : Tally} {sorted : List (Int64 × Int64)} (hperm : sorted.Perm t.ranked)
    (hsorted : sorted.Pairwise (precedes · ·)) : sorted.map Prod.fst = t.ranking := by
  rw [ranking_eq, FallsTo.mergeSort_eq precedes_iff hperm.symm hsorted]

/-- A window of the index is a part of the ranking. -/
theorem topByScore_eq_extract (t : Tally) (offset limit : UInt64) :
    t.topByScore offset limit =
      t.ranking.extract offset.toNat (offset.toNat + limit.toNat) := by
  rw [topByScore, List.extract_eq_take_drop, Nat.add_sub_cancel_left]

/-! ## Places -/

/-- The posts in front of a post in the ranking. -/
def ahead (t : Tally) (post : Int64) : List Int64 :=
  t.ranking.take (t.ranking.idxOf post)

/-- There are as many as the place of the post says. -/
theorem length_ahead (t : Tally) (post : Int64) :
    (t.ahead post).length = t.ranking.idxOf post := by
  rw [ahead, List.length_take, min_eq_left List.idxOf_le_length]

theorem nodup_ahead (t : Tally) (post : Int64) : (t.ahead post).Nodup :=
  t.nodup_ranking.sublist (List.take_sublist _ _)

/-- The posts in front of a registered post are those above it. -/
theorem mem_ahead_iff {t : Tally} {post : Int64} (h : (t.scoreOf post).isSome) (other : Int64) :
    other ∈ t.ahead post ↔ t.Above other post := by
  -- The ranking is cut at the post, which stands above all that follow and below all before it.
  obtain ⟨front, behind, hsplit⟩ := List.append_of_mem (mem_ranking_iff.2 h)
  have horder := t.pairwise_ranking
  rw [hsplit] at horder
  obtain ⟨-, hbehind, hfront⟩ := List.pairwise_append.1 horder
  have hnotMem : post ∉ front := fun hmem =>
    Above.irrefl (hfront post hmem post List.mem_cons_self)
  have hahead : t.ahead post = front := by
    rw [ahead, hsplit, List.idxOf_append_of_notMem hnotMem, List.idxOf_cons_self, Nat.add_zero,
      List.take_left]
  rw [hahead]
  constructor
  · exact fun hmem => hfront other hmem post List.mem_cons_self
  · intro habove
    obtain ⟨x, y, hx, -, -⟩ := id habove
    have hmem : other ∈ front ++ post :: behind :=
      hsplit ▸ mem_ranking_iff.2 (hx ▸ rfl)
    rcases List.mem_append.1 hmem with hin | hin
    · exact hin
    · rcases List.mem_cons.1 hin with rfl | hin
      · exact absurd habove Above.irrefl
      · exact absurd habove ((List.pairwise_cons.1 hbehind).1 other hin).asymm

section Moved

variable {t t' : Tally} {post : Int64} {x y : Int64}

/-- A post that is above one whose score has not fallen was above it before. -/
theorem Above.of_raised (same : ∀ other, other ≠ post → t'.scoreOf other = t.scoreOf other)
    (hx : t.scoreOf post = some x) (hy : t'.scoreOf post = some y) (hle : x ≤ y) {other : Int64}
    (h : t'.Above other post) : t.Above other post := by
  have hne : other ≠ post := fun hsame => Above.irrefl (hsame ▸ h)
  obtain ⟨score, y', hscore, hy', horder⟩ := h
  obtain rfl : y = y' := Option.some.inj (hy.symm.trans hy')
  refine ⟨score, x, (same other hne).symm.trans hscore, hx, ?_⟩
  simp only [Int64.lt_iff_toInt_lt, Int64.le_iff_toInt_le, ← Int64.toInt_inj] at horder hle ⊢
  omega

/-- A post whose score has not fallen is not moved down. -/
theorem idxOf_le_of_raised (same : ∀ other, other ≠ post → t'.scoreOf other = t.scoreOf other)
    (hx : t.scoreOf post = some x) (hy : t'.scoreOf post = some y) (hle : x ≤ y) :
    t'.ranking.idxOf post ≤ t.ranking.idxOf post := by
  have hsubset : t'.ahead post ⊆ t.ahead post := fun other hother => by
    rw [mem_ahead_iff (by rw [hy]; rfl)] at hother
    rw [mem_ahead_iff (by rw [hx]; rfl)]
    exact hother.of_raised same hx hy hle
  rw [← length_ahead, ← length_ahead]
  exact (List.subperm_of_subset (t'.nodup_ahead post) hsubset).length_le

end Moved

/-! ## Changes of one score -/

/-- The calls that change the score of a post by a given amount: adjustments, and votes that are
accepted. -/
inductive Adds (t : Tally) (post delta : Int64) : Call → Prop
  /-- The amount is added to the score. -/
  | adjusted : Adds t post delta (.adjustScore post delta)
  /-- A change of a vote that weighs as much is recorded. -/
  | voted {c : Vote.Change} {score : Int64} (hpost : c.post = post) (hdelta : c.delta = delta)
    (h : (t.commitVote c).1 = .committed score) : Adds t post delta (.commitVote c)

/-- How the ranking of a store follows from that before the score of one post was changed. The two
scores are compared as they are, so it does not matter whether a sum has wrapped around. -/
structure Rescored (t : Tally) (post before after : Int64) (t' : Tally) : Prop where
  /-- The post had the one score and has the other. -/
  score : t.scoreOf post = some before ∧ t'.scoreOf post = some after
  /-- All other posts have their scores, and stand in the same order. -/
  beside : t.SameBeside post t'
  /-- A score that has risen does not move its post down. -/
  rises : before ≤ after → t'.ranking.idxOf post ≤ t.ranking.idxOf post
  /-- A score that has fallen does not move its post up. -/
  falls : after ≤ before → t.ranking.idxOf post ≤ t'.ranking.idxOf post

variable {t : Tally} {post score : Int64}

/-- A call that changes the score of a post puts another entry of the post in place. -/
theorem Adds.answer_eq {delta : Int64} {c : Call} (h : t.Adds post delta c) :
    ∃ e : Entry, (t.answer c).2 = t.put post e ∧ e.score = (t.entry post).score + delta := by
  cases h with
  | adjusted => exact ⟨_, rfl, rfl⟩
  | @voted c score hpost hdelta hc =>
    obtain ⟨-, -, hput⟩ := t.of_committed (Prod.ext hc rfl : t.commitVote c = (_, _))
    subst hpost hdelta
    exact ⟨_, hput, rfl⟩

/-- What putting an entry in place does to the ranking, if the post was registered. -/
theorem rescored_put (h : t.scoreOf post = some score) (e : Entry) :
    t.Rescored post score e.score (t.put post e) := by
  have hafter : (t.put post e).scoreOf post = some e.score := by
    rw [scoreOf_put, if_pos rfl]
  have hbeside := t.sameBeside_put post e
  exact ⟨⟨h, hafter⟩, hbeside, idxOf_le_of_raised hbeside.scores h hafter,
    idxOf_le_of_raised (fun other hother => (hbeside.scores other hother).symm) hafter h⟩

/-- **The ranking is the strict order of the registered posts.** In any state of a store it is the
only list of them that falls by score, and by identifier where scores are equal; windows of the
index are parts of it, and it comes out in whatever order the posts are gone through and however
they are sorted. A change of the score of a registered post leaves the order of all others, does not
move the post down if the score has risen, and does not move it up if the score has fallen. -/
theorem strictly_ranked (t : Tally) :
    (∀ listed, t.Lists listed ↔ listed = t.ranking) ∧
    (∀ offset limit : UInt64, t.topByScore offset limit =
      t.ranking.extract offset.toNat (offset.toNat + limit.toNat)) ∧
    (∀ iterated sorted : List (Int64 × Int64), iterated.Perm t.ranked → sorted.Perm iterated →
      sorted.Pairwise (precedes · ·) → ∀ offset limit : UInt64,
      ((sorted.drop offset.toNat).take limit.toNat).map Prod.fst = t.topByScore offset limit) ∧
    ∀ (post score delta : Int64) (c : Call), t.scoreOf post = some score → t.Adds post delta c →
      t.Rescored post score (score + delta) (t.answer c).2 := by
  refine ⟨t.lists_iff, t.topByScore_eq_extract, fun iterated sorted hiterated hsorted horder
    offset limit => ?_, fun post score delta c h hadds => ?_⟩
  · rw [List.map_take, List.map_drop, map_fst_of_sorted (hsorted.trans hiterated) horder,
      topByScore]
  · obtain ⟨e, hput, hscore⟩ := hadds.answer_eq
    rw [entry_score_of_some t post h] at hscore
    rw [hput, ← hscore]
    exact rescored_put h e

/-- Two posts have the same score and one has a negative score. The posts are gone through in
another order than that of the store, and a vote lifts the last post by two. -/
theorem strictly_ranked_four :
    let t := after [.adjustScore 5 (-2), .adjustScore 7 3, .register 6, .adjustScore 8 3,
      .commitVote ⟨5, 10, none, .dislike⟩]
    let sorted : List (Int64 × Int64) := [(8, 3), (7, 3), (6, 0), (5, -3)]
    t.Lists [8, 7, 6, 5] ∧ t.topByScore 1 2 = [7, 6] ∧
    [(6, 0), (8, 3), (5, -3), (7, 3)].Perm t.ranked ∧ sorted.Pairwise (precedes · ·) ∧
    ((sorted.drop 1).take 2).map Prod.fst = t.topByScore 1 2 ∧
    t.Rescored 5 (-3) (-1) (t.answer (.commitVote ⟨5, 10, some .dislike, .like⟩)).2 := by
  intro t sorted
  obtain ⟨hlists, hwindow, hsorted, hmoved⟩ := strictly_ranked t
  have hiterated : [(6, 0), (8, 3), (5, -3), (7, 3)].Perm t.ranked := by decide +kernel
  have hperm : sorted.Perm [(6, 0), (8, 3), (5, -3), (7, 3)] := by decide
  have horder : sorted.Pairwise (precedes · ·) := by decide
  have hranking : [8, 7, 6, 5] = t.ranking := map_fst_of_sorted (hperm.trans hiterated) horder
  have hvoted : t.Adds 5 2 (.commitVote ⟨5, 10, some .dislike, .like⟩) :=
    .voted rfl (by decide) (by decide +kernel : _ = Outcome.committed (-1))
  refine ⟨(hlists _).2 hranking, ?_, hiterated, horder,
    hsorted _ _ hiterated hperm horder 1 2, hmoved 5 (-3) 2 _ (by decide +kernel) hvoted⟩
  rw [hwindow 1 2, ← hranking]
  decide

end Forum.Engagement.Tally
