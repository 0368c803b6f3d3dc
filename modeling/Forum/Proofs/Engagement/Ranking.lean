import Mathlib
import Forum.Engagement.Tally
import Forum.Proofs.FiniteMap

/-!
# The ranked posts

The list that the ranking sorts: every registered post once, with its score. The ranking is another
order of its posts, in which each one stands above all that follow it. The order itself is stated
for pairs of any kind, because more than one store keeps it.
-/

namespace Forum

/-! ## Falling pairs -/

section falling

variable {α β : Type} [LE α] [LE β] [LT β]

/-- Whether a pair comes before another one in falling order: by the second part, and by the first
one where that is equal. -/
def FallsTo (a b : α × β) : Prop :=
  b.2 < a.2 ∨ a.2 = b.2 ∧ b.1 ≤ a.1

variable [Std.IsLinearOrder α] [Std.LawfulOrderLT β] {a b c : α × β}

theorem FallsTo.antisymm (hab : FallsTo a b) (hba : FallsTo b a) : a = b := by
  rcases hab with hab | ⟨hsame, hab⟩ <;> rcases hba with hba | ⟨hsame', hba⟩
  · exact absurd hba (Std.not_gt_of_lt hab)
  · exact absurd (hsame' ▸ hab) Std.lt_irrefl
  · exact absurd (hsame ▸ hba) Std.lt_irrefl
  · exact Prod.ext (Std.le_antisymm hba hab) hsame

variable [Std.IsLinearOrder β]

theorem FallsTo.trans (hab : FallsTo a b) (hbc : FallsTo b c) : FallsTo a c := by
  rcases hab with hab | ⟨hab, hab'⟩ <;> rcases hbc with hbc | ⟨hbc, hbc'⟩
  · exact .inl (Std.lt_trans hbc hab)
  · exact .inl (hbc ▸ hab)
  · exact .inl (hab ▸ hbc)
  · exact .inr ⟨hab.trans hbc, Std.le_trans hbc' hab'⟩

theorem FallsTo.total (a b : α × β) : FallsTo a b ∨ FallsTo b a := by
  rcases Std.lt_trichotomy a.2 b.2 with hlt | heq | hgt
  · exact .inr (.inl hlt)
  · rcases Std.le_total (a := a.1) (b := b.1) with hle | hge
    · exact .inr (.inr ⟨heq.symm, hle⟩)
    · exact .inl (.inr ⟨heq, hge⟩)
  · exact .inl (.inl hgt)

variable {before : α × β → α × β → Bool}

/-- Sorting puts pairs in falling order. -/
theorem FallsTo.pairwise_mergeSort (h : ∀ a b, before a b ↔ FallsTo a b) (l : List (α × β)) :
    (l.mergeSort before).Pairwise (before · ·) := by
  refine List.pairwise_mergeSort (fun a b c hab hbc => ?_) (fun a b => ?_) l
  · exact (h a c).2 (((h a b).1 hab).trans ((h b c).1 hbc))
  · exact Bool.or_eq_true_iff.2 ((FallsTo.total a b).imp (h a b).2 (h b a).2)

/-- However pairs are listed, sorting them gives the one list of them that is in order. -/
theorem FallsTo.mergeSort_eq (h : ∀ a b, before a b ↔ FallsTo a b) {l sorted : List (α × β)}
    (perm : l.Perm sorted) (order : sorted.Pairwise (before · ·)) :
    l.mergeSort before = sorted := by
  refine List.Perm.eq_of_pairwise
    (fun a b _ _ hab hba => FallsTo.antisymm ((h a b).1 hab) ((h b a).1 hba))
    (FallsTo.pairwise_mergeSort h l) order ?_
  exact (List.mergeSort_perm l before).trans perm

end falling

end Forum

namespace Forum.Engagement.Tally

/-- The registered posts with their scores. -/
def ranked (t : Tally) : List (Int64 × Int64) :=
  t.entries.toList.map fun (post, e) => (post, e.score)

theorem ranking_eq (t : Tally) : t.ranking = (t.ranked.mergeSort precedes).map Prod.fst :=
  rfl

/-- The ranked posts are those that have a score. -/
theorem mem_ranked {t : Tally} {post score : Int64} :
    (post, score) ∈ t.ranked ↔ t.scoreOf post = some score := by
  rw [ranked, List.mem_map, scoreOf, Option.map_eq_some_iff]
  constructor
  · rintro ⟨⟨other, e⟩, hm, he⟩
    obtain ⟨rfl, rfl⟩ := Prod.mk.inj he
    exact ⟨e, Std.ExtTreeMap.mem_toList_iff_getElem?_eq_some.1 hm, rfl⟩
  · rintro ⟨e, he, rfl⟩
    exact ⟨(post, e), Std.ExtTreeMap.mem_toList_iff_getElem?_eq_some.2 he, rfl⟩

/-- No post is ranked twice. -/
theorem nodup_ranked (t : Tally) : t.ranked.Nodup := by
  refine List.Nodup.of_map Prod.fst ?_
  rw [ranked, List.map_map]
  exact FiniteMap.nodup_keys t.entries

theorem length_ranked (t : Tally) : t.ranked.length = t.cardinality := by
  rw [ranked, List.length_map, Std.ExtTreeMap.length_toList, cardinality]

/-- The ranking has the ranked posts in another order. -/
theorem ranking_perm (t : Tally) : t.ranking.Perm (t.ranked.map Prod.fst) := by
  rw [ranking_eq]
  exact (List.mergeSort_perm _ _).map Prod.fst

/-- The ranking has the registered posts and no other. -/
theorem mem_ranking_iff {t : Tally} {post : Int64} :
    post ∈ t.ranking ↔ (t.scoreOf post).isSome := by
  rw [t.ranking_perm.mem_iff, List.mem_map, Option.isSome_iff_exists]
  constructor
  · rintro ⟨⟨other, score⟩, hm, rfl⟩
    exact ⟨score, mem_ranked.1 hm⟩
  · rintro ⟨score, hs⟩
    exact ⟨(post, score), mem_ranked.2 hs, rfl⟩

/-- No post is in the ranking twice. -/
theorem nodup_ranking (t : Tally) : t.ranking.Nodup := by
  rw [t.ranking_perm.nodup_iff, ranked, List.map_map]
  exact FiniteMap.nodup_keys t.entries

/-! ## The order -/

/-- Whether a registered post stands above another one: its score is higher, or it is the same and
the identifier is greater. -/
def Above (t : Tally) (a b : Int64) : Prop :=
  ∃ x y, t.scoreOf a = some x ∧ t.scoreOf b = some y ∧ (y < x ∨ x = y ∧ b < a)

theorem precedes_iff (a b : Int64 × Int64) : precedes a b ↔ FallsTo a b := by
  simp [precedes, FallsTo]

/-- The ranked posts are in order once they are sorted. -/
theorem pairwise_sorted (t : Tally) :
    (t.ranked.mergeSort precedes).Pairwise (precedes · ·) :=
  FallsTo.pairwise_mergeSort precedes_iff t.ranked

/-- Every post of the ranking stands above those that follow it. -/
theorem pairwise_ranking (t : Tally) : t.ranking.Pairwise t.Above := by
  have hperm : (t.ranked.mergeSort precedes).Perm t.ranked := List.mergeSort_perm _ _
  have hdistinct : (t.ranked.mergeSort precedes).Pairwise fun a b => a.1 ≠ b.1 :=
    List.pairwise_map.1 (t.ranking_eq ▸ t.nodup_ranking)
  rw [t.ranking_eq, List.pairwise_map]
  refine (t.pairwise_sorted.and hdistinct).imp_of_mem fun {a b} ha hb hab => ?_
  have hscore : ∀ {c}, c ∈ t.ranked.mergeSort precedes → t.scoreOf c.1 = some c.2 := fun hc =>
    mem_ranked.1 (hperm.subset hc)
  refine ⟨a.2, b.2, hscore ha, hscore hb, ((precedes_iff a b).1 hab.1).imp_right fun hsame => ?_⟩
  exact ⟨hsame.1, Int64.lt_of_le_of_ne hsame.2 (Ne.symm hab.2)⟩

/-- Two posts do not stand above each other. -/
theorem Above.asymm {t : Tally} {a b : Int64} (hab : t.Above a b) : ¬ t.Above b a := by
  rintro ⟨y, x, hy, hx, hba⟩
  obtain ⟨x', y', hx', hy', hab⟩ := hab
  obtain rfl : x = x' := Option.some.inj (hx.symm.trans hx')
  obtain rfl : y = y' := Option.some.inj (hy.symm.trans hy')
  rcases hab with hlt | ⟨rfl, hlt⟩ <;> rcases hba with hgt | ⟨hsame, hgt⟩
  · exact Int64.lt_asymm hlt hgt
  · exact Int64.lt_irrefl (hsame ▸ hlt)
  · exact Int64.lt_irrefl hgt
  · exact Int64.lt_asymm hlt hgt

/-- Posts that have the same scores in two stores stand in the same order in both rankings. -/
theorem filter_ranking_eq {t t' : Tally} {p : Int64 → Bool}
    (same : ∀ post, p post → t'.scoreOf post = t.scoreOf post) :
    t'.ranking.filter p = t.ranking.filter p := by
  have hsorted : (t'.ranking.filter p).Pairwise t.Above := by
    refine (t'.pairwise_ranking.filter p).imp_of_mem fun {a b} ha hb hab => ?_
    obtain ⟨x, y, hx, hy, horder⟩ := hab
    rw [same a (List.mem_filter.1 ha).2] at hx
    rw [same b (List.mem_filter.1 hb).2] at hy
    exact ⟨x, y, hx, hy, horder⟩
  refine List.Perm.eq_of_pairwise (fun a b _ _ hab hba => absurd hba hab.asymm) hsorted
    (t.pairwise_ranking.filter p) ?_
  rw [List.perm_ext_iff_of_nodup (t'.nodup_ranking.filter p) (t.nodup_ranking.filter p)]
  intro post
  rw [List.mem_filter, List.mem_filter, mem_ranking_iff, mem_ranking_iff]
  exact and_congr_left fun hp => by rw [same post hp]

end Forum.Engagement.Tally
