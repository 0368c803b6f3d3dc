import Mathlib
import Forum.Proofs.Redis.Calls
import Forum.Proofs.Text.Utf8

/-!
# Ties between members

The server lists a sorted set by falling score, and members with the same score by their bytes, the
greater ones first. Members are padded to as many digits as the greatest post has, so among posts
that are not negative this lists the greater post first. A negative post has the sign in front of
its digits, or one digit more than the width, and is read back all the same; only its place among
equal scores is another one.
-/

namespace Forum.Redis

namespace Keyspace

variable {scores : Std.ExtTreeMap String Int}

/-- Whether a member stands before another one: its score is higher, or it is the same and the
bytes of the member are greater. -/
def Before (scores : Std.ExtTreeMap String Int) (m n : String) : Prop :=
  ∃ x y, scores[m]? = some x ∧ scores[n]? = some y ∧
    (y < x ∨ x = y ∧ Utf8.encode n < Utf8.encode m)

/-- The server lists the members of a sorted set, and nothing else. -/
theorem mem_descending_iff {m : String} : m ∈ descending scores ↔ m ∈ scores := by
  rw [descending, ((List.mergeSort_perm _ precedes).map Prod.fst).mem_iff, List.mem_map,
    Std.ExtTreeMap.mem_iff_isSome_getElem?, Option.isSome_iff_exists]
  constructor
  · rintro ⟨⟨m, x⟩, hm, rfl⟩
    exact ⟨x, Std.ExtTreeMap.mem_toList_iff_getElem?_eq_some.1 hm⟩
  · rintro ⟨x, hx⟩
    exact ⟨(m, x), Std.ExtTreeMap.mem_toList_iff_getElem?_eq_some.2 hx, rfl⟩

/-- Every member stands before those that are listed after it. -/
theorem pairwise_descending (scores : Std.ExtTreeMap String Int) :
    (descending scores).Pairwise (Before scores) := by
  have hperm := List.mergeSort_perm scores.toList precedes
  have hdistinct : (scores.toList.mergeSort precedes).Pairwise fun a b => a.1 ≠ b.1 :=
    List.pairwise_map.1 ((hperm.map Prod.fst).nodup_iff.2 (FiniteMap.nodup_keys scores))
  rw [descending, List.pairwise_map]
  have hsorted := FallsTo.pairwise_mergeSort precedes_iff scores.toList
  refine (hsorted.and hdistinct).imp_of_mem fun {a b} ha hb hab => ?_
  have hscore {c} (hc : c ∈ scores.toList.mergeSort precedes) : scores[c.1]? = some c.2 :=
    Std.ExtTreeMap.mem_toList_iff_getElem?_eq_some.1 (hperm.subset hc)
  refine ⟨a.2, b.2, hscore ha, hscore hb, ((precedes_iff a b).1 hab.1).imp_right fun hsame => ?_⟩
  exact ⟨hsame.1, Utf8.encode_lt_encode_iff.2 (lt_of_le_of_ne hsame.2 (Ne.symm hab.2))⟩

end Keyspace

namespace Store

variable {scores : Std.ExtTreeMap String Int}

/-- Whether a post stands before another one: its score is higher, or it is the same and the post is
greater. -/
def Before (scores : Std.ExtTreeMap String Int) (a b : Int64) : Prop :=
  ∃ x y, scores[member a]? = some x ∧ scores[member b]? = some y ∧ (y < x ∨ x = y ∧ b < a)

/-- Posts that are not negative compare the way the bytes of their members do. -/
theorem encode_member_lt_iff {a b : Int64} (ha : 0 ≤ a) (hb : 0 ≤ b) :
    Utf8.encode (member a) < Utf8.encode (member b) ↔ a < b := by
  rw [Utf8.encode_lt_encode_iff, member_lt_member_iff ha hb]

/-- Breaking ties by bytes is breaking them by posts. -/
theorem before_member_iff {a b : Int64} (ha : 0 ≤ a) (hb : 0 ≤ b) :
    Keyspace.Before scores (member a) (member b) ↔ Before scores a b := by
  unfold Keyspace.Before Before
  simp only [encode_member_lt_iff hb ha]

/-- Members that stand for posts are listed as some posts. -/
theorem exists_posts (hm : ∀ m ∈ scores, ∃ post, 0 ≤ post ∧ m = member post) :
    ∃ posts : List Int64, Keyspace.descending scores = posts.map member ∧
      ∀ post ∈ posts, 0 ≤ post := by
  have hlisted : ∀ m ∈ Keyspace.descending scores, ∃ post : Int64, 0 ≤ post ∧ m = member post :=
    fun m h => hm m (Keyspace.mem_descending_iff.1 h)
  choose! post hpost hmember using hlisted
  refine ⟨(Keyspace.descending scores).map post, ?_, ?_⟩
  · rw [List.map_map]
    exact ((List.map_congr_left fun m h => (hmember m h).symm).trans (List.map_id _)).symm
  · intro other h
    obtain ⟨m, hm, rfl⟩ := List.mem_map.1 h
    exact hpost m hm

/-- **Members stand for their posts and keep their order.** The member of any post of 64 bits,
negative ones included, is read back as the post. Of two posts that are not negative the lesser one
has the member that comes first in the order of bytes, so whatever the scores are, breaking ties by
falling bytes of the member is breaking them by falling post. The server does the former with any
sorted set; hence a set whose members stand for posts that are not negative is listed and read as
these posts by falling score, equal scores by falling post. -/
theorem members_keep_order :
    (∀ post : Int64, ofMember? (member post) = some post) ∧
    (∀ a b : Int64, 0 ≤ a → 0 ≤ b →
      (a < b ↔ Utf8.encode (member a) < Utf8.encode (member b)) ∧
      ∀ scores, Keyspace.Before scores (member a) (member b) ↔ Before scores a b) ∧
    ∀ scores : Std.ExtTreeMap String Int,
      (Keyspace.descending scores).Pairwise (Keyspace.Before scores) ∧
      ((∀ m ∈ scores, ∃ post, 0 ≤ post ∧ m = member post) →
        ∃ posts, Keyspace.descending scores = posts.map member ∧
          readMembers (Keyspace.descending scores) = .ok posts ∧
          posts.Pairwise (Before scores)) := by
  refine ⟨ofMember?_member, fun a b ha hb => ⟨(encode_member_lt_iff ha hb).symm, fun scores =>
    before_member_iff ha hb⟩, fun scores => ⟨Keyspace.pairwise_descending scores, fun hm => ?_⟩⟩
  obtain ⟨posts, hposts, hsign⟩ := exists_posts hm
  refine ⟨posts, hposts, by rw [hposts, readMembers_map_member], ?_⟩
  have hpairwise := Keyspace.pairwise_descending scores
  rw [hposts, List.pairwise_map] at hpairwise
  exact hpairwise.imp_of_mem fun ha hb => (before_member_iff (hsign _ ha) (hsign _ hb)).1

/-- Two posts with as many digits after padding, and the set of three posts: of the two with the
same score the greater one is listed first. -/
theorem members_keep_order_of_tie :
    (0 : Int64) ≤ 99 ∧ (0 : Int64) ≤ 1000 ∧
    Utf8.encode (member 99) < Utf8.encode (member 1000) ∧
    (∀ m ∈ Keyspace.podium, ∃ post, 0 ≤ post ∧ m = member post) ∧
    readMembers (Keyspace.descending Keyspace.podium) = .ok [8, 9, 7] ∧
    [8, 9, 7].Pairwise (Before Keyspace.podium) := by
  obtain ⟨-, horder, hlisted⟩ := members_keep_order
  have hsmall : (0 : Int64) ≤ 99 := by decide
  have hlarge : (0 : Int64) ≤ 1000 := by decide
  have hmembers : ∀ m ∈ Keyspace.podium, ∃ post, 0 ≤ post ∧ m = member post := by
    intro m hm
    rw [← Keyspace.mem_descending_iff, Keyspace.descending_podium] at hm
    obtain ⟨post, hpost, rfl⟩ := List.mem_map.1 hm
    have hsign : ∀ post ∈ ([8, 9, 7] : List Int64), 0 ≤ post := by simp
    exact ⟨post, hsign post hpost, rfl⟩
  obtain ⟨posts, hposts, hread, hpairwise⟩ := (hlisted Keyspace.podium).2 hmembers
  obtain rfl : [8, 9, 7] = posts := by
    rw [Keyspace.descending_podium] at hposts
    exact List.map_injective_iff.2 member_injective hposts
  exact ⟨hsmall, hlarge, (horder 99 1000 hsmall hlarge).1.1 (by decide), hmembers, hread, hpairwise⟩

end Store

end Forum.Redis
