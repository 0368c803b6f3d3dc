import Mathlib
import Forum.Proofs.FiniteMap
import Forum.Proofs.Text.Numeral
import Forum.Redis.Keyspace
import Forum.Redis.Store
import Forum.Text.Scan

/-!
# Keys and what they hold

The names that stores use on the server, which no two of them share, and what a key holds after it
was given a value or taken away.
-/

/-! ## Keys and members

The names that stores use on the server. Behind its last colon a key has the number of a post, or
the word for the scores, and before it the prefix and what kind of key it is. So whatever the
prefixes are, and even if they look like keys themselves, keys are the same only for one prefix and
one purpose: every post of a store has a key of its own for its votes, none of these is the key of
the scores, and no key belongs to two stores. Every post also has a member of its own. Members of
posts that are not negative come in the order of the posts. -/

namespace Forum.Redis.Store

theorem toList_votesKey (s : Store) (post : Int64) : (s.votesKey post).toList =
    (s.keyspace.toList ++ [':', 'v', 'o', 't', 'e', 's']) ++ ':' :: (toString post).toList := by
  have hword : (toString ":votes:").toList = [':', 'v', 'o', 't', 'e', 's', ':'] := rfl
  simp only [votesKey, String.toList_append, hword, List.append_assoc]
  rfl

theorem toList_scoresKey (s : Store) :
    s.scoresKey.toList = s.keyspace.toList ++ ':' :: ['s', 'c', 'o', 'r', 'e', 's'] := by
  have hword : (toString ":scores").toList = [':', 's', 'c', 'o', 'r', 'e', 's'] := rfl
  rw [scoresKey, String.toList_append, hword]
  rfl

/-- There is no colon in the number of a post. -/
theorem colon_notMem_toString (post : Int64) : ':' ∉ (toString post).toList := fun h => by
  rcases Numeral.eq_minus_or_isDigit_of_mem_toString h with hsign | hdigit
  · exact absurd hsign (by decide)
  · exact absurd hdigit (by decide)

/-- Keys of votes are the same only for one store and one post. -/
theorem votesKey_eq_iff {s s' : Store} {a b : Int64} :
    s.votesKey a = s'.votesKey b ↔ s = s' ∧ a = b := by
  refine ⟨fun hk => ?_, fun ⟨hs, hp⟩ => by rw [hs, hp]⟩
  have hlists := congrArg String.toList hk
  rw [toList_votesKey, toList_votesKey] at hlists
  obtain ⟨hbefore, hafter⟩ := Split.eq_of_append_cons_eq (colon_notMem_toString a)
    (colon_notMem_toString b) hlists
  have hkeyspace : s.keyspace = s'.keyspace :=
    String.toList_injective (List.append_cancel_right hbefore)
  cases s
  cases s'
  exact ⟨congrArg Store.mk hkeyspace,
    Numeral.toString_int64_injective (String.toList_injective hafter)⟩

theorem votesKey_injective (s : Store) : Function.Injective s.votesKey := fun _ _ hab =>
  (votesKey_eq_iff.1 hab).2

/-- Keys of scores are the same only for one store. -/
theorem scoresKey_eq_iff {s s' : Store} : s.scoresKey = s'.scoresKey ↔ s = s' := by
  refine ⟨fun hk => ?_, fun hs => by rw [hs]⟩
  have hlists := congrArg String.toList hk
  rw [toList_scoresKey, toList_scoresKey] at hlists
  have hkeyspace : s.keyspace = s'.keyspace :=
    String.toList_injective (List.append_cancel_right hlists)
  cases s
  cases s'
  exact congrArg Store.mk hkeyspace

/-- No number of a post is the word for the scores. -/
theorem votesKey_ne_scoresKey (s : Store) (post : Int64) (s' : Store) :
    s.votesKey post ≠ s'.scoresKey := by
  intro hk
  have hlists := congrArg String.toList hk
  rw [toList_votesKey, toList_scoresKey] at hlists
  have hafter := (Split.eq_of_append_cons_eq (colon_notMem_toString post) (by decide) hlists).2
  have hletter : 's' ∈ (toString post).toList := hafter ▸ List.mem_cons_self
  rcases Numeral.eq_minus_or_isDigit_of_mem_toString hletter with hsign | hdigit
  · exact absurd hsign (by decide)
  · exact absurd hdigit (by decide)

/-- A member stands for its post. -/
theorem ofMember?_member (post : Int64) : ofMember? (member post) = some post := by
  rw [ofMember?, member, String.toList_ofList, Numeral.int64?, Numeral.integer?_padded,
    Option.bind_some, Numeral.fitting?_toInt]

theorem member_injective : Function.Injective member := by
  intro a b hab
  have hread := congrArg ofMember? hab
  rwa [ofMember?_member, ofMember?_member, Option.some.injEq] at hread

/-- The server breaks ties between members the way the posts compare. -/
theorem member_lt_member_iff {a b : Int64} (ha : 0 ≤ a) (hb : 0 ≤ b) :
    member a < member b ↔ a < b := by
  have hpost {post : Int64} (hp : 0 ≤ post) : 0 ≤ post.toInt ∧ post.toInt < 10 ^ 19 := by
    have hlt := post.toInt_lt
    exact ⟨Int64.le_iff_toInt_le.1 hp, hlt.trans (by decide)⟩
  rw [String.lt_iff, member, member, String.toList_ofList, String.toList_ofList,
    Numeral.padded_lt_padded_iff (by decide) (hpost ha).1 (hpost hb).1 (hpost ha).2 (hpost hb).2,
    Int64.lt_iff_toInt_lt]

end Forum.Redis.Store

/-! ## Keys in and out

What a hash or a sorted set is after a key was given a value or taken away, what taking a member
out of a sorted set leaves, and what is written when a vote is recorded together with its score. -/

namespace Forum.Redis.Keyspace

variable (k : Keyspace) (key other : String)

theorem values_put (v : Value) :
    (k.put key v).values[other]? = if other = key then some v else k.values[other]? :=
  FiniteMap.getElem?_insert k.values key other v

theorem values_erase :
    (k.erase key).values[other]? = if other = key then none else k.values[other]? :=
  FiniteMap.getElem?_erase k.values key other

/-! ### Hashes -/

/-- Only the value of the key itself matters. -/
theorem fields?_congr {k k' : Keyspace} {key : String} (h : k'.values[key]? = k.values[key]?) :
    k'.fields? key = k.fields? key := by
  rw [fields?, h, fields?]

theorem fields?_put_hash (fields : Std.ExtTreeMap String String) :
    (k.put key (.hash fields)).fields? key = some fields := by
  rw [fields?, values_put, if_pos rfl]

theorem fields?_put_of_ne (v : Value) (h : other ≠ key) :
    (k.put key v).fields? other = k.fields? other := by
  rw [fields?, values_put, if_neg h, fields?]

theorem fields?_erase_self : (k.erase key).fields? key = some ∅ := by
  rw [fields?, values_erase, if_pos rfl]

theorem fields?_erase_of_ne (h : other ≠ key) : (k.erase key).fields? other = k.fields? other := by
  rw [fields?, values_erase, if_neg h, fields?]

/-! ### Sorted sets -/

theorem scores?_congr {k k' : Keyspace} {key : String} (h : k'.values[key]? = k.values[key]?) :
    k'.scores? key = k.scores? key := by
  rw [scores?, h, scores?]

theorem scores?_put_sortedSet (scores : Std.ExtTreeMap String Int) :
    (k.put key (.sortedSet scores)).scores? key = some scores := by
  rw [scores?, values_put, if_pos rfl]

theorem scores?_put_of_ne (v : Value) (h : other ≠ key) :
    (k.put key v).scores? other = k.scores? other := by
  rw [scores?, values_put, if_neg h, scores?]

theorem scores?_erase_self : (k.erase key).scores? key = some ∅ := by
  rw [scores?, values_erase, if_pos rfl]

theorem scores?_erase_of_ne (h : other ≠ key) : (k.erase key).scores? other = k.scores? other := by
  rw [scores?, values_erase, if_neg h, scores?]

variable {k key} {scores : Std.ExtTreeMap String Int}

/-- Taking a member out succeeds whether it is there or not. -/
theorem sortedRemove_of_scores? (hs : k.scores? key = some scores) (member : String) :
    ∃ removed, (k.sortedRemove key member).1 = .integer removed ∧
      (k.sortedRemove key member).2.scores? key = some (scores.erase member) := by
  simp only [sortedRemove, hs]
  split
  case isTrue hm =>
    refine ⟨1, rfl, ?_⟩
    split
    case isTrue hempty =>
      have hnone : scores.erase member = ∅ := Std.ExtTreeMap.isEmpty_iff.1 hempty
      rw [scores?_erase_self, hnone]
    case isFalse => rw [scores?_put_sortedSet]
  case isFalse hm =>
    have hnone : scores[member]? = none := Std.ExtTreeMap.getElem?_eq_none hm
    exact ⟨0, rfl, by rw [hs, FiniteMap.erase_of_none hnone]⟩

/-- Adding to a score by a number succeeds if the key holds scores. -/
theorem sortedIncrement_of_scores? (hs : k.scores? key = some scores) {delta : String} {n : Int}
    (number : Numeral.integer? delta.toList = some n) (member : String) :
    k.sortedIncrement key delta member =
      (.bulk (toString (scores[member]?.getD 0 + n)),
        k.put key (.sortedSet (scores.insert member (scores[member]?.getD 0 + n)))) := by
  rw [sortedIncrement, number, hs]

/-! ### Votes and scores -/

/-- A vote that was expected is replaced, and the score moves by the number that is given. -/
theorem commitVote_of_expected {votes user expected delta : String}
    {fields : Std.ExtTreeMap String String} {n : Int} (hf : k.fields? votes = some fields)
    (hs : k.scores? key = some scores) (hne : key ≠ votes)
    (expects : fields[user]?.getD "" = expected)
    (number : Numeral.integer? delta.toList = some n) (next post : String) :
    k.commitVote votes key user expected next delta post =
      (.array [.integer 1, .integer (scores[post]?.getD 0 + n)],
        (k.put votes (.hash (fields.insert user next))).put key
          (.sortedSet (scores.insert post (scores[post]?.getD 0 + n)))) := by
  have hs' (v : Value) : (k.put votes v).scores? key = some scores := by
    rw [scores?_put_of_ne _ _ _ _ hne, hs]
  rw [commitVote, hf]
  dsimp only
  rw [if_neg (not_not_intro expects), hs, if_neg (by simp),
    sortedIncrement_of_scores? (hs' _) number]
  dsimp only
  rw [Numeral.integer?_toString, Option.getD_some]

end Forum.Redis.Keyspace
