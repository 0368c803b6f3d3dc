import Mathlib
import Forum.Proofs.Number.Whole
import Forum.Proofs.Redis.Locality
import Forum.Proofs.Redis.Representation

/-!
# Calls answered by the server

Each call of an engagement store, made of a store whose keys keep a tally. As long as scores stay
within the whole numbers that the server's own numbers hold exactly, the reply of the server is read
as the answer of the tally, and the keys keep what the tally becomes.
-/

namespace Forum.Redis

open Engagement (Tally Entry Call Outcome)

/-- A score that the server's numbers hold exactly. -/
def Exact (score : Int64) : Prop :=
  score.toInt.natAbs ≤ 2 ^ 53

/-- All scores of a tally are such scores. -/
def ExactScores (t : Tally) : Prop :=
  ∀ post score, t.scoreOf post = some score → Exact score

instance (score : Int64) : Decidable (Exact score) :=
  inferInstanceAs (Decidable (_ ≤ _))

instance (t : Tally) : Decidable (ExactScores t) :=
  decidable_of_iff (t.ranked.all fun post => Exact post.2) <| by
    rw [List.all_eq_true]
    constructor
    · intro h post score hs
      exact of_decide_eq_true (h (post, score) (Tally.mem_ranked.2 hs))
    · intro h post hm
      exact decide_eq_true (h post.1 post.2 (Tally.mem_ranked.1 hm))

/-- Sums of two such scores do not wrap. -/
theorem Exact.toInt_add {a b : Int64} (ha : Exact a) (hb : Exact b) :
    (a + b).toInt = a.toInt + b.toInt := by
  unfold Exact at ha hb
  rw [Int64.toInt_add]
  refine Int.bmod_eq_of_le ?_ ?_ <;> omega

/-- A change of a vote moves the score by two at most. -/
theorem exact_delta (c : Vote.Change) : Exact c.delta := by
  obtain ⟨post, user, previous, next⟩ := c
  change Exact (next.value - Vote.weight previous)
  unfold Exact
  rcases previous with _ | _ | _ <;> cases next <;> decide

/-- The entry of a post has such a score, also if the post is not registered. -/
theorem ExactScores.entry {t : Tally} (he : ExactScores t) (post : Int64) :
    Exact (t.entry post).score := by
  rw [Tally.entry_score]
  cases hs : t.scoreOf post with
  | none => exact Nat.zero_le _
  | some score => exact he post score hs

/-- A score that the server reports is read as the score. -/
theorem Exact.wholeScore_eq {score : Int64} (he : Exact score) :
    Store.wholeScore (Binary64.ofInt score.toInt) = score := by
  have hl := score.le_toInt
  have hh := score.toInt_lt
  rw [Store.wholeScore, Binary64.truncateWithin_ofInt he hl (by omega), Int64.ofInt_toInt]

/-- The text of a score is read as its number of the format. -/
theorem Exact.binary64?_text {score : Int64} (he : Exact score) :
    (Reply.bulk (toString score.toInt)).binary64? = some (Binary64.ofInt score.toInt) :=
  Binary64.parse?_toString he

namespace Store

variable {s : Store} {t : Tally} {k : Keyspace} {post : Int64}

/-- The score that the sorted set holds for a post, zero if it holds none. -/
theorem Represents.getD_eq (hr : s.Represents t k) (hp : 0 ≤ post)
    {scores : Std.ExtTreeMap String Int} (hs : k.scores? s.scoresKey = some scores) :
    scores[member post]?.getD 0 = (t.entry post).score.toInt := by
  rw [(hr.getElem?_scores hs).1 post hp, Tally.entry_score]
  cases t.scoreOf post <;> rfl

/-- The reply to a question for a score, read as one. -/
theorem interpret_scoreOf {score : Int64} (he : Exact score) :
    interpret (.bulk (toString score.toInt)) (.scoreOf post) = .ok (some score) := by
  change (orUnreadable ((Reply.bulk (toString score.toInt)).binary64?.map some)).map
    (Option.map wholeScore) = _
  rw [he.binary64?_text]
  exact congrArg (Except.ok ∘ some) he.wholeScore_eq

/-- The reply to an adjustment, read as a score. -/
theorem interpret_adjustScore {score : Int64} (he : Exact score) (delta : Int64) :
    interpret (.bulk (toString score.toInt)) (.adjustScore post delta) = .ok score := by
  change (orUnreadable (Reply.bulk (toString score.toInt)).binary64?).map wholeScore = _
  rw [he.binary64?_text]
  exact congrArg Except.ok he.wholeScore_eq

/-- A whole number of 64 bits is read as itself. -/
theorem int64?_integer (n : Int64) : (Reply.integer n.toInt).int64? = some n := by
  have hl := n.le_toInt
  have hh := n.toInt_lt
  have hw : (Reply.integer n.toInt).wholeWithin? (-2 ^ 63) (2 ^ 63 - 1) = some n.toInt := by
    rw [Reply.wholeWithin?, Reply.single]
    · simp only [Option.filter_some, Bool.and_eq_true, decide_eq_true_eq]
      exact if_pos ⟨hl, by omega⟩
    · exact fun r => Reply.noConfusion
  rw [Reply.int64?, hw, Option.map_some, Int64.ofInt_toInt]

/-- The reply of the script that commits a vote, read as an outcome. -/
theorem interpret_commitVote (score : Int64) (c : Vote.Change) :
    interpret (.array [.integer 1, .integer score.toInt]) (.commitVote c) =
      .ok (.committed score) := by
  have hone : (Reply.integer 1).int64? = some 1 := int64?_integer 1
  have hlist : (Reply.array [.integer 1, .integer score.toInt]).list? Reply.int64? =
      some [1, score] := by
    simp [Reply.list?, hone, int64?_integer]
  change (orUnreadable ((Reply.array [.integer 1, .integer score.toInt]).list? Reply.int64?)).bind
    readOutcome = _
  rw [hlist]
  rfl

/-- A list of texts, read as the posts that these stand for as members. -/
theorem interpret_members (members : List String) (offset limit : UInt64) :
    interpret (.array (members.map .bulk)) (.topByScore offset limit) = readMembers members := by
  have htexts (texts : List String) : (texts.map Reply.bulk).mapM Reply.text? = some texts := by
    induction texts with
    | nil => rfl
    | cons text texts ih => rw [List.map_cons, List.mapM_cons, ih]; rfl
  change (orUnreadable ((members.map Reply.bulk).mapM Reply.text?)).bind readMembers = _
  rw [htexts]
  rfl

/-- Members are read as the posts that they stand for. -/
theorem readMembers_map_member (posts : List Int64) :
    readMembers (posts.map member) = .ok posts := by
  unfold readMembers
  induction posts with
  | nil => rfl
  | cons post posts ih =>
    rw [List.map_cons, List.mapM_cons, ih, ofMember?_member]
    rfl

/-- A count, read as one. -/
theorem interpret_cardinality {n : Nat} (hn : n < 2 ^ 64) :
    interpret (.integer n) .cardinality = .ok n := by
  have hw : (Reply.integer n).wholeWithin? 0 (2 ^ 64 - 1) = some (n : Int) := by
    rw [Reply.wholeWithin?, Reply.single]
    · simp only [Option.filter_some, Bool.and_eq_true, decide_eq_true_eq]
      exact if_pos ⟨Int.natCast_nonneg n, by omega⟩
    · exact fun r => Reply.noConfusion
  change orUnreadable (Reply.integer n).count? = _
  rw [Reply.count?, hw]
  rfl

/-! ## Calls that only read -/

theorem answer_voteOf (hr : s.Represents t k) (hp : 0 ≤ post) (user : Int64) :
    s.answer k (.voteOf post user) = (.ok (t.voteOf post user), k) := by
  obtain ⟨fields, hf, hvotes⟩ := hr.votes post hp
  have hread : interpret (k.hashGet (s.votesKey post) (toString user)) (.voteOf post user) =
      .ok (t.voteOf post user) := by
    rw [Keyspace.hashGet, hf]
    dsimp only
    rw [hvotes]
    cases t.voteOf post user with
    | none => rfl
    | some d => cases d <;> rfl
  exact Prod.ext hread rfl

theorem answer_scoreOf (hr : s.Represents t k) (he : ExactScores t) (hp : 0 ≤ post) :
    s.answer k (.scoreOf post) = (.ok (t.scoreOf post), k) := by
  obtain ⟨scores, hs, hscores, -⟩ := hr.scores
  have hread : interpret (k.sortedScore s.scoresKey (member post)) (.scoreOf post) =
      .ok (t.scoreOf post) := by
    rw [Keyspace.sortedScore, hs]
    dsimp only
    rw [hscores post hp]
    cases hscore : t.scoreOf post with
    | none => rfl
    | some score => exact interpret_scoreOf (he post score hscore)
  exact Prod.ext hread rfl

theorem answer_cardinality (hr : s.Represents t k) (hc : t.cardinality < 2 ^ 63) :
    s.answer k .cardinality = (.ok t.cardinality, k) := by
  obtain ⟨scores, hs, -⟩ := hr.scores
  have hread : interpret (k.sortedCount s.scoresKey) .cardinality = .ok t.cardinality := by
    rw [Keyspace.sortedCount, hs]
    dsimp only
    rw [hr.size_eq hs]
    exact interpret_cardinality (by omega)
  exact Prod.ext hread rfl

/-- The members at the places of a window, read as posts, whatever the sorted set holds. -/
theorem answer_window (s : Store) {scores : Std.ExtTreeMap String Int}
    (hs : k.scores? s.scoresKey = some scores) (hl : scores.size < 2 ^ 63)
    (offset limit : UInt64) :
    s.answer k (.topByScore offset limit) =
      (readMembers (((Keyspace.descending scores).drop offset.toNat).take limit.toNat), k) := by
  by_cases hn : limit = 0
  · subst hn
    rw [UInt64.toNat_zero, List.take_zero]
    rfl
  have hlength : (Keyspace.descending scores).length < 2 ^ 63 := by
    rwa [Keyspace.descending, List.length_map, List.length_mergeSort,
      Std.ExtTreeMap.length_toList]
  have hread : interpret (k.sortedRange s.scoresKey (range offset limit).1 (range offset limit).2)
      (.topByScore offset limit) =
        readMembers (((Keyspace.descending scores).drop offset.toNat).take limit.toNat) := by
    rw [Keyspace.sortedRange, hs]
    dsimp only
    rw [between_range hlength hn, interpret_members]
  have hcommand : s.command? (.topByScore offset limit) =
      some (.sortedRange s.scoresKey (range offset limit).1 (range offset limit).2) := if_neg hn
  unfold answer
  rw [hcommand]
  exact Prod.ext hread rfl

theorem answer_topByScore (hr : s.Represents t k) (hc : t.cardinality < 2 ^ 63)
    (offset limit : UInt64) :
    s.answer k (.topByScore offset limit) = (.ok (t.topByScore offset limit), k) := by
  obtain ⟨scores, hs, -⟩ := hr.scores
  have hl : scores.size < 2 ^ 63 := by rwa [hr.size_eq hs]
  rw [answer_window s hs hl, descending_eq hr.ranked_nonneg (hr.toList_perm hs), ← List.map_drop,
    ← List.map_take, readMembers_map_member, Tally.topByScore]

/-! ## Calls that write -/

/-- Writing the key of the scores leaves all votes alone. -/
theorem fields?_votesKey_put_scores (post : Int64) (v : Value) :
    (k.put s.scoresKey v).fields? (s.votesKey post) = k.fields? (s.votesKey post) :=
  Keyspace.fields?_put_of_ne _ _ _ _ (s.votesKey_ne_scoresKey post s)

/-- A score written for a post whose votes stay as they are. -/
theorem Represents.put_score (hr : s.Represents t k) (hp : 0 ≤ post)
    {scores : Std.ExtTreeMap String Int} (hs : k.scores? s.scoresKey = some scores) {e : Entry}
    (hv : e.votes = (t.entry post).votes) :
    s.Represents (t.put post e)
      (k.put s.scoresKey (.sortedSet (scores.insert (member post) e.score.toInt))) := by
  refine hr.put hp hs ?_ (fun other _ => fields?_votesKey_put_scores other _)
    (Keyspace.scores?_put_sortedSet _ _ _)
  obtain ⟨fields, hf, hvotes⟩ := hr.votes post hp
  refine ⟨fields, (fields?_votesKey_put_scores post _).trans hf, fun user => ?_⟩
  rw [hvotes, Tally.voteOf_eq_entry, hv]

theorem answer_register (hr : s.Represents t k) (hp : 0 ≤ post) :
    (s.answer k (.register post)).1 = .ok (t.register post).1 ∧
      s.Represents (t.register post).2 (s.answer k (.register post)).2 := by
  obtain ⟨scores, hs, hscores, -⟩ := hr.scores
  have hmem : member post ∈ scores ↔ post ∈ t.entries := by
    rw [Std.ExtTreeMap.mem_iff_isSome_getElem?, hscores post hp, Option.isSome_map,
      Tally.isSome_scoreOf_iff]
  change interpret (k.sortedAdd s.scoresKey (member post)).1 (.register post) = _ ∧
    s.Represents _ (k.sortedAdd s.scoresKey (member post)).2
  rw [Keyspace.sortedAdd, hs, Tally.register]
  dsimp only
  by_cases hknown : post ∈ t.entries
  · rw [if_pos hknown, if_pos (hmem.2 hknown)]
    exact ⟨rfl, hr⟩
  · rw [if_neg hknown, if_neg fun h => hknown (hmem.1 h)]
    have hnone : t.scoreOf post = none := by
      rw [← Option.not_isSome_iff_eq_none, Tally.isSome_scoreOf_iff]
      exact hknown
    refine ⟨rfl, hr.put_score hp hs ?_⟩
    rw [Tally.entry_of_none t post hnone]

theorem answer_adjustScore (hr : s.Represents t k) (he : ExactScores t) (hp : 0 ≤ post)
    {delta : Int64} (hd : Exact delta) (he' : Exact (t.adjustScore post delta).1) :
    (s.answer k (.adjustScore post delta)).1 = .ok (t.adjustScore post delta).1 ∧
      s.Represents (t.adjustScore post delta).2 (s.answer k (.adjustScore post delta)).2 := by
  obtain ⟨scores, hs, -⟩ := hr.scores
  have hsum := (he.entry post).toInt_add hd
  have hsent : Numeral.integer? (Binary64.ofInt delta.toInt).text.toList = some delta.toInt := by
    rw [Binary64.text_ofInt hd, Numeral.integer?_toString]
  change interpret (k.sortedIncrement s.scoresKey _ (member post)).1 (.adjustScore post delta) = _ ∧
    s.Represents _ (k.sortedIncrement s.scoresKey _ (member post)).2
  rw [Keyspace.sortedIncrement, hsent, hs]
  dsimp only
  rw [hr.getD_eq hp hs, ← hsum]
  exact ⟨interpret_adjustScore he' delta, hr.put_score hp hs rfl⟩

/-- A vote and a score written for one post. -/
theorem Represents.record (hr : s.Represents t k) {c : Vote.Change} (hp : 0 ≤ c.post)
    {fields : Std.ExtTreeMap String String} (hf : k.fields? (s.votesKey c.post) = some fields)
    {scores : Std.ExtTreeMap String Int} (hs : k.scores? s.scoresKey = some scores) :
    s.Represents (t.put c.post ((t.entry c.post).record c))
      ((k.put (s.votesKey c.post) (.hash (fields.insert (toString c.user) c.next.stored))).put
        s.scoresKey (.sortedSet (scores.insert (member c.post)
          ((t.entry c.post).score + c.delta).toInt))) := by
  refine hr.put hp hs ?_ (fun other ho => ?_) (Keyspace.scores?_put_sortedSet _ _ _)
  · obtain ⟨fields', hf', hvotes⟩ := hr.votes c.post hp
    obtain rfl : fields = fields' := Option.some.inj (hf.symm.trans hf')
    refine ⟨_, (fields?_votesKey_put_scores c.post _).trans (Keyspace.fields?_put_hash _ _ _), ?_⟩
    intro user
    simp only [FiniteMap.getElem?_insert, Entry.record, Numeral.toString_int64_injective.eq_iff,
      hvotes, Tally.voteOf_eq_entry]
    split <;> rfl
  · rw [fields?_votesKey_put_scores,
      Keyspace.fields?_put_of_ne _ _ _ _ (s.votesKey_injective.ne ho)]

theorem answer_commitVote (hr : s.Represents t k) (he : ExactScores t) {c : Vote.Change}
    (hp : 0 ≤ c.post) (hv : t.voteOf c.post c.user = c.previous) :
    (s.answer k (.commitVote c)).1 = .ok (t.commitVote c).1 ∧
      s.Represents (t.commitVote c).2 (s.answer k (.commitVote c)).2 := by
  obtain ⟨fields, hf, hvotes⟩ := hr.votes c.post hp
  obtain ⟨scores, hs, -⟩ := hr.scores
  have hexpected : fields[toString c.user]?.getD "" = storedVote c.previous := by
    rw [hvotes, hv]
    cases c.previous <;> rfl
  have hsent : Numeral.integer? (toString c.delta).toList = some c.delta.toInt :=
    Numeral.integer?_toString c.delta.toInt
  have hsum := (he.entry c.post).toInt_add (exact_delta c)
  have hrun := Keyspace.commitVote_of_expected hf hs (s.votesKey_ne_scoresKey c.post s).symm
    hexpected hsent c.next.stored (member c.post)
  rw [hr.getD_eq hp hs, ← hsum] at hrun
  rw [Tally.commitVote_of_eq t hv]
  change interpret (k.commitVote _ _ _ _ _ _ _).1 (.commitVote c) = _ ∧
    s.Represents _ (k.commitVote _ _ _ _ _ _ _).2
  rw [hrun]
  exact ⟨interpret_commitVote _ c, hr.record hp hf hs⟩

theorem answer_remove (hr : s.Represents t k) (post : Int64) :
    (s.answer k (.remove post)).1 = .ok () ∧
      s.Represents (t.remove post) (s.answer k (.remove post)).2 := by
  obtain ⟨scores, hs, -⟩ := hr.scores
  have hkey (post : Int64) := s.votesKey_ne_scoresKey post s
  have hs' : (k.erase (s.votesKey post)).scores? s.scoresKey = some scores := by
    rw [Keyspace.scores?_erase_of_ne _ _ _ (hkey post).symm, hs]
  obtain ⟨removed, hreply, hscores⟩ := Keyspace.sortedRemove_of_scores? hs' (member post)
  have hlocal := Keyspace.local_sortedRemove (Set.mem_singleton s.scoresKey) (member post)
  have hfields (other : Int64) := Keyspace.fields?_congr
    (hlocal.frame (k.erase (s.votesKey post)) (s.votesKey other) (hkey other))
  change interpret (k.removePost _ _ _).1 (.remove post) = _ ∧ s.Represents _ (k.removePost _ _ _).2
  rw [Keyspace.removePost_eq, hreply]
  refine ⟨rfl, hr.remove hs ?_ (fun other ho => ?_) hscores⟩
  · rw [hfields, Keyspace.fields?_erase_self]
  · rw [hfields, Keyspace.fields?_erase_of_ne _ _ _ (s.votesKey_injective.ne ho)]

end Store

end Forum.Redis
