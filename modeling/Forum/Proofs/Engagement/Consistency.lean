import Mathlib
import Forum.Proofs.Engagement.Ranking
import Forum.Proofs.Engagement.Tally

/-!
# Scores are the votes

The score of a post is the sum of its votes, and so the difference of two counts. A change of a vote
that is refused moves neither, and leaves at most an entry without votes behind.
-/

/-! ## Scores and votes agree

The score of a post and the votes on it are two fields that every call changes by hand. Along any
run of calls they agree: the score is the sum of the recorded votes and of what was added to it
since the post was last removed. Sums are sums of 64-bit numbers and wrap around like the scores. -/

namespace Forum.Engagement

/-- What the recorded votes on a post add up to. -/
def Entry.balance (e : Entry) : Int64 :=
  (e.votes.toList.map fun vote => vote.2.value).sum

/-- A post without votes has the balance zero. -/
theorem Entry.balance_empty : ({} : Entry).balance = 0 := by
  rw [balance, Std.ExtTreeMap.toList_eq_nil_iff.mpr rfl, List.map_nil, List.sum_nil]

/-- The balance of votes among which one is drawn to the front. -/
private theorem sum_of_perm {votes rest : List (Int64 × Direction)} {vote : Int64 × Direction}
    (h : votes.Perm (vote :: rest)) :
    (votes.map fun v => v.2.value).sum = vote.2.value + (rest.map fun v => v.2.value).sum := by
  rw [← List.sum_cons, ← List.map_cons (f := fun v : Int64 × Direction => v.2.value)]
  exact (h.map _).foldr_op_eq

/-- Recording a change of the recorded vote moves the balance by the delta of the change. -/
theorem Entry.balance_record (e : Entry) {c : Vote.Change} (h : e.votes[c.user]? = c.previous) :
    (e.record c).balance = e.balance + c.delta := by
  have hn : (e.record c).balance =
      c.next.value + ((e.votes.erase c.user).toList.map fun v => v.2.value).sum :=
    sum_of_perm (FiniteMap.toList_insert_perm _ _ _)
  rw [hn, balance, Vote.Change.delta]
  cases hp : c.previous with
  | none =>
    rw [FiniteMap.erase_of_none (h.trans hp), Vote.weight]
    grind
  | some d =>
    rw [sum_of_perm (FiniteMap.toList_perm_cons_erase (h.trans hp)), Vote.weight]
    grind

namespace Tally

/-- The store after calls made one after another, with no post at first. -/
def after (calls : List Call) : Tally :=
  calls.foldl (fun t c => (t.answer c).2) empty

/-- The calls after the last removal of a post. -/
def sinceRemoval (post : Int64) (calls : List Call) : List Call :=
  calls.rtakeWhile fun c => c ≠ .remove post

/-- What a call adds to the score of a post by adjusting it. -/
def adjustment (post : Int64) : Call → Option Int64
  | .adjustScore other delta => if other = post then some delta else none
  | _ => none

/-- The sum of the adjustments of a post since it was last removed. The first of the calls since
then that enters the post begins its current registration, so no adjustment comes before that. -/
def adjustments (post : Int64) (calls : List Call) : Int64 :=
  ((sinceRemoval post calls).filterMap (adjustment post)).sum

/-- One more call after a run. -/
theorem after_concat (calls : List Call) (c : Call) :
    after (calls ++ [c]) = ((after calls).answer c).2 := by
  rw [after, List.foldl_append]
  rfl

/-- A removal leaves no calls since the last removal. -/
theorem sinceRemoval_remove (post : Int64) (calls : List Call) :
    sinceRemoval post (calls ++ [.remove post]) = [] := by
  rw [sinceRemoval, List.rtakeWhile_concat_neg]
  simp

/-- Any other call is one more since the last removal. -/
theorem sinceRemoval_concat {post : Int64} (calls : List Call) {c : Call} (h : c ≠ .remove post) :
    sinceRemoval post (calls ++ [c]) = sinceRemoval post calls ++ [c] := by
  rw [sinceRemoval, List.rtakeWhile_concat_pos]
  · rfl
  · simpa using h

/-- A removal ends all adjustments. -/
theorem adjustments_remove (post : Int64) (calls : List Call) :
    adjustments post (calls ++ [.remove post]) = 0 := by
  rw [adjustments, sinceRemoval_remove, List.filterMap_nil, List.sum_nil]

/-- Any other call adds its own adjustment, if it is one of this post. -/
theorem adjustments_concat {post : Int64} (calls : List Call) {c : Call} (h : c ≠ .remove post) :
    adjustments post (calls ++ [c]) =
      adjustments post calls + (adjustment post c).getD 0 := by
  rw [adjustments, sinceRemoval_concat calls h, List.filterMap_append, List.sum_append]
  cases ha : adjustment post c with
  | none => simp only [List.filterMap_cons, ha, List.filterMap_nil, List.sum_nil, adjustments,
      Option.getD_none]
  | some delta => simp only [List.filterMap_cons, ha, List.filterMap_nil, List.sum_cons,
      List.sum_nil, Int64.add_zero, adjustments, Option.getD_some]

/-- A call that neither adjusts nor removes a post adds nothing to it. -/
theorem adjustment_eq_none {post : Int64} {c : Call} (h : ∀ delta, c ≠ .adjustScore post delta) :
    adjustment post c = none := by
  cases c with
  | adjustScore other delta =>
    rw [adjustment, if_neg]
    rintro rfl
    exact h delta rfl
  | _ => rfl

/-- One call keeps the score in step with the balance and the adjustments. -/
theorem Moved.score_eq {t : Tally} {post : Int64} {c : Call} {e : Entry} {calls : List Call}
    (h : Moved t post c e)
    (hs : (t.entry post).score = (t.entry post).balance + adjustments post calls) :
    e.score = e.balance + adjustments post (calls ++ [c]) := by
  cases h with
  | kept ha hr =>
    rw [adjustments_concat calls hr, adjustment_eq_none ha, Option.getD_none, Int64.add_zero, hs]
  | @recorded c same hv =>
    subst same
    rw [adjustments_concat calls (by simp), adjustment_eq_none (by simp), Option.getD_none,
      Entry.balance_record _ ((voteOf_eq_entry t c.post c.user).symm.trans hv), Entry.record, hs]
    grind
  | adjusted delta =>
    have hb : ((t.entry post).adjust delta).balance = (t.entry post).balance := rfl
    rw [adjustments_concat calls (by simp), adjustment, if_pos rfl, Option.getD_some, hb,
      Entry.adjust, hs, Int64.add_assoc]
  | removed => rw [adjustments_remove, Entry.balance_empty, Int64.add_zero]

/-- Along every run the score in an entry is its balance and the adjustments. -/
theorem entry_score_after (calls : List Call) (post : Int64) :
    ((after calls).entry post).score =
      ((after calls).entry post).balance + adjustments post calls := by
  induction calls using List.reverseRecOn with
  | nil => rfl
  | append_singleton calls c ih =>
    rw [after_concat]
    exact (moved_answer (after calls) post c).score_eq ih

/-- A post is registered after a run if a call since its last removal enters it. -/
theorem isSome_scoreOf_after (calls : List Call) (post : Int64) :
    ((after calls).scoreOf post).isSome ↔ ∃ c ∈ sinceRemoval post calls, c.enters post := by
  induction calls using List.reverseRecOn with
  | nil => simp [after, empty, scoreOf, sinceRemoval]
  | append_singleton calls c ih =>
    rw [after_concat, isSome_scoreOf_answer, ih]
    by_cases hc : c = .remove post
    · rw [hc, sinceRemoval_remove]
      simp [Call.enters]
    · rw [sinceRemoval_concat calls hc]
      simp only [List.mem_append, List.mem_singleton]
      grind

/-- Score consistency along every run of calls. A registered post, that is one entered since its
last removal, has the score that its recorded votes and the adjustments since then add up to; any
other post has no recorded vote; the cardinality counts the registered posts; and the scores that
commits and adjustments report are those the store then answers. -/
theorem score_consistency (calls : List Call) :
    (∀ post, ((after calls).scoreOf post).isSome ↔
      ∃ c ∈ sinceRemoval post calls, c.enters post) ∧
    (∀ post score, (after calls).scoreOf post = some score →
      score = ((after calls).entry post).balance + adjustments post calls) ∧
    (∀ post, (after calls).scoreOf post = none →
      ∀ user, (after calls).voteOf post user = none) ∧
    ((after calls).answer .cardinality).1 = {post | ((after calls).scoreOf post).isSome}.ncard ∧
    (∀ change score, ((after calls).answer (.commitVote change)).1 = .committed score →
      (after (calls ++ [.commitVote change])).scoreOf change.post = some score) ∧
    (∀ post delta, (after (calls ++ [.adjustScore post delta])).scoreOf post =
      some ((after calls).answer (.adjustScore post delta)).1) := by
  refine ⟨isSome_scoreOf_after calls, ?_, ?_, ?_, ?_, ?_⟩
  · intro post score h
    rw [← entry_score_of_some _ _ h]
    exact entry_score_after calls post
  · intro post h user
    exact voteOf_of_none _ _ _ h
  · exact cardinality_eq (after calls)
  · intro change score h
    rw [after_concat]
    exact scoreOf_of_committed _ h
  · intro post delta
    rw [after_concat]
    exact scoreOf_adjustScore _ _ _

/-- A post that was removed and came back counts from its return: two points of adjustment from
before are gone, and so is the like from before. -/
theorem score_consistency_of_return :
    let calls := [Call.commitVote ⟨1, 7, none, .like⟩, .adjustScore 1 2, .remove 1,
      .adjustScore 1 3, .commitVote ⟨1, 8, none, .like⟩]
    (after calls).scoreOf 1 = some 4 ∧ adjustments 1 calls = 3 ∧
      4 = ((after calls).entry 1).balance + adjustments 1 calls :=
  ⟨by decide, by decide, (score_consistency _).2.1 1 4 (by decide)⟩

end Tally

end Forum.Engagement

/-! ## Counting votes

The balance of an entry as a difference of two counts: the users whose recorded vote is a like, and
those whose recorded vote is a dislike. In 64 bits the equation holds for any number of users; as
an equation of whole numbers it holds as long as neither count needs the sign bit. -/

namespace Forum.Engagement.Entry

/-- The users whose recorded vote is the given one. -/
def voters (e : Entry) (d : Direction) : Set Int64 :=
  {user | e.votes[user]? = some d}

/-- As many users vote one way as votes are listed that do. -/
theorem ncard_voters (e : Entry) (d : Direction) :
    (e.voters d).ncard = e.votes.toList.countP fun vote => vote.2 = d := by
  have hs : e.voters d =
      (((e.votes.toList.filter fun vote => vote.2 = d).map Prod.fst).toFinset : Set Int64) := by
    ext user
    simp only [voters, Set.mem_ofPred_eq, Finset.mem_coe, List.mem_toFinset, List.mem_map,
      List.mem_filter, decide_eq_true_eq, Prod.exists, exists_and_right, exists_eq_right,
      Std.ExtTreeMap.mem_toList_iff_getElem?_eq_some]
  have hn : ((e.votes.toList.filter fun vote => vote.2 = d).map Prod.fst).Nodup :=
    (FiniteMap.nodup_keys e.votes).sublist (List.filter_sublist.map _)
  rw [hs, Set.ncard_coe_finset, List.toFinset_card_of_nodup hn, List.length_map,
    List.countP_eq_length_filter]

/-- Votes add up to the number of likes less the number of dislikes. -/
private theorem sum_values (votes : List (Int64 × Direction)) :
    (votes.map fun vote => vote.2.value).sum =
      Int64.ofNat (votes.countP fun vote => vote.2 = .like) -
        Int64.ofNat (votes.countP fun vote => vote.2 = .dislike) := by
  induction votes with
  | nil => rfl
  | cons vote votes ih =>
    rw [List.map_cons, List.sum_cons, ih, List.countP_cons, List.countP_cons]
    cases hv : vote.2 with
    | like =>
      simp only [decide_true, reduceCtorEq, decide_false, Bool.false_eq_true, if_true, if_false,
        Nat.add_zero, Int64.ofNat_add, Direction.value]
      grind
    | dislike =>
      simp only [decide_true, reduceCtorEq, decide_false, Bool.false_eq_true, if_true, if_false,
        Nat.add_zero, Int64.ofNat_add, Direction.value]
      grind

/-- The balance of an entry is the number of its likes less the number of its dislikes. -/
theorem balance_eq (e : Entry) : e.balance =
    Int64.ofNat (e.voters .like).ncard - Int64.ofNat (e.voters .dislike).ncard := by
  rw [balance, sum_values, ncard_voters, ncard_voters]

end Forum.Engagement.Entry

/-- A difference of two counts below the sign bit is one of whole numbers. -/
theorem Forum.Engagement.toInt_ofNat_sub_ofNat {a b : Nat} (ha : a < 2 ^ 63) (hb : b < 2 ^ 63) :
    (Int64.ofNat a - Int64.ofNat b).toInt = (a : Int) - b := by
  rw [Int64.toInt_sub, Int64.toInt_ofNat_of_lt ha, Int64.toInt_ofNat_of_lt hb]
  exact Int.bmod_eq_of_le (by omega) (by omega)

/-! ## Changes that are refused

What a change of a vote leaves of a store, refused or not. A refusal is meant to write nothing, and
on a registered post it does: the store is the same. A post that is unknown is registered before
its votes are looked at, so a refused change leaves it registered with score zero, and that is all
it leaves. A change that is not refused moves one vote and one score. -/

namespace Forum.Engagement.Tally

/-- What two stores have in common when only one post can differ: the scores and the votes of all
others, and the order in which these stand in the ranking. -/
structure SameBeside (t : Tally) (post : Int64) (t' : Tally) : Prop where
  /-- Other posts have their scores, or are as unknown as before. -/
  scores : ∀ other, other ≠ post → t'.scoreOf other = t.scoreOf other
  /-- Other posts have their votes. -/
  votes : ∀ other user, other ≠ post → t'.voteOf other user = t.voteOf other user
  /-- Other posts are ranked in the same order. -/
  ranking : t'.ranking.filter (· ≠ post) = t.ranking.filter (· ≠ post)

variable (t : Tally) (post : Int64)

/-- Putting an entry in place leaves all other posts alone. -/
theorem sameBeside_put (e : Entry) : t.SameBeside post (t.put post e) := by
  have hscores : ∀ other, other ≠ post → (t.put post e).scoreOf other = t.scoreOf other :=
    fun other hother => by rw [scoreOf_put, if_neg hother]
  refine ⟨hscores, fun other user hother => ?_, ?_⟩
  · rw [voteOf_eq_entry, entry_put, if_neg hother, ← voteOf_eq_entry]
  · exact filter_ranking_eq fun other hother => hscores other (of_decide_eq_true hother)

/-- It adds a post if the post was unknown. -/
theorem cardinality_put (e : Entry) : (t.put post e).cardinality =
    if (t.scoreOf post).isSome then t.cardinality else t.cardinality + 1 := by
  rw [cardinality, put, Std.ExtTreeMap.size_insert]
  exact if_congr (isSome_scoreOf_iff t post).symm rfl rfl

/-- Putting the entry of a registered post back in place changes nothing. -/
theorem put_entry_of_registered (h : (t.scoreOf post).isSome) : t.put post (t.entry post) = t := by
  obtain ⟨e, he⟩ := Option.isSome_iff_exists.1 (Option.isSome_map.symm.trans h)
  have hsame : t.entries.insert post (t.entry post) = t.entries := by
    refine Std.ExtTreeMap.ext_getElem? fun other => ?_
    rw [FiniteMap.getElem?_insert]
    split
    · next same => rw [same, he, entry, he, Option.getD_some]
    · rfl
  rw [put, hsame]

/-- What becomes of a change, in any state of a store. It is refused exactly when the recorded vote
is not the one it was decided against. A refusal leaves the store as it is if the post is
registered; an unknown post is registered with score zero, which the number of posts and the ranking
show, and nobody has voted on it. Otherwise the vote of the user is the new one, the score of the
post has moved by the difference, and nothing else has changed. -/
theorem refused_or_recorded (c : Vote.Change) :
    let (outcome, after) := t.commitVote c
    (outcome = .conflict ↔ t.voteOf c.post c.user ≠ c.previous) ∧
    (outcome = .conflict →
      ((t.scoreOf c.post).isSome → after = t) ∧
      (t.scoreOf c.post = none → t.SameBeside c.post after ∧
        after.scoreOf c.post = some 0 ∧ after.cardinality = t.cardinality + 1 ∧
        ∀ user, after.voteOf c.post user = none)) ∧
    (outcome ≠ .conflict → t.SameBeside c.post after ∧
      outcome = .committed ((t.scoreOf c.post).getD 0 + c.delta) ∧
      after.scoreOf c.post = some ((t.scoreOf c.post).getD 0 + c.delta) ∧
      (∀ user, after.voteOf c.post user =
        if user = c.user then some c.next else t.voteOf c.post user) ∧
      after.cardinality =
        if (t.scoreOf c.post).isSome then t.cardinality else t.cardinality + 1) := by
  have hiff := t.commitVote_eq_conflict_iff c
  by_cases hv : t.voteOf c.post c.user = c.previous
  · rw [commitVote_of_eq t hv] at hiff ⊢
    refine ⟨hiff, fun hrefused => absurd hrefused Outcome.noConfusion, fun _ => ?_⟩
    refine ⟨t.sameBeside_put c.post _, by rw [entry_score], ?_, fun user => ?_,
      t.cardinality_put c.post _⟩
    · rw [scoreOf_put, if_pos rfl, Entry.record, entry_score]
    · rw [voteOf_put_record]
      simp only [true_and]
  · rw [commitVote_of_ne t hv] at hiff ⊢
    refine ⟨hiff, fun _ => ⟨t.put_entry_of_registered c.post, fun hunknown => ?_⟩,
      fun hrecorded => absurd rfl hrecorded⟩
    refine ⟨t.sameBeside_put c.post _, ?_, ?_, fun user => ?_⟩
    · rw [scoreOf_put, if_pos rfl, entry_score, hunknown, Option.getD_none]
    · rw [cardinality_put, hunknown]
      rfl
    · rw [voteOf_eq_entry, entry_put, if_pos rfl, ← voteOf_eq_entry, voteOf_of_none _ _ _ hunknown]

/-- A user likes a post and takes the like back for a dislike while the post is removed: the removal
comes between the look at the vote and the commit. The dislike is refused, and the refusal registers
the removed post again, with score zero and a place in the ranking. -/
theorem refused_change_registers :
    let removed := after [.commitVote ⟨1, 10, none, .like⟩, .remove 1]
    let (outcome, left) := removed.commitVote ⟨1, 10, some .like, .dislike⟩
    outcome = .conflict ∧
    (removed.scoreOf 1, removed.cardinality, removed.topByScore 0 10) = (none, 0, []) ∧
    (left.scoreOf 1, left.cardinality, left.topByScore 0 10) = (some 0, 1, [1]) := by
  decide +kernel

end Forum.Engagement.Tally
