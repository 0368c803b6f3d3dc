import Mathlib
import Forum.Engagement.Tally
import Forum.Proofs.FiniteMap

/-!
# What the calls of a store do

Scores and votes of a tally before and after each call. `Tally.Moved` lists the four things that a
call can do to the entry of a post, and `Tally.isSome_scoreOf_answer` says which posts are
registered after it. All later statements about tallies follow from these two.
-/

namespace Forum.Engagement

/-- The entry of a post after a change of a vote was recorded. -/
def Entry.record (e : Entry) (c : Vote.Change) : Entry :=
  ⟨e.score + c.delta, e.votes.insert c.user c.next⟩

/-- The entry of a post after something was added to its score. -/
def Entry.adjust (e : Entry) (delta : Int64) : Entry :=
  { e with score := e.score + delta }

/-- Whether a call enters a post that is unknown. -/
def Call.enters (post : Int64) : Call → Prop
  | .commitVote c => c.post = post
  | .register other | .adjustScore other _ => other = post
  | _ => False

namespace Tally

variable (t : Tally) (post other user : Int64)

/-- A registered post is one with an entry. -/
theorem isSome_scoreOf_iff : (t.scoreOf post).isSome ↔ post ∈ t.entries := by
  simp only [scoreOf, Option.isSome_map, Std.ExtTreeMap.mem_iff_isSome_getElem?]

/-- The votes on a post are those of its entry; an unregistered post has none. -/
theorem voteOf_eq_entry : t.voteOf post user = (t.entry post).votes[user]? := by
  rw [voteOf, entry]
  cases t.entries[post]? with
  | none => simp only [Option.bind_none, Option.getD_none, Std.ExtTreeMap.getElem?_empty]
  | some e => rfl

/-- The score in the entry of a post is its score, zero for an unregistered one. -/
theorem entry_score : (t.entry post).score = (t.scoreOf post).getD 0 := by
  rw [scoreOf, entry]
  cases t.entries[post]? <;> rfl

/-- The entry of a registered post carries its score. -/
theorem entry_score_of_some {score : Int64} (h : t.scoreOf post = some score) :
    (t.entry post).score = score := by
  rw [entry_score, h, Option.getD_some]

/-- An unregistered post counts as one without votes. -/
theorem entry_of_none (h : t.scoreOf post = none) : t.entry post = {} := by
  rw [scoreOf, Option.map_eq_none_iff] at h
  rw [entry, h, Option.getD_none]

/-- Nobody has voted on an unregistered post. -/
theorem voteOf_of_none (h : t.scoreOf post = none) : t.voteOf post user = none := by
  rw [voteOf_eq_entry, entry_of_none t post h, Std.ExtTreeMap.getElem?_empty]

/-! ## Entries in and out -/

/-- Putting an entry in place changes that entry and no other. -/
theorem entry_put (e : Entry) :
    (t.put post e).entry other = if other = post then e else t.entry other := by
  rw [entry, put, FiniteMap.getElem?_insert]
  split <;> rfl

/-- Putting an entry in place a second time leaves the second one. -/
theorem put_put (first second : Entry) : (t.put post first).put post second = t.put post second :=
  congrArg Tally.mk (FiniteMap.insert_insert t.entries post first second)

/-- The entries of two posts can be put in place in either order. -/
theorem put_comm {post other : Int64} (h : post ≠ other) (e e' : Entry) :
    (t.put post e).put other e' = (t.put other e').put post e :=
  congrArg Tally.mk (FiniteMap.insert_comm t.entries h e e')

/-- The scores after putting an entry in place. -/
theorem scoreOf_put (e : Entry) :
    (t.put post e).scoreOf other = if other = post then some e.score else t.scoreOf other := by
  rw [scoreOf, put, FiniteMap.getElem?_insert]
  split <;> rfl

/-- The entry of a removed post is an empty one, all others stay. -/
theorem entry_remove :
    (t.remove post).entry other = if other = post then {} else t.entry other := by
  rw [entry, remove, FiniteMap.getElem?_erase]
  split <;> rfl

/-- A removed post has no score, all others keep theirs. -/
theorem scoreOf_remove :
    (t.remove post).scoreOf other = if other = post then none else t.scoreOf other := by
  rw [scoreOf, remove, FiniteMap.getElem?_erase]
  split <;> rfl

/-! ## Calls -/

/-- A change that was decided against the recorded vote is recorded. -/
theorem commitVote_of_eq {c : Vote.Change} (h : t.voteOf c.post c.user = c.previous) :
    t.commitVote c = (.committed ((t.entry c.post).score + c.delta),
      t.put c.post ((t.entry c.post).record c)) := by
  rw [voteOf_eq_entry] at h
  rw [commitVote]
  dsimp only
  rw [if_pos h]
  rfl

/-- Any other change is refused; its post is registered all the same. -/
theorem commitVote_of_ne {c : Vote.Change} (h : t.voteOf c.post c.user ≠ c.previous) :
    t.commitVote c = (.conflict, t.put c.post (t.entry c.post)) := by
  rw [voteOf_eq_entry] at h
  rw [commitVote]
  dsimp only
  rw [if_neg h]

/-- A change that is reported as recorded was decided against the recorded vote. -/
theorem of_committed {c : Vote.Change} {score : Int64} {after : Tally}
    (h : t.commitVote c = (.committed score, after)) :
    t.voteOf c.post c.user = c.previous ∧ score = (t.entry c.post).score + c.delta ∧
      after = t.put c.post ((t.entry c.post).record c) := by
  by_cases hv : t.voteOf c.post c.user = c.previous
  · rw [commitVote_of_eq t hv, Prod.mk.injEq] at h
    exact ⟨hv, (Outcome.committed.inj h.1).symm, h.2.symm⟩
  · rw [commitVote_of_ne t hv, Prod.mk.injEq] at h
    cases h.1

/-- A change that is reported as a conflict leaves the entries of all posts. -/
theorem of_conflict {c : Vote.Change} {after : Tally} (h : t.commitVote c = (.conflict, after)) :
    t.voteOf c.post c.user ≠ c.previous ∧ ∀ post, after.entry post = t.entry post := by
  by_cases hv : t.voteOf c.post c.user = c.previous
  · rw [commitVote_of_eq t hv, Prod.mk.injEq] at h
    cases h.1
  · rw [commitVote_of_ne t hv, Prod.mk.injEq] at h
    refine ⟨hv, fun post => ?_⟩
    rw [← h.2, entry_put]
    split
    · next same => rw [same]
    · rfl

/-- Registering a post keeps the entries of all posts. -/
theorem entry_register : (t.register post).2.entry other = t.entry other := by
  rw [register]
  split
  · rfl
  · next absent =>
    rw [entry_put]
    split
    · next same =>
      rw [same, entry_of_none]
      rw [← Option.not_isSome_iff_eq_none, isSome_scoreOf_iff]
      exact absent
    · rfl

/-! ## Votes in and out -/

/-- Registering a post keeps all votes. -/
theorem voteOf_register : (t.register post).2.voteOf other user = t.voteOf other user := by
  rw [voteOf_eq_entry, entry_register, ← voteOf_eq_entry]

/-- Removing a post removes its votes and keeps all others. -/
theorem voteOf_remove :
    (t.remove post).voteOf other user = if other = post then none else t.voteOf other user := by
  rw [voteOf_eq_entry, entry_remove]
  split
  · exact Std.ExtTreeMap.getElem?_empty
  · rw [← voteOf_eq_entry]

/-- Recording a change records the vote of its user and keeps all others. -/
theorem voteOf_put_record (c : Vote.Change) :
    (t.put post ((t.entry post).record c)).voteOf other user =
      if other = post ∧ user = c.user then some c.next else t.voteOf other user := by
  rw [voteOf_eq_entry, entry_put]
  by_cases hpost : other = post
  · rw [if_pos hpost, Entry.record, FiniteMap.getElem?_insert, voteOf_eq_entry, hpost]
    simp only [true_and]
  · rw [if_neg hpost, if_neg (fun hboth => hpost hboth.1), voteOf_eq_entry]

/-- What a call can do to the entry of a post. -/
inductive Moved (t : Tally) (post : Int64) : Call → Entry → Prop
  /-- It leaves the entry as it is. -/
  | kept {c : Call} (adjusts : ∀ delta, c ≠ .adjustScore post delta) (removes : c ≠ .remove post) :
    Moved t post c (t.entry post)
  /-- It records a change of the recorded vote. -/
  | recorded {c : Vote.Change} (same : c.post = post) (h : t.voteOf post c.user = c.previous) :
    Moved t post (.commitVote c) ((t.entry post).record c)
  /-- It adds to the score. -/
  | adjusted (delta : Int64) : Moved t post (.adjustScore post delta) ((t.entry post).adjust delta)
  /-- It removes the post. -/
  | removed : Moved t post (.remove post) {}

/-- Every call does one of the four things to the entry of each post. -/
theorem moved_answer (c : Call) : Moved t post c ((t.answer c).2.entry post) := by
  cases c with
  | commitVote c =>
    rw [answer]
    by_cases h : t.voteOf c.post c.user = c.previous
    · rw [commitVote_of_eq t h, entry_put]
      split
      · next same => subst same; exact .recorded rfl h
      · exact .kept (by simp) (by simp)
    · have hc := commitVote_of_ne t h
      rw [hc, (of_conflict t hc).2 post]
      exact .kept (by simp) (by simp)
  | register other =>
    rw [answer, entry_register]
    exact .kept (by simp) (by simp)
  | adjustScore other delta =>
    rw [answer, adjustScore]
    dsimp only
    rw [entry_put]
    split
    · next same => subst same; exact .adjusted delta
    · next different =>
      exact .kept (fun _ same => different (by cases same; rfl)) (by simp)
  | remove other =>
    rw [answer, entry_remove]
    split
    · next same => subst same; exact .removed
    · next different => exact .kept (by simp) (fun same => different (by cases same; rfl))
  | voteOf | scoreOf | topByScore | cardinality => exact .kept (by simp) (by simp)

/-- Putting an entry in place registers its post. -/
theorem isSome_scoreOf_put (e : Entry) :
    ((t.put post e).scoreOf other).isSome ↔ post = other ∨ (t.scoreOf other).isSome := by
  rw [scoreOf_put]
  split
  · next same => simp only [same, Option.isSome_some, true_or]
  · next different => simp only [Ne.symm different, false_or]

/-- Whatever becomes of a change, the entry of its post is put in place. -/
theorem commitVote_snd (c : Vote.Change) : ∃ e, (t.commitVote c).2 = t.put c.post e := by
  by_cases h : t.voteOf c.post c.user = c.previous
  · exact ⟨_, congrArg Prod.snd (commitVote_of_eq t h)⟩
  · exact ⟨_, congrArg Prod.snd (commitVote_of_ne t h)⟩

/-- A post is registered after a call if the call enters it, or if it was registered before and is
not removed. -/
theorem isSome_scoreOf_answer (c : Call) : ((t.answer c).2.scoreOf post).isSome ↔
    c.enters post ∨ (t.scoreOf post).isSome ∧ c ≠ .remove post := by
  cases c with
  | commitVote c =>
    obtain ⟨e, put⟩ := commitVote_snd t c
    rw [answer, put, isSome_scoreOf_put]
    simp [Call.enters]
  | register other =>
    rw [answer, register]
    split
    · next known =>
      rw [← isSome_scoreOf_iff] at known
      simp only [Call.enters, ne_eq, reduceCtorEq, not_false_eq_true, and_true, iff_or_self]
      exact fun same => same ▸ known
    · rw [isSome_scoreOf_put]
      simp [Call.enters]
  | adjustScore other delta =>
    rw [answer, adjustScore]
    dsimp only
    rw [isSome_scoreOf_put]
    simp [Call.enters]
  | remove other =>
    rw [answer, scoreOf_remove]
    by_cases same : post = other
    · simp [same, Call.enters]
    · simp [same, Ne.symm same, Call.enters]
  | voteOf | scoreOf | topByScore | cardinality => simp [answer, Call.enters]

/-- A commit keeps every post registered, whatever becomes of it. -/
theorem isSome_scoreOf_of_commitVote {c : Vote.Change} {outcome : Outcome} {after : Tally}
    (hc : t.commitVote c = (outcome, after)) (h : (t.scoreOf post).isSome) :
    (after.scoreOf post).isSome := by
  obtain ⟨e, hput⟩ := commitVote_snd t c
  rw [hc] at hput
  rw [show after = _ from hput, isSome_scoreOf_put]
  exact .inr h

/-- As many posts are registered as have a score. -/
theorem cardinality_eq : t.cardinality = {post | (t.scoreOf post).isSome}.ncard := by
  have keys : {post | (t.scoreOf post).isSome} =
      ((t.entries.toList.map Prod.fst).toFinset : Set Int64) := by
    ext post
    rw [Set.mem_ofPred_eq, isSome_scoreOf_iff, Finset.mem_coe, List.mem_toFinset,
      Std.ExtTreeMap.map_fst_toList_eq_keys, Std.ExtTreeMap.mem_keys]
  rw [keys, Set.ncard_coe_finset, List.toFinset_card_of_nodup (FiniteMap.nodup_keys _),
    List.length_map, Std.ExtTreeMap.length_toList, cardinality]

/-- The score that a commit reports is the score of the post from then on. -/
theorem scoreOf_of_committed {c : Vote.Change} {score : Int64}
    (h : (t.commitVote c).1 = .committed score) :
    (t.commitVote c).2.scoreOf c.post = some score := by
  by_cases same : t.voteOf c.post c.user = c.previous
  · rw [commitVote_of_eq t same] at h ⊢
    rw [scoreOf_put, if_pos rfl]
    exact congrArg some (Outcome.committed.inj h)
  · rw [commitVote_of_ne t same] at h
    cases h

/-- The score that an adjustment reports is the score of the post from then on. -/
theorem scoreOf_adjustScore (delta : Int64) :
    (t.adjustScore post delta).2.scoreOf post = some (t.adjustScore post delta).1 := by
  rw [adjustScore]
  dsimp only
  rw [scoreOf_put, if_pos rfl]

end Tally

end Forum.Engagement
