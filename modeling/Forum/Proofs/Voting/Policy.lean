import Mathlib
import Forum.Proofs.Engagement.Consistency
import Forum.Proofs.Voting.Poll
import Forum.Proofs.World.Services

/-!
# Votes by their policy

What becomes of a vote when nobody comes in between, in closed form: `verdict` reads off the rules
and the recorded state whether a vote is refused and with which fault, and otherwise which receipt
it gets. A vote answers its verdict. A refused one leaves the world as it is, and an accepted one
moves one vote and one score. The number of retries plays no part, because the vote that is
committed was decided against the one that is still recorded.
-/

namespace Forum.Voting

open Engagement (Tally)

/-- What the rules and the recorded state say about a vote. A post has to be known where posts are
not registered automatically; a like is refused on top of a like, and a dislike on top of anything
else. An accepted vote moves the score by its own value less that of the vote it replaces. -/
def verdict (rules : Rules) (t : Tally) (post user : Int64) (requested : Direction) :
    Except Fault Receipt :=
  if rules.autoRegister = false ∧ t.scoreOf post = none then .error (.postNotFound post)
  else if requested = .like ∧ t.voteOf post user = some .like then .error (.alreadyLiked post)
  else if requested = .dislike ∧ t.voteOf post user ≠ some .like then
    .error (.notPreviouslyLiked post)
  else
    let delta := requested.value - Vote.weight (t.voteOf post user)
    .ok ⟨post, requested, delta, (t.scoreOf post).getD 0 + delta⟩

/-- A decision in closed form. -/
theorem decide_eq (post user : Int64) (previous : Option Direction) (requested : Direction) :
    Vote.decide post user previous requested =
      if requested = .like ∧ previous = some .like then .error (.alreadyLiked post)
      else if requested = .dislike ∧ previous ≠ some .like then .error (.notPreviouslyLiked post)
      else .ok ⟨post, user, previous, requested⟩ := by
  rcases requested with _ | _ <;> rcases previous with _ | (_ | _) <;> rfl

variable (rules : Rules) (post user : Int64) (requested : Direction) (w : World)

/-- A post counts as known, or the rules ask for its registration in vain. -/
theorem not_known_iff : ¬ (rules.autoRegister = true ∨ (w.tally.scoreOf post).isSome) ↔
    rules.autoRegister = false ∧ w.tally.scoreOf post = none := by
  rw [not_or, Bool.not_eq_true, Option.not_isSome_iff_eq_none]

/-- A vote on a post that counts as known is decided against the recorded one. -/
theorem verdict_of_known (h : rules.autoRegister = true ∨ (w.tally.scoreOf post).isSome) :
    verdict rules w.tally post user requested =
      (Vote.decide post user (w.tally.voteOf post user) requested).map fun change =>
        ⟨post, requested, change.delta, (w.tally.entry post).score + change.delta⟩ := by
  rw [verdict, if_neg fun hunknown => (not_known_iff rules post w).2 hunknown h, decide_eq,
    Tally.entry_score]
  split
  · rfl
  · split <;> rfl

/-- A vote that is refused answers its verdict and changes nothing. -/
theorem run_vote_of_refused {fault : Fault}
    (h : verdict rules w.tally post user requested = .error fault) :
    w.runService (vote rules post user requested) = (.error fault, w) := by
  by_cases hknown : rules.autoRegister = true ∨ (w.tally.scoreOf post).isSome
  · rw [verdict_of_known rules post user requested w hknown] at h
    rw [run_vote rules post user requested w hknown]
    cases hd : Vote.decide post user (w.tally.voteOf post user) requested with
    | ok change =>
      rw [hd] at h
      cases h
    | error problem =>
      rw [hd] at h
      cases h
      exact run_attempts_of_refused rules post user requested w hd _
  · obtain ⟨hauto, hnone⟩ := (not_known_iff rules post w).1 hknown
    rw [verdict, if_pos ⟨hauto, hnone⟩] at h
    cases h
    exact run_vote_of_unregistered rules post user requested w hauto hnone

/-- A vote that is accepted answers its verdict and is recorded on top of the recorded one. -/
theorem run_vote_of_ok {receipt : Receipt}
    (h : verdict rules w.tally post user requested = .ok receipt) :
    let change : Vote.Change := ⟨post, user, w.tally.voteOf post user, requested⟩
    receipt.score = (w.tally.entry post).score + change.delta ∧
      w.runService (vote rules post user requested) = (.ok receipt,
        { w with tally := w.tally.put post ((w.tally.entry post).record change) }) := by
  have hknown : rules.autoRegister = true ∨ (w.tally.scoreOf post).isSome := by
    by_contra hunknown
    rw [verdict, if_pos ((not_known_iff rules post w).1 hunknown)] at h
    cases h
  rw [verdict_of_known rules post user requested w hknown] at h
  cases hd : Vote.decide post user (w.tally.voteOf post user) requested with
  | error problem =>
    rw [hd] at h
    cases h
  | ok change =>
    rw [hd] at h
    cases h
    obtain rfl := Vote.decide_eq_ok hd
    refine ⟨rfl, ?_⟩
    rw [run_vote rules post user requested w hknown]
    exact run_attempts_of_decided rules post user requested w hd _

/-- The change that is recorded carries the user and the vote. -/
theorem run_vote_of_accepted {receipt : Receipt}
    (h : verdict rules w.tally post user requested = .ok receipt) :
    ∃ change : Vote.Change, change.user = user ∧ change.next = requested ∧
      receipt.score = (w.tally.entry post).score + change.delta ∧
      w.runService (vote rules post user requested) = (.ok receipt,
        { w with tally := w.tally.put post ((w.tally.entry post).record change) }) :=
  ⟨_, rfl, rfl, run_vote_of_ok rules post user requested w h⟩

/-- A vote in any state of the store, under any rules. It answers its verdict. If that is a fault,
nothing has changed. Otherwise only the store has: the vote of the user on the post is the requested
one, the post is registered with the score of the receipt, all other users keep their votes on it,
and all other posts keep their votes and scores and their order in the ranking. -/
theorem vote_obeys_policy :
    let (result, after) := w.runService (vote rules post user requested)
    result = verdict rules w.tally post user requested ∧
    (∀ fault, result = .error fault → after = w) ∧
    (∀ receipt, result = .ok receipt →
      after = { w with tally := after.tally } ∧
      w.tally.SameBeside post after.tally ∧
      after.tally.scoreOf post = some receipt.score ∧
      (∀ voter, after.tally.voteOf post voter =
        if voter = user then some requested else w.tally.voteOf post voter) ∧
      after.tally.cardinality =
        if (w.tally.scoreOf post).isSome then w.tally.cardinality
        else w.tally.cardinality + 1) := by
  cases hv : verdict rules w.tally post user requested with
  | error fault =>
    rw [run_vote_of_refused rules post user requested w hv]
    exact ⟨rfl, fun _ _ => rfl, fun receipt hok => nomatch hok⟩
  | ok receipt =>
    obtain ⟨change, huser, hnext, hscore, hrun⟩ :=
      run_vote_of_accepted rules post user requested w hv
    rw [hrun]
    refine ⟨rfl, fun fault herror => (nomatch herror), fun same hsame => ?_⟩
    obtain rfl : receipt = same := Except.ok.inj hsame
    refine ⟨rfl, w.tally.sameBeside_put post _, ?_, fun voter => ?_, w.tally.cardinality_put post _⟩
    · rw [Tally.scoreOf_put, if_pos rfl, hscore, Engagement.Entry.record]
    · rw [Tally.voteOf_put_record, huser, hnext]
      simp only [true_and]

end Forum.Voting
