import Mathlib
import Forum.Proofs.Engagement.Tally
import Forum.Proofs.Service.Programs
import Forum.Proofs.Workflow
import Forum.World.State

/-!
# Polls

Several requests to vote that take turns at one store. `Stage` lists the places at which a request
can stand and `Stage.program` is what is left of it there. `Poll.Step` is one turn of one request
on the store, the stages and the accepted votes, with everything that such a turn can do; every
interleaving of the requests is a run of such steps.
-/

namespace Forum.Voting

open Engagement

/-- A request to vote. -/
structure Ballot where
  /-- The rules it is handled by. -/
  rules : Rules
  /-- The post voted on. -/
  post : Int64
  /-- The user who votes. -/
  user : Int64
  /-- The vote. -/
  direction : Direction

/-- Where a request stands. -/
inductive Stage where
  /-- It is going to ask whether the post is registered. -/
  | asking
  /-- It is going to read the recorded vote, with so many more attempts after this one. -/
  | reading (retries : Nat)
  /-- It has read a vote and is going to commit its change. -/
  | committing (retries : Nat) (previous : Option Direction)
  /-- It was accepted. -/
  | accepted (delta score : Int64)
  /-- It was refused. -/
  | refused (fault : Fault)

namespace Ballot

variable (b : Ballot)

/-- What a request does. -/
def program : Workflow (Except Fault Receipt) :=
  (vote b.rules b.post b.user b.direction).run

/-- The change to be committed on top of the given vote. -/
def change (previous : Option Direction) : Vote.Change :=
  ⟨b.post, b.user, previous, b.direction⟩

/-- Where a request begins. -/
def first : Stage :=
  if b.rules.autoRegister then .reading b.rules.maxRetries else .asking

/-- Where a request goes from a conflict: to its next attempt, if it has one. -/
def retry : Nat → Stage
  | 0 => .refused (.conflict s!"Vote on post {b.post} kept conflicting")
  | retries + 1 => .reading retries

end Ballot

/-- What is left of a request after a conflict. -/
def Ballot.afterConflict (b : Ballot) : Nat → Workflow (Except Fault Receipt)
  | 0 => .done (.error (.conflict s!"Vote on post {b.post} kept conflicting"))
  | retries + 1 => (attempts b.rules b.post b.user b.direction retries).run

/-- What is left of a request. -/
def Stage.program (b : Ballot) : Stage → Workflow (Except Fault Receipt)
  | .asking => .ask (.engagement b.rules.deadline (.scoreOf b.post))
      (Ranking.afterScore b.post
        (attempts b.rules b.post b.user b.direction b.rules.maxRetries).run)
  | .reading retries => .ask (.engagement b.rules.deadline (.voteOf b.post b.user))
      (afterRead b.rules b.post b.user b.direction (b.afterConflict retries))
  | .committing retries previous =>
    .ask (.engagement b.rules.deadline (.commitVote (b.change previous)))
      (afterCommit b.post b.direction (b.change previous) (b.afterConflict retries))
  | .accepted delta score => .done (.ok ⟨b.post, b.direction, delta, score⟩)
  | .refused fault => .done (.error fault)

/-- The attempts of a request begin with reading. -/
theorem attempts_run (b : Ballot) (retries : Nat) :
    (attempts b.rules b.post b.user b.direction retries).run =
      (Stage.reading retries).program b := by
  cases retries <;> exact attempt_run _ _ _ _ _

/-- A request begins at its first stage. -/
theorem Ballot.program_eq (b : Ballot) : b.program = b.first.program b := by
  rw [program, first]
  cases h : b.rules.autoRegister with
  | false => exact vote_run_of_registered _ _ _ _ h
  | true =>
    rw [vote_run_of_auto _ _ _ _ h]
    exact attempts_run b _

/-- After a conflict a request goes on at its next stage. -/
theorem Ballot.afterConflict_eq (b : Ballot) (retries : Nat) :
    b.afterConflict retries = (b.retry retries).program b := by
  cases retries with
  | zero => rfl
  | succ retries => exact attempts_run b retries

/-! ## Turns -/

/-- A vote that was accepted. -/
structure Acceptance where
  /-- The place of its request. -/
  place : Nat
  /-- The change that was committed. -/
  change : Vote.Change
  /-- The score that was reported. -/
  score : Int64
  /-- The store right after the commit. -/
  after : Tally

/-- The vote that a turn accepted, if it committed a change. -/
def accepted? : Turn World → Option Acceptance
  | ⟨place, .engagement _ (.commitVote change), .ok (.committed score), world⟩ =>
    some ⟨place, change, score, world.tally⟩
  | _ => none

/-- Requests that take turns at one store. -/
structure Poll where
  /-- The store. -/
  tally : Tally
  /-- Where each request stands. -/
  stages : List Stage
  /-- The accepted votes in the order of their commits. -/
  accepted : List Acceptance

/-- What one turn can do. -/
inductive Poll.Step (ballots : List Ballot) (p : Poll) : Poll → Prop
  /-- Nothing: nobody is at the place, or the request there is done. -/
  | idle : Step ballots p p
  /-- A request learns that its post is registered. -/
  | known {i : Nat} {b : Ballot} (hb : ballots[i]? = some b) (hs : p.stages[i]? = some .asking)
    (h : (p.tally.scoreOf b.post).isSome) :
    Step ballots p { p with stages := p.stages.set i (.reading b.rules.maxRetries) }
  /-- A request is refused because its post is not registered. -/
  | unknown {i : Nat} {b : Ballot} (hb : ballots[i]? = some b) (hs : p.stages[i]? = some .asking)
    (h : p.tally.scoreOf b.post = none) :
    Step ballots p { p with stages := p.stages.set i (.refused (.postNotFound b.post)) }
  /-- A request reads the recorded vote and may replace it. -/
  | read {i retries : Nat} {b : Ballot} (hb : ballots[i]? = some b)
    (hs : p.stages[i]? = some (.reading retries)) {c : Vote.Change}
    (h : Vote.decide b.post b.user (p.tally.voteOf b.post b.user) b.direction = .ok c) :
    Step ballots p { p with
      stages := p.stages.set i (.committing retries (p.tally.voteOf b.post b.user)) }
  /-- A request reads the recorded vote and is refused because of it. -/
  | declined {i retries : Nat} {b : Ballot} (hb : ballots[i]? = some b)
    (hs : p.stages[i]? = some (.reading retries)) {fault : Fault}
    (h : Vote.decide b.post b.user (p.tally.voteOf b.post b.user) b.direction = .error fault) :
    Step ballots p { p with stages := p.stages.set i (.refused fault) }
  /-- A request commits its change. -/
  | committed {i retries : Nat} {previous : Option Direction} {b : Ballot} {score : Int64}
    {tally : Tally} (hb : ballots[i]? = some b)
    (hs : p.stages[i]? = some (.committing retries previous))
    (h : p.tally.commitVote (b.change previous) = (.committed score, tally)) :
    Step ballots p ⟨tally, p.stages.set i (.accepted (b.change previous).delta score),
      p.accepted ++ [⟨i, b.change previous, score, tally⟩]⟩
  /-- A request meets another recorded vote than the one it read. -/
  | conflicted {i retries : Nat} {previous : Option Direction} {b : Ballot} {tally : Tally}
    (hb : ballots[i]? = some b) (hs : p.stages[i]? = some (.committing retries previous))
    (h : p.tally.commitVote (b.change previous) = (.conflict, tally)) :
    Step ballots p { p with tally := tally, stages := p.stages.set i (b.retry retries) }

/-- The poll that an interleaving of requests amounts to. -/
structure Poll.Represents (ballots : List Ballot) (p : Poll)
    (r : Interleaving World (Except Fault Receipt)) : Prop where
  /-- The store is the one of the world. -/
  tally : r.state.tally = p.tally
  /-- Every request has a stage. -/
  length : p.stages.length = ballots.length
  /-- The workflows are what is left of the requests. -/
  tasks : r.tasks = List.zipWith Stage.program ballots p.stages
  /-- The accepted votes are those that the turns accepted. -/
  accepted : r.turns.filterMap accepted? = p.accepted

/-- What is left after one request has moved to another stage. -/
theorem zipWith_program_set {ballots : List Ballot} {stages : List Stage} {i : Nat} {b : Ballot}
    (hb : ballots[i]? = some b) (stage : Stage) :
    (List.zipWith Stage.program ballots stages).set i (stage.program b) =
      List.zipWith Stage.program ballots (stages.set i stage) := by
  refine List.ext_getElem? fun j => ?_
  rw [List.getElem?_set, List.getElem?_zipWith, List.getElem?_zipWith, List.getElem?_set,
    List.length_zipWith]
  by_cases hj : i = j
  · subst hj
    have hi : i < ballots.length := (List.getElem?_eq_some_iff.mp hb).1
    rw [if_pos rfl, if_pos rfl, hb]
    by_cases hl : i < stages.length
    · rw [if_pos (by omega), if_pos hl]
    · rw [if_neg (by omega), if_neg hl]
  · rw [if_neg hj, if_neg hj]

namespace Poll.Represents

variable {ballots : List Ballot} {p : Poll} {r : Interleaving World (Except Fault Receipt)}

/-- The workflow at the place of a request is what is left of it. -/
theorem task (h : p.Represents ballots r) {i : Nat} {b : Ballot} {stage : Stage}
    (hb : ballots[i]? = some b) (hs : p.stages[i]? = some stage) :
    r.tasks[i]? = some (stage.program b) := by
  rw [h.tasks, List.getElem?_zipWith, hb, hs]

/-- A turn in which a request asks, is answered and moves to another stage. -/
theorem moved (h : p.Represents ballots r) {i deadline : Nat} {b : Ballot} {stage : Stage}
    {call : Call} {next : Except Fault call.Reply → Workflow (Except Fault Receipt)}
    {reply : call.Reply} {tally : Tally} {accepted : List Acceptance} (hb : ballots[i]? = some b)
    (hi : r.tasks[i]? = some (.ask (.engagement deadline call) next))
    (hc : p.tally.answer call = (reply, tally)) (hn : next (.ok reply) = stage.program b)
    (ha : (accepted? ⟨i, .engagement deadline call, .ok reply,
      { r.state with tally := tally }⟩).toList = accepted) :
    Poll.Represents ballots ⟨tally, p.stages.set i stage, p.accepted ++ accepted⟩
      (r.advance World.answer i) := by
  have hw : World.answer (.engagement deadline call) r.state =
      (.ok reply, { r.state with tally := tally }) := by
    rw [World.answer, World.answerCall, h.tally, hc]
  rw [Interleaving.advance_of_ask World.answer hi, hw]
  refine ⟨rfl, ?_, ?_, ?_⟩
  · rw [List.length_set, h.length]
  · rw [h.tasks, hn, zipWith_program_set hb]
  · rw [List.filterMap_append, h.accepted, List.filterMap_cons, List.filterMap_nil, ← ha]
    cases accepted? _ <;> rfl

/-- A turn in which a request is answered without a commit and moves to another stage. -/
theorem moved_on (h : p.Represents ballots r) {i deadline : Nat} {b : Ballot} {stage : Stage}
    {call : Call} {next : Except Fault call.Reply → Workflow (Except Fault Receipt)}
    {reply : call.Reply} {tally : Tally} (hb : ballots[i]? = some b)
    (hi : r.tasks[i]? = some (.ask (.engagement deadline call) next))
    (hc : p.tally.answer call = (reply, tally)) (hn : next (.ok reply) = stage.program b)
    (ha : accepted? ⟨i, .engagement deadline call, .ok reply,
      { r.state with tally := tally }⟩ = none) :
    Poll.Represents ballots { p with tally := tally, stages := p.stages.set i stage }
      (r.advance World.answer i) := by
  have hm := h.moved hb hi hc hn (congrArg Option.toList ha)
  rwa [Option.toList_none, List.append_nil] at hm

/-- Every turn of an interleaving is a step of its poll. -/
theorem advance (h : p.Represents ballots r) (i : Nat) :
    ∃ q, p.Step ballots q ∧ q.Represents ballots (r.advance World.answer i) := by
  cases hb : ballots[i]? with
  | none =>
    refine ⟨p, .idle, ?_⟩
    rwa [Interleaving.advance_of_none]
    rw [h.tasks, List.getElem?_zipWith, hb]
  | some b =>
    have hl : i < p.stages.length := h.length ▸ (List.getElem?_eq_some_iff.mp hb).1
    obtain ⟨stage, hs⟩ : ∃ stage, p.stages[i]? = some stage :=
      ⟨_, List.getElem?_eq_getElem hl⟩
    have ht := h.task hb hs
    cases stage with
    | asking =>
      cases hk : p.tally.scoreOf b.post with
      | none => exact ⟨_, .unknown hb hs hk, h.moved_on hb ht (congrArg (·, p.tally) hk) rfl rfl⟩
      | some score =>
        exact ⟨_, .known hb hs (hk ▸ rfl),
          h.moved_on hb ht (congrArg (·, p.tally) hk) (attempts_run b _) rfl⟩
    | reading retries =>
      cases hd : Vote.decide b.post b.user (p.tally.voteOf b.post b.user) b.direction with
      | error fault =>
        refine ⟨_, .declined hb hs hd, h.moved_on hb ht rfl ?_ rfl⟩
        rw [afterRead, hd]
        rfl
      | ok c =>
        refine ⟨_, .read hb hs hd, h.moved_on hb ht rfl ?_ rfl⟩
        rw [afterRead, hd, Vote.decide_eq_ok hd]
        rfl
    | committing retries previous =>
      rcases hc : p.tally.commitVote (b.change previous) with ⟨⟨score⟩ | _, tally⟩
      · exact ⟨_, .committed hb hs hc, h.moved hb ht hc rfl rfl⟩
      · exact ⟨_, .conflicted hb hs hc, h.moved_on hb ht hc (b.afterConflict_eq retries) rfl⟩
    | accepted delta score =>
      refine ⟨p, .idle, ?_⟩
      rwa [Interleaving.advance_of_done World.answer ht]
    | refused fault =>
      refine ⟨p, .idle, ?_⟩
      rwa [Interleaving.advance_of_done World.answer ht]

end Poll.Represents

/-- The poll with which requests begin. -/
def Poll.start (ballots : List Ballot) (t : Tally) : Poll :=
  ⟨t, ballots.map Ballot.first, []⟩

/-- At first a poll represents the requests as they were made. -/
theorem Poll.represents_start (ballots : List Ballot) (w : World) :
    (Poll.start ballots w.tally).Represents ballots ⟨w, ballots.map Ballot.program, []⟩ := by
  refine ⟨rfl, List.length_map _, ?_, rfl⟩
  rw [Poll.start, List.zipWith_map_right, List.zipWith_self]
  exact List.map_congr_left fun b _ => b.program_eq

/-- What holds of a poll at first and is kept by its steps holds of a poll that represents the
interleaving after any schedule. -/
theorem Poll.run_induction {ballots : List Ballot} {w : World} {P : Poll → Prop}
    (start : P (Poll.start ballots w.tally)) (step : ∀ p q, P p → p.Step ballots q → P q)
    (schedule : List Nat) :
    ∃ p, P p ∧ p.Represents ballots
      (Interleaving.run World.answer w (ballots.map Ballot.program) schedule) := by
  refine Interleaving.run_induction World.answer
    (P := fun r => ∃ p, P p ∧ p.Represents ballots r) ?_ ?_ schedule
  · exact ⟨_, start, Poll.represents_start ballots w⟩
  · rintro r place ⟨p, hp, hr⟩
    obtain ⟨q, hq, hr⟩ := hr.advance place
    exact ⟨q, step p q hp hq, hr⟩

end Forum.Voting

/-! ## Likes and dislikes in turn

A like is refused only on top of a like and a dislike is accepted only on top of one. So the votes
of one user on one post that are accepted on top of each other are like, dislike, like and so on:
`alternating`. `votesOf` picks these votes from all that were accepted. -/

namespace Forum

/-- A decision goes by the recorded vote alone: a like needs that there is none, a dislike that
there is one. -/
theorem Vote.decide_eq_ok_iff {post user : Int64} {previous : Option Direction}
    {requested : Direction} {c : Vote.Change} :
    Vote.decide post user previous requested = .ok c ↔
      c = ⟨post, user, previous, requested⟩ ∧
        (requested = .like ↔ previous ≠ some .like) := by
  rcases requested with _ | _ <;> rcases previous with _ | (_ | _) <;>
    simp [Vote.decide, eq_comm]

namespace Voting

/-- The direction of the vote with so many votes before it. -/
def turn (n : Nat) : Direction :=
  if n % 2 = 0 then .like else .dislike

/-- Like, dislike, like and so on, so many votes. -/
def alternating (n : Nat) : List Direction :=
  (List.range n).map turn

/-- The directions of the accepted votes of a user on a post, in the order of their commits. -/
def votesOf (accepted : List Acceptance) (post user : Int64) : List Direction :=
  (accepted.filter fun a => a.change.post = post ∧ a.change.user = user).map (·.change.next)

theorem alternating_succ (n : Nat) : alternating (n + 1) = alternating n ++ [turn n] := by
  rw [alternating, List.range_succ, List.map_append]
  rfl

/-- A vote that may follow alternating ones is the next of them. -/
theorem alternating_concat {post user : Int64} {n : Nat} {requested : Direction} {c : Vote.Change}
    (h : Vote.decide post user (alternating n).getLast? requested = .ok c) :
    alternating n ++ [requested] = alternating (n + 1) := by
  have hr := (Vote.decide_eq_ok_iff.mp h).2
  have ht : requested = turn n := by
    cases n with
    | zero => exact hr.mpr (by simp [alternating])
    | succ n =>
      rw [alternating_succ, List.getLast?_concat, turn] at hr
      rw [turn]
      cases requested <;> split <;> split at hr <;> first | rfl | omega | simp at hr
  rw [alternating_succ, ht]

/-- Alternating votes without a dislike are at most one. -/
theorem length_le_one_of_alternating {votes : List Direction}
    (h : votes = alternating votes.length) (hl : Direction.dislike ∉ votes) : votes.length ≤ 1 := by
  by_contra hn
  apply hl
  rw [h, alternating, List.mem_map]
  exact ⟨1, List.mem_range.mpr (by omega), rfl⟩

/-- One more accepted vote counts for its user and its post only. -/
theorem votesOf_concat (accepted : List Acceptance) (a : Acceptance) (post user : Int64) :
    votesOf (accepted ++ [a]) post user =
      if a.change.post = post ∧ a.change.user = user then
        votesOf accepted post user ++ [a.change.next]
      else votesOf accepted post user := by
  rw [votesOf, List.filter_append, List.map_append, votesOf]
  split
  · next h => rw [List.filter_cons_of_pos (by simpa using h)]; rfl
  · next h => rw [List.filter_cons_of_neg (by simpa using h), List.filter_nil, List.map_nil,
      List.append_nil]

/-- An accepted vote is among the votes of its user on its post. -/
theorem mem_votesOf {accepted : List Acceptance} {a : Acceptance} (h : a ∈ accepted) :
    a.change.next ∈ votesOf accepted a.change.post a.change.user :=
  List.mem_map_of_mem (List.mem_filter.mpr ⟨h, by simp⟩)

/-- Votes do not get lost. -/
theorem votesOf_concat_ne_nil {accepted : List Acceptance} (a : Acceptance) {post user : Int64}
    (h : votesOf accepted post user ≠ []) : votesOf (accepted ++ [a]) post user ≠ [] := by
  rw [votesOf_concat]
  split
  · exact List.concat_ne_nil _ _
  · exact h

end Voting

end Forum
