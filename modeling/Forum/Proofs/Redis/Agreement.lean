import Mathlib
import Forum.Proofs.Engagement.Request
import Forum.Proofs.Redis.Calls
import Forum.Proofs.Service.Programs
import Forum.Proofs.Workflow

/-!
# The shared store and the tally agree

Voting and ranking on a store that a server keeps give the same replies as on a tally in the
process, request by request. The server executes each command and each script in one step, nobody
else uses the keys of the store, and scores stay within the whole numbers that the server's own
numbers hold exactly.
-/

namespace Forum.Redis

open Engagement (Tally Call Request)

/-- The server counts the members of a sorted set with a signed number of 64 bits, so no set has
more. -/
def Keyspace.Countable (k : Keyspace) : Prop :=
  ∀ key scores, k.scores? key = some scores → scores.size < 2 ^ 63

/-- Only keys that have a value matter. -/
instance (k : Keyspace) : Decidable k.Countable :=
  decidable_of_iff
    (k.values.toList.all fun entry => (k.scores? entry.1).all (·.size < 2 ^ 63)) <| by
    rw [List.all_eq_true]
    constructor
    · intro h key scores hs
      cases hv : k.values[key]? with
      | none =>
        rw [Keyspace.scores?, hv] at hs
        cases hs
        decide
      | some v =>
        have hall := h (key, v) (Std.ExtTreeMap.mem_toList_iff_getElem?_eq_some.2 hv)
        simpa [hs] using hall
    · intro h entry _
      cases hs : k.scores? entry.1 with
      | none => rfl
      | some scores => exact decide_eq_true (h entry.1 scores hs)

/-- A call of requests that come one after the other: its post is not negative, and what it commits
was decided against the recorded vote. -/
def Uncontested (t : Tally) : Call → Prop
  | .commitVote c => 0 ≤ c.post ∧ t.voteOf c.post c.user = c.previous
  | .adjustScore post delta => 0 ≤ post ∧ Exact delta
  | .voteOf post _ | .register post | .scoreOf post => 0 ≤ post
  | .topByScore .. | .cardinality => t.cardinality < 2 ^ 63
  | .remove _ => True

/-- A call that the server answers as the tally does. -/
structure Served (t : Tally) (c : Call) : Prop where
  /-- Scores are exact. -/
  before : ExactScores t
  /-- They stay exact. -/
  after : ExactScores (t.answer c).2
  /-- Nobody came in between. -/
  uncontested : Uncontested t c

namespace Store

variable {s : Store} {t : Tally} {k : Keyspace}

/-- The answer of the server to a call, and what it then keeps. -/
theorem answer_eq (hr : s.Represents t k) {c : Call} (hc : Served t c) :
    (s.answer k c).1 = .ok (t.answer c).1 ∧ s.Represents (t.answer c).2 (s.answer k c).2 := by
  obtain ⟨he, he', hu⟩ := hc
  cases c with
  | voteOf post user =>
    rw [answer_voteOf hr hu user]
    exact ⟨rfl, hr⟩
  | commitVote c => exact answer_commitVote hr he hu.1 hu.2
  | register post => exact answer_register hr hu
  | adjustScore post delta =>
    exact answer_adjustScore hr he hu.1 hu.2 (he' post _ (t.scoreOf_adjustScore post delta))
  | scoreOf post =>
    rw [answer_scoreOf hr he hu]
    exact ⟨rfl, hr⟩
  | topByScore offset limit =>
    rw [answer_topByScore hr hu offset limit]
    exact ⟨rfl, hr⟩
  | cardinality =>
    rw [answer_cardinality hr hu]
    exact ⟨rfl, hr⟩
  | remove post => exact answer_remove hr post

end Store

/-! ## Requests one after the other -/

/-- A question that the server answers as the tally does. -/
def ServedEffect (t : Tally) : Effect → Prop
  | .engagement _ call => Served t call
  | _ => False

/-- A workflow that asks a tally nothing but such questions. -/
def Smooth {α : Type} (w : Workflow α) (t : Tally) : Prop :=
  w.Along (Engagement.alone Tally.inProcess) ServedEffect t

/-- The tally after a workflow. -/
def final {α : Type} (w : Workflow α) (t : Tally) : Tally :=
  (w.run (Engagement.alone Tally.inProcess) t).2

section requests

variable {α : Type} {rules : Rules} {t : Tally} {post user : Int64}

/-- A call is as smooth as what goes on with the answer of the tally. -/
theorem smooth_ask {deadline : Nat} {c : Call} {next : Except Fault c.Reply → Workflow α}
    (hc : Served t c) (hn : Smooth (next (.ok (t.answer c).1)) (t.answer c).2) :
    Smooth (.ask (.engagement deadline c) next) t :=
  ⟨hc, hn⟩

theorem smooth_done (a : α) : Smooth (.done a) t :=
  trivial

/-- Asking for the score first changes nothing for what comes after it. -/
theorem smooth_afterScore {deadline : Nat} {w : Workflow (Except Fault α)} (hp : 0 ≤ post)
    (he : ExactScores t)
    (he' : ExactScores (final (.ask (.engagement deadline (.scoreOf post))
      (Ranking.afterScore post w)) t))
    (hw : ExactScores (final w t) → Smooth w t) :
    Smooth (.ask (.engagement deadline (.scoreOf post)) (Ranking.afterScore post w)) t := by
  refine smooth_ask ⟨he, he, hp⟩ ?_
  change ExactScores (final (Ranking.afterScore post w (.ok (t.scoreOf post))) t) at he'
  dsimp only [Tally.answer]
  cases hs : t.scoreOf post with
  | none => exact smooth_done _
  | some score =>
    rw [hs] at he'
    exact hw he'

/-- A vote on its own commits against the vote that it has just read. -/
theorem smooth_attempt {requested : Direction} {otherwise : Service Voting.Receipt} (hp : 0 ≤ post)
    (he : ExactScores t)
    (he' : ExactScores (final (Voting.attempt rules post user requested otherwise).run t)) :
    Smooth (Voting.attempt rules post user requested otherwise).run t := by
  rw [Voting.attempt_run] at he' ⊢
  refine smooth_ask ⟨he, he, hp⟩ ?_
  change ExactScores (final (Voting.afterRead rules post user requested otherwise.run
    (.ok (t.voteOf post user))) t) at he'
  dsimp only [Tally.answer]
  cases hd : Vote.decide post user (t.voteOf post user) requested with
  | error fault =>
    simp only [Voting.afterRead, hd]
    exact smooth_done _
  | ok c =>
    obtain rfl := Vote.decide_eq_ok hd
    have hc := Tally.commitVote_of_eq t (c := ⟨post, user, t.voteOf post user, requested⟩) rfl
    simp only [Voting.afterRead, hd] at he' ⊢
    change ExactScores (final (Voting.afterCommit post requested _ otherwise.run
      (.ok (t.commitVote ⟨post, user, t.voteOf post user, requested⟩).1))
        (t.commitVote ⟨post, user, t.voteOf post user, requested⟩).2) at he'
    rw [hc] at he'
    refine smooth_ask ⟨he, ?_, hp, rfl⟩ ?_
    · rw [Tally.answer, hc]
      exact he'
    · rw [Tally.answer, hc]
      exact smooth_done _

/-- A vote asks for nothing else but perhaps the score of its post. -/
theorem smooth_vote {requested : Direction} (hp : 0 ≤ post) (he : ExactScores t)
    (he' : ExactScores (final (Voting.vote rules post user requested).run t)) :
    Smooth (Voting.vote rules post user requested).run t := by
  have hattempts (retries : Nat)
      (h : ExactScores (final (Voting.attempts rules post user requested retries).run t)) :
      Smooth (Voting.attempts rules post user requested retries).run t := by
    cases retries <;> exact smooth_attempt hp he h
  cases hauto : rules.autoRegister with
  | true =>
    rw [Voting.vote_run_of_auto _ _ _ _ hauto] at he' ⊢
    exact hattempts _ he'
  | false =>
    rw [Voting.vote_run_of_registered _ _ _ _ hauto] at he' ⊢
    exact smooth_afterScore hp he he' (hattempts _)

theorem smooth_adjustScore {delta : Int64} (hp : 0 ≤ post) (hd : Exact delta) (he : ExactScores t)
    (he' : ExactScores (final (Ranking.adjustScore rules post delta).run t)) :
    Smooth (Ranking.adjustScore rules post delta).run t := by
  cases hauto : rules.autoRegister with
  | true =>
    rw [Ranking.adjustScore_run_of_auto _ _ _ hauto] at he' ⊢
    exact smooth_ask ⟨he, he', hp, hd⟩ (smooth_done _)
  | false =>
    rw [Ranking.adjustScore_run_of_registered _ _ _ hauto] at he' ⊢
    exact smooth_afterScore hp he he' fun h => smooth_ask ⟨he, h, hp, hd⟩ (smooth_done _)

theorem smooth_scoreOf (hp : 0 ≤ post) (he : ExactScores t) :
    Smooth (Ranking.scoreOf rules post).run t := by
  rw [Ranking.scoreOf_run]
  refine smooth_ask ⟨he, he, hp⟩ ?_
  dsimp only [Tally.answer]
  cases t.scoreOf post <;> exact smooth_done _

/-- Every request asks only what the server answers alike. -/
theorem smooth_service (q : Request) (hp : ∀ post ∈ q.post?, 0 ≤ post)
    (hd : ∀ delta ∈ q.delta?, Exact delta) (hc : t.cardinality < 2 ^ 63) (he : ExactScores t)
    (he' : ExactScores (final (q.service rules).run t)) : Smooth (q.service rules).run t := by
  cases q with
  | vote post user requested => exact smooth_vote (hp post rfl) he he'
  | checkVote post user => exact smooth_ask ⟨he, he, hp post rfl⟩ (smooth_done _)
  | register post => exact smooth_ask ⟨he, he', hp post rfl⟩ (smooth_done _)
  | adjustScore post delta => exact smooth_adjustScore (hp post rfl) (hd delta rfl) he he'
  | scoreOf post => exact smooth_scoreOf (hp post rfl) he
  | topByScore offset limit => exact smooth_ask ⟨he, he, hc⟩ (smooth_done _)
  | cardinality => exact smooth_ask ⟨he, he, hc⟩ (smooth_done _)
  | remove post => exact smooth_ask ⟨he, he', trivial⟩ (smooth_done _)

end requests

namespace Store

variable {s : Store} {t : Tally} {k : Keyspace}

/-- The reply to a request, and what the server then keeps. -/
theorem respond_eq (rules : Rules) (hr : s.Represents t k) (hc : k.Countable) {q : Request}
    (hp : ∀ post ∈ q.post?, 0 ≤ post) (hd : ∀ delta ∈ q.delta?, Exact delta) (he : ExactScores t)
    (he' : ExactScores (Engagement.respond rules Tally.inProcess q t).2) :
    (Engagement.respond rules s.answer q k).1 = (Engagement.respond rules Tally.inProcess q t).1 ∧
      s.Represents (Engagement.respond rules Tally.inProcess q t).2
        (Engagement.respond rules s.answer q k).2 := by
  have hcount : t.cardinality < 2 ^ 63 := by
    obtain ⟨scores, hs, -⟩ := hr.scores
    rw [← hr.size_eq hs]
    exact hc _ _ hs
  refine Workflow.run_eq_of_along (fun effect t k hlinked hserved => ?_) _ hr
    (smooth_service q hp hd hcount he he')
  cases effect with
  | engagement deadline call => exact answer_eq hlinked hserved
  | rows statement => exact hserved.elim
  | freshId => exact hserved.elim

/-- The replies to any further requests. -/
theorem replies_eq (rules : Rules) (hr : s.Represents t k) {requests : List Request}
    (hp : ∀ q ∈ requests, ∀ post ∈ q.post?, 0 ≤ post)
    (hd : ∀ q ∈ requests, ∀ delta ∈ q.delta?, Exact delta)
    (he : ∀ past, past <+: requests → ExactScores (Engagement.after rules Tally.inProcess past t))
    (hc : ∀ past, past <+: requests → (Engagement.after rules s.answer past k).Countable) :
    Engagement.replies rules s.answer requests k =
      Engagement.replies rules Tally.inProcess requests t := by
  induction requests generalizing t k with
  | nil => rfl
  | cons q rest ih =>
    have hfirst : [q] <+: q :: rest := List.prefix_cons_inj q |>.2 List.nil_prefix
    have hrest {past : List Request} (h : past <+: rest) : q :: past <+: q :: rest :=
      (List.prefix_cons_inj q).2 h
    obtain ⟨hreply, hr'⟩ := respond_eq rules hr (hc [] List.nil_prefix)
      (hp q List.mem_cons_self) (hd q List.mem_cons_self) (he [] List.nil_prefix) (he [q] hfirst)
    rw [Engagement.replies, Engagement.replies, hreply]
    refine congrArg _ (ih hr' ?_ ?_ ?_ ?_)
    · exact fun q' hq => hp q' (List.mem_cons_of_mem q hq)
    · exact fun q' hq => hd q' (List.mem_cons_of_mem q hq)
    · exact fun past h => he (q :: past) (hrest h)
    · exact fun past h => hc (q :: past) (hrest h)

/-- From empty stores both give the same reply to every request about posts that are not negative,
as long as deltas and scores are whole numbers that the numbers of the server hold exactly. -/
theorem backends_agree (rules : Rules) (hu : s.Unused k) {requests : List Request}
    (hp : ∀ q ∈ requests, ∀ post ∈ q.post?, 0 ≤ post)
    (hd : ∀ q ∈ requests, ∀ delta ∈ q.delta?, Exact delta)
    (he : ∀ past, past <+: requests →
      ExactScores (Engagement.after rules Tally.inProcess past .empty))
    (hc : ∀ past, past <+: requests → (Engagement.after rules s.answer past k).Countable) :
    Engagement.replies rules s.answer requests k =
      Engagement.replies rules Tally.inProcess requests .empty :=
  replies_eq rules hu.represents hp hd he hc

/-- A like, an adjustment of another post, a reversal of the like, a look at the ranking, a removal
and a count. -/
def visit : List Request :=
  [.vote 7 1 .like, .adjustScore 9 5, .vote 7 1 .dislike, .topByScore 0 10, .remove 9, .cardinality]

/-- On an empty server the visit meets all conditions. In the end the post with the reversed like is
ranked alone. -/
theorem backends_agree_on_visit :
    let rules : Rules := ⟨true, 2000, 4, ⟨20, 100⟩⟩
    let shared : Store := ⟨"forum"⟩
    shared.Unused .empty ∧
    Engagement.replies rules shared.answer visit .empty =
      Engagement.replies rules Tally.inProcess visit .empty ∧
    (Engagement.after rules Tally.inProcess visit .empty).ranked = [(7, -1)] := by
  intro rules shared
  have hu : shared.Unused .empty :=
    ⟨fun _ => Std.ExtTreeMap.getElem?_empty, Std.ExtTreeMap.getElem?_empty⟩
  have hp : ∀ q ∈ visit, ∀ post ∈ q.post?, 0 ≤ post := by
    simp [visit, Request.post?]
  have hd : ∀ q ∈ visit, ∀ delta ∈ q.delta?, Exact delta := by
    simp [visit, Request.delta?, Exact]
  have he : ∀ past ∈ visit.inits,
      ExactScores (Engagement.after rules Tally.inProcess past .empty) := by
    decide +kernel
  have hc : ∀ past ∈ visit.inits, (Engagement.after rules shared.answer past .empty).Countable := by
    decide +kernel
  refine ⟨hu, backends_agree rules hu hp hd ?_ ?_, by decide⟩
  · exact fun past h => he past ((List.mem_inits past visit).2 h)
  · exact fun past h => hc past ((List.mem_inits past visit).2 h)

end Store

end Forum.Redis
