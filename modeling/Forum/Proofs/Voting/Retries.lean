import Mathlib
import Forum.Proofs.Voting.Poll
import Forum.Proofs.Workflow

/-!
# Votes on any store

A vote on an engagement store that answers as it likes: with any votes and scores, with conflicts,
and with faults, among them those of a deadline that has passed. `Course` lists all transcripts that
the program of a vote can have, each with its result, and `Attempts` does so for what is left of it
with some attempts to go. What a vote does in every case is read off these lists: it commits at most
once per attempt, on top of what it has just read, and it stops at the first answer that settles it.
Nothing is said about what such a store does with a commit.
-/

namespace Forum.Voting

open Engagement (Outcome)
open Workflow (Exchange)

namespace Ballot

variable (b : Ballot)

/-- The question whether the post is registered, with its answer. -/
def asked (reply : Except Fault (Option Int64)) : Exchange :=
  ⟨.engagement b.rules.deadline (.scoreOf b.post), reply⟩

/-- The question for the recorded vote, with its answer. -/
def read (reply : Except Fault (Option Direction)) : Exchange :=
  ⟨.engagement b.rules.deadline (.voteOf b.post b.user), reply⟩

/-- A commit, with its answer. -/
def commit (change : Vote.Change) (reply : Except Fault Outcome) : Exchange :=
  ⟨.engagement b.rules.deadline (.commitVote change), reply⟩

/-- What the policy says to the request when the given vote is recorded. -/
def decide (previous : Option Direction) : Except Fault Vote.Change :=
  Vote.decide b.post b.user previous b.direction

/-- The fault of a vote that met another one in all its attempts. -/
def gaveUp : Fault :=
  .conflict s!"Vote on post {b.post} kept conflicting"

/-- The receipt for a change that was committed. -/
def receipt (change : Vote.Change) (score : Int64) : Receipt :=
  ⟨b.post, b.direction, change.delta, score⟩

/-- What a vote can ask, be answered and end in, with so many attempts to go. -/
inductive Attempts : Nat → List Exchange → Except Fault Receipt → Prop
  /-- There is no attempt left. -/
  | exhausted : Attempts 0 [] (.error b.gaveUp)
  /-- The recorded vote cannot be read. -/
  | unread (left : Nat) (fault : Fault) :
    Attempts (left + 1) [b.read (.error fault)] (.error fault)
  /-- The request is refused because of the recorded vote. -/
  | refused (left : Nat) {previous : Option Direction} {fault : Fault}
    (h : b.decide previous = .error fault) :
    Attempts (left + 1) [b.read (.ok previous)] (.error fault)
  /-- The change cannot be committed. -/
  | failed (left : Nat) {previous : Option Direction} {change : Vote.Change}
    (h : b.decide previous = .ok change) (fault : Fault) :
    Attempts (left + 1) [b.read (.ok previous), b.commit change (.error fault)] (.error fault)
  /-- The change is committed. -/
  | committed (left : Nat) {previous : Option Direction} {change : Vote.Change}
    (h : b.decide previous = .ok change) (score : Int64) :
    Attempts (left + 1) [b.read (.ok previous), b.commit change (.ok (.committed score))]
      (.ok (b.receipt change score))
  /-- The change meets another vote, and there is one attempt less to go. -/
  | conflicted {left : Nat} {previous : Option Direction} {change : Vote.Change}
    (h : b.decide previous = .ok change) {log : List Exchange} {result : Except Fault Receipt}
    (rest : Attempts left log result) :
    Attempts (left + 1) (b.read (.ok previous) :: b.commit change (.ok .conflict) :: log) result

/-- What a vote can ask, be answered and end in. -/
inductive Course : List Exchange → Except Fault Receipt → Prop
  /-- Posts need not be registered. -/
  | auto {log : List Exchange} {result : Except Fault Receipt}
    (h : b.Attempts (b.rules.maxRetries + 1) log result) : Course log result
  /-- The score cannot be read. -/
  | unasked (fault : Fault) : Course [b.asked (.error fault)] (.error fault)
  /-- The post is not registered. -/
  | unknown : Course [b.asked (.ok none)] (.error (.postNotFound b.post))
  /-- The post is registered. -/
  | known (score : Int64) {log : List Exchange} {result : Except Fault Receipt}
    (h : b.Attempts (b.rules.maxRetries + 1) log result) :
    Course (b.asked (.ok (some score)) :: log) result

variable {b} {σ : Type} (answer : (e : Effect) → σ → Except Fault e.Reply × σ)

/-- What is left of a vote with some attempts to go takes one of the listed ways. -/
theorem attempts_afterConflict (left : Nat) (s : σ) :
    b.Attempts left ((b.afterConflict left).transcript answer s)
      ((b.afterConflict left).run answer s).1 := by
  induction left generalizing s with
  | zero => exact .exhausted
  | succ left ih =>
    rw [afterConflict, attempts_run, Stage.program, Workflow.transcript_ask, Workflow.run_ask]
    rcases answer (.engagement b.rules.deadline (.voteOf b.post b.user)) s with
      ⟨fault | previous, s⟩
    · exact .unread left fault
    · dsimp only [afterRead]
      cases hd : Vote.decide b.post b.user previous b.direction with
      | error fault => exact .refused left hd
      | ok change =>
        dsimp only
        rw [Workflow.transcript_ask, Workflow.run_ask]
        rcases answer (.engagement b.rules.deadline (.commitVote change)) s with
          ⟨fault | score | _, s⟩
        · exact .failed left hd fault
        · exact .committed left hd score
        · exact .conflicted hd (ih s)

/-- A vote takes one of the listed courses, whatever it is answered. -/
theorem course_program (b : Ballot) (s : σ) :
    b.Course (b.program.transcript answer s) (b.program.run answer s).1 := by
  -- All attempts of a vote are what is left of it with one attempt more than it may repeat.
  have hall : ∀ s, b.Attempts (b.rules.maxRetries + 1)
      ((attempts b.rules b.post b.user b.direction b.rules.maxRetries).run.transcript answer s)
      ((attempts b.rules b.post b.user b.direction b.rules.maxRetries).run.run answer s).1 :=
    attempts_afterConflict answer (b.rules.maxRetries + 1)
  rw [program_eq, first]
  cases hauto : b.rules.autoRegister with
  | true =>
    rw [if_pos rfl, ← attempts_run]
    exact .auto (hall s)
  | false =>
    rw [if_neg Bool.false_ne_true, Stage.program, Workflow.transcript_ask, Workflow.run_ask]
    rcases answer (.engagement b.rules.deadline (.scoreOf b.post)) s with ⟨fault | _ | score, s⟩
    · exact .unasked fault
    · exact .unknown
    · exact .known score (hall s)

end Ballot

/-! ## What all courses have in common -/

/-- The change of a commit and its answer. -/
def commit? : Exchange → Option (Vote.Change × Except Fault Outcome)
  | ⟨.engagement _ (.commitVote change), reply⟩ => some (change, reply)
  | _ => none

/-- The commits of a transcript. -/
def commits (log : List Exchange) : List (Vote.Change × Except Fault Outcome) :=
  log.filterMap commit?

namespace Ballot

variable (b : Ballot)

/-- What an answer settles a vote with: a fault is passed on, a change that is committed gets its
receipt, a recorded vote may be a reason to refuse the request, and so is a post without a score
that has to be registered. Other answers leave the vote open. -/
def settled? : Exchange → Option (Except Fault Receipt)
  | ⟨.engagement _ (.commitVote change), .ok (.committed score)⟩ =>
    some (.ok (b.receipt change score))
  | ⟨.engagement _ (.voteOf ..), .ok previous⟩ =>
    match b.decide previous with
    | .error fault => some (.error fault)
    | .ok _ => none
  | ⟨.engagement _ (.scoreOf _), .ok none⟩ => some (.error (.postNotFound b.post))
  | ⟨_, .error fault⟩ => some (.error fault)
  | _ => none

/-- What a commit has to do with the exchange right before it: that was the look at the vote that
the change carries, and on top of which the policy accepts the request. -/
def Prepares (x y : Exchange) : Prop :=
  ∀ change reply, commit? y = some (change, reply) →
    ∃ previous, x = b.read (.ok previous) ∧ b.decide previous = .ok change

/-- What two exchanges in a row have to do with each other. -/
structure Linked (x y : Exchange) : Prop where
  /-- The first one has left the vote open. -/
  leaves_open : b.settled? x = none
  /-- If the second one is a commit, the first one has prepared it. -/
  prepares : b.Prepares x y

variable {b} {left : Nat} {log : List Exchange} {result : Except Fault Receipt}

/-- A recorded vote on top of which the request is accepted leaves the vote open. -/
theorem settled?_read_of_ok {previous : Option Direction} {change : Vote.Change}
    (h : b.decide previous = .ok change) : b.settled? (b.read (.ok previous)) = none := by
  simp only [read, settled?, h]

/-- One because of which it is refused settles it. -/
theorem settled?_read_of_error {previous : Option Direction} {fault : Fault}
    (h : b.decide previous = .error fault) :
    b.settled? (b.read (.ok previous)) = some (.error fault) := by
  simp only [read, settled?, h]

/-- A look at the vote on top of which the request is accepted may come right before its commit. -/
theorem linked_read_commit {previous : Option Direction} {change : Vote.Change}
    (h : b.decide previous = .ok change) (reply : Except Fault Outcome) :
    b.Linked (b.read (.ok previous)) (b.commit change reply) := by
  refine ⟨settled?_read_of_ok h, fun other reply' hcommit => ⟨previous, rfl, ?_⟩⟩
  obtain ⟨rfl, -⟩ : change = other ∧ reply = reply' := by
    simpa only [commit, commit?, Option.some_inj, Prod.mk.injEq] using hcommit
  exact h

/-- What is left of a vote does not begin with a commit. -/
theorem Attempts.head_ne_commit (h : b.Attempts left log result) :
    ∀ x ∈ log.head?, commit? x = none := by
  intro x hx
  cases h <;> simp only [List.head?_nil, List.head?_cons, Option.mem_def, Option.some_inj,
    reduceCtorEq] at hx <;> subst hx <;> rfl

/-- An exchange that leaves a vote open may come right before what is left of the vote. -/
theorem Attempts.linked_head (h : b.Attempts left log result) {x : Exchange}
    (hx : b.settled? x = none) : ∀ y ∈ log.head?, b.Linked x y := by
  refine fun y hy => ⟨hx, fun change reply hcommit => ?_⟩
  rw [h.head_ne_commit y hy] at hcommit
  cases hcommit

/-- The exchanges of what is left of a vote fit each other. -/
theorem Attempts.linked (h : b.Attempts left log result) : log.IsChain b.Linked := by
  induction h with
  | exhausted => exact .nil
  | unread | refused => exact .singleton _
  | failed left hd fault => exact .cons_cons (linked_read_commit hd _) (.singleton _)
  | committed left hd score => exact .cons_cons (linked_read_commit hd _) (.singleton _)
  | conflicted hd rest ih =>
    exact .cons_cons (linked_read_commit hd _) (List.isChain_cons.2 ⟨rest.linked_head rfl, ih⟩)

/-- There is at most one commit for each attempt to go. -/
theorem Attempts.commits_le (h : b.Attempts left log result) : (commits log).length ≤ left := by
  induction h with
  | exhausted => exact Nat.le_refl 0
  | unread left | refused left => exact Nat.zero_le _
  | failed left | committed left => exact Nat.succ_le_succ (Nat.zero_le left)
  | conflicted hd rest ih => exact Nat.succ_le_succ ih

/-- What the last answer of a transcript settles a vote with. -/
def ending? (b : Ballot) (log : List Exchange) : Option (Except Fault Receipt) :=
  log.getLast?.bind b.settled?

/-- An exchange that leaves a vote open does not decide how a transcript ends. -/
theorem ending?_cons {x : Exchange} (hx : b.settled? x = none) (log : List Exchange) :
    b.ending? (x :: log) = b.ending? log := by
  cases log with
  | nil => exact hx
  | cons y log => rw [ending?, List.getLast?_cons_cons, ending?]

/-- What is left of a vote ends in what its last answer settles it with, or it is given up. -/
theorem Attempts.result_eq (h : b.Attempts left log result) :
    result = (b.ending? log).getD (.error b.gaveUp) := by
  induction h with
  | exhausted | unread | failed | committed => rfl
  | refused left hd =>
    exact congrArg (Option.getD · (Except.error b.gaveUp)) (settled?_read_of_error hd).symm
  | conflicted hd rest ih => rw [ending?_cons (settled?_read_of_ok hd), ending?_cons rfl, ih]

/-- If no answer settles it, all attempts have met another vote. -/
theorem Attempts.all_conflict (h : b.Attempts left log result) (hopen : b.ending? log = none) :
    (commits log).map Prod.snd = List.replicate left (.ok .conflict) := by
  induction h with
  | exhausted => rfl
  | unread | failed | committed => cases hopen
  | refused left hd => cases (settled?_read_of_error hd).symm.trans hopen
  | conflicted hd rest ih =>
    rw [ending?_cons (settled?_read_of_ok hd), ending?_cons rfl] at hopen
    exact congrArg (Except.ok Outcome.conflict :: ·) (ih hopen)

/-- If all attempts have met another vote, the vote is given up. -/
theorem Attempts.gives_up (h : b.Attempts left log result)
    (hall : (commits log).map Prod.snd = List.replicate left (.ok .conflict)) :
    result = .error b.gaveUp := by
  induction h with
  | exhausted => rfl
  | unread | refused => cases hall
  | failed | committed => cases (List.cons.inj hall).1
  | conflicted hd rest ih => exact ih (List.cons.inj hall).2

/-- What is left of a vote asks for the recorded vote and for commits only. -/
theorem Attempts.asks (h : b.Attempts left log result) {x : Exchange} (hx : x ∈ log) :
    (∃ reply, x = b.read reply) ∨ ∃ change reply, x = b.commit change reply := by
  induction h with
  | exhausted => cases hx
  | unread | refused => exact .inl ⟨_, List.mem_singleton.1 hx⟩
  | failed | committed =>
    rcases List.mem_cons.1 hx with hread | hcommit
    · exact .inl ⟨_, hread⟩
    · exact .inr ⟨_, _, List.mem_singleton.1 hcommit⟩
  | conflicted hd rest ih =>
    rcases List.mem_cons.1 hx with hread | hlater
    · exact .inl ⟨_, hread⟩
    · rcases List.mem_cons.1 hlater with hcommit | hrest
      · exact .inr ⟨_, _, hcommit⟩
      · exact ih hrest

namespace Course

/-- A vote asks for the score of its post, for the recorded vote and for commits only. -/
theorem asks (h : b.Course log result) {x : Exchange} (hx : x ∈ log) :
    (∃ reply, x = b.asked reply) ∨ (∃ reply, x = b.read reply) ∨
      ∃ change reply, x = b.commit change reply := by
  cases h with
  | auto h => exact .inr (h.asks hx)
  | unasked | unknown => exact .inl ⟨_, List.mem_singleton.1 hx⟩
  | known score h =>
    rcases List.mem_cons.1 hx with hasked | hrest
    · exact .inl ⟨_, hasked⟩
    · exact .inr (h.asks hrest)

/-- It does not begin with a commit. -/
theorem head_ne_commit (h : b.Course log result) : ∀ x ∈ log.head?, commit? x = none := by
  cases h with
  | auto h => exact h.head_ne_commit
  | unasked | unknown | known =>
    intro x hx
    obtain rfl := Option.some.inj hx
    rfl

/-- Its exchanges fit each other. -/
theorem linked (h : b.Course log result) : log.IsChain b.Linked := by
  cases h with
  | auto h => exact h.linked
  | unasked | unknown => exact .singleton _
  | known score h => exact List.isChain_cons.2 ⟨h.linked_head rfl, h.linked⟩

/-- It commits at most once more than it may be repeated. -/
theorem commits_le (h : b.Course log result) :
    (commits log).length ≤ b.rules.maxRetries + 1 := by
  cases h with
  | auto h => exact h.commits_le
  | unasked | unknown => exact Nat.zero_le _
  | known score h => exact h.commits_le

/-- It ends in what its last answer settles it with, or it is given up. -/
theorem result_eq (h : b.Course log result) :
    result = (b.ending? log).getD (.error b.gaveUp) := by
  cases h with
  | auto h => exact h.result_eq
  | unasked | unknown => rfl
  | known score h => rw [ending?_cons rfl, ← h.result_eq]

/-- If no answer settles it, all its attempts have met another vote. -/
theorem all_conflict (h : b.Course log result) (hopen : b.ending? log = none) :
    (commits log).map Prod.snd = List.replicate (b.rules.maxRetries + 1) (.ok .conflict) := by
  cases h with
  | auto h => exact h.all_conflict hopen
  | unasked | unknown => cases hopen
  | known score h => exact h.all_conflict ((ending?_cons rfl _).symm.trans hopen)

/-- If all its attempts have met another vote, it is given up. -/
theorem gives_up (h : b.Course log result) (hall : (commits log).map Prod.snd =
    List.replicate (b.rules.maxRetries + 1) (.ok .conflict)) : result = .error b.gaveUp := by
  cases h with
  | auto h => exact h.gives_up hall
  | unasked | unknown => cases hall
  | known score h => exact h.gives_up hall

/-- After an answer that settles it nothing is asked. -/
theorem stops (h : b.Course log result) {before after : List Exchange} {x : Exchange}
    (hlog : log = before ++ x :: after) (hx : b.settled? x ≠ none) : after = [] := by
  cases after with
  | nil => rfl
  | cons y after =>
    have hlinked := (List.isChain_append_cons_cons.1 (hlog ▸ h.linked)).2.1
    exact absurd hlinked.leaves_open hx

/-- Right before a commit its change was prepared. -/
theorem reads_first (h : b.Course log result) {before after : List Exchange} {x : Exchange}
    (hlog : log = before ++ x :: after) {change : Vote.Change} {reply : Except Fault Outcome}
    (hx : commit? x = some (change, reply)) : ∃ earlier previous,
      before = earlier ++ [b.read (.ok previous)] ∧ b.decide previous = .ok change := by
  subst hlog
  rcases List.eq_nil_or_concat before with rfl | ⟨earlier, y, rfl⟩
  · rw [h.head_ne_commit x rfl] at hx
    cases hx
  · have hchain := h.linked
    rw [List.concat_eq_append, List.append_assoc, List.singleton_append,
      List.isChain_append_cons_cons] at hchain
    obtain ⟨previous, rfl, hd⟩ := hchain.2.1.prepares change reply hx
    exact ⟨earlier, previous, List.concat_eq_append, hd⟩

/-- An answer that settles it is the last one and decides its result. -/
theorem of_settled (h : b.Course log result) {x : Exchange} (hx : x ∈ log)
    {settled : Except Fault Receipt} (hs : b.settled? x = some settled) :
    log.getLast? = some x ∧ result = settled := by
  obtain ⟨before, after, rfl⟩ := List.append_of_mem hx
  obtain rfl := h.stops rfl (by rw [hs]; exact Option.some_ne_none _)
  have hlast : (before ++ [x]).getLast? = some x := List.getLast?_concat
  rw [h.result_eq, ending?, hlast, Option.bind_some, hs]
  exact ⟨rfl, rfl⟩

/-- The exchange that decides its result, unless it was given up. -/
theorem settled_or_all_conflict (h : b.Course log result) :
    (∃ x ∈ log, log.getLast? = some x ∧ b.settled? x = some result) ∨
      result = .error b.gaveUp ∧
        (commits log).map Prod.snd = List.replicate (b.rules.maxRetries + 1) (.ok .conflict) := by
  have hresult := h.result_eq
  cases hending : b.ending? log with
  | none =>
    rw [hending] at hresult
    exact .inr ⟨hresult, h.all_conflict hending⟩
  | some settled =>
    obtain ⟨x, hlast, hx⟩ := Option.bind_eq_some_iff.1 hending
    rw [hending, Option.getD_some] at hresult
    exact .inl ⟨x, List.mem_of_getLast? hlast, hlast, hresult ▸ hx⟩

end Course

/-- A vote that never counts twice: what a transcript and the result of a vote have to do with each
other. -/
structure Disciplined (b : Ballot) (log : List Exchange) (result : Except Fault Receipt) :
    Prop where
  /-- There is at most one commit more than a vote may be repeated. -/
  commits_le : (commits log).length ≤ b.rules.maxRetries + 1
  /-- Right before a commit the recorded vote was read. The change carries that vote, and on top of
  it the policy accepts the request. -/
  reads_first : ∀ {before after x change reply}, log = before ++ x :: after →
    commit? x = some (change, reply) → ∃ earlier previous,
      before = earlier ++ [b.read (.ok previous)] ∧ b.decide previous = .ok change ∧
        change = b.change previous
  /-- After an answer that settles the vote nothing is asked: after a fault, after a change that was
  committed and after a recorded vote because of which the policy refuses the request. -/
  stops : ∀ {before x after}, log = before ++ x :: after → b.settled? x ≠ none → after = []
  /-- There is a receipt if and only if the last answer is that a change was committed, and it shows
  the delta of that change and the score of that answer. -/
  receipt_iff : ∀ receipt, result = .ok receipt ↔ ∃ change score,
    log.getLast? = some (b.commit change (.ok (.committed score))) ∧
      receipt = b.receipt change score
  /-- A fault of the store is passed on as it is. -/
  faults : ∀ {e fault}, ⟨e, .error fault⟩ ∈ log → result = .error fault
  /-- A conflict that is not a fault of the store is reported after one conflict more than a vote
  may be repeated. -/
  conflict : ∀ {reason}, result = .error (.conflict reason) →
    (∃ e, log.getLast? = some ⟨e, .error (.conflict reason)⟩) ∨ Fault.conflict reason = b.gaveUp ∧
      (commits log).map Prod.snd = List.replicate (b.rules.maxRetries + 1) (.ok .conflict)
  /-- After so many conflicts it is reported. -/
  gives_up :
    (commits log).map Prod.snd = List.replicate (b.rules.maxRetries + 1) (.ok .conflict) →
      result = .error b.gaveUp

/-- The answers that can settle a vote. -/
inductive Settles (b : Ballot) : Exchange → Except Fault Receipt → Prop
  /-- A fault of the store. -/
  | fault (e : Effect) (fault : Fault) : Settles b ⟨e, .error fault⟩ (.error fault)
  /-- No score of a post that has to be registered. -/
  | unknown : Settles b (b.asked (.ok none)) (.error (.postNotFound b.post))
  /-- A recorded vote because of which the policy refuses the request. -/
  | refused {previous : Option Direction} {fault : Fault} (h : b.decide previous = .error fault) :
    Settles b (b.read (.ok previous)) (.error fault)
  /-- A change that is committed. -/
  | committed (change : Vote.Change) (score : Int64) :
    Settles b (b.commit change (.ok (.committed score))) (.ok (b.receipt change score))

/-- A fault of the store settles a vote, whatever was asked. -/
theorem settled?_of_error (b : Ballot) (e : Effect) (fault : Fault) :
    b.settled? ⟨e, .error fault⟩ = some (.error fault) := by
  rcases e with ⟨_, _ | _ | _ | _ | _ | _ | _ | _⟩ | _ | _ <;> rfl

/-- The policy does not report a conflict. -/
theorem decide_ne_conflict (b : Ballot) (previous : Option Direction) (reason : String) :
    b.decide previous ≠ .error (.conflict reason) := by
  unfold decide Vote.decide
  split <;> simp

namespace Course

/-- An answer that settles it is one of the four that can. -/
theorem settles (h : b.Course log result) {x : Exchange} (hx : x ∈ log)
    {settled : Except Fault Receipt} (hs : b.settled? x = some settled) : b.Settles x settled := by
  rcases h.asks hx with ⟨reply, rfl⟩ | ⟨reply, rfl⟩ | ⟨change, reply, rfl⟩
  · rcases reply with fault | _ | score
    · cases hs; exact .fault _ fault
    · cases hs; exact .unknown
    · cases hs
  · rcases reply with fault | previous
    · cases hs; exact .fault _ fault
    · cases hd : b.decide previous with
      | error fault => cases (settled?_read_of_error hd).symm.trans hs; exact .refused hd
      | ok change => cases (settled?_read_of_ok hd).symm.trans hs
  · rcases reply with fault | score | _
    · cases hs; exact .fault _ fault
    · cases hs; exact .committed change score
    · cases hs

/-- A receipt comes from a change that was committed, and from nothing else. -/
theorem receipt_iff (h : b.Course log result) (receipt : Receipt) :
    result = .ok receipt ↔ ∃ change score,
      log.getLast? = some (b.commit change (.ok (.committed score))) ∧
        receipt = b.receipt change score := by
  constructor
  · rintro rfl
    rcases h.settled_or_all_conflict with ⟨x, hx, hlast, hs⟩ | ⟨hgaveUp, -⟩
    · cases h.settles hx hs with
      | committed change score => exact ⟨change, score, hlast, rfl⟩
    · cases hgaveUp
  · rintro ⟨change, score, hlast, rfl⟩
    exact (h.of_settled (List.mem_of_getLast? hlast) rfl).2

/-- A conflict is reported because the store has reported it, or because all attempts have met
another vote. -/
theorem of_conflict (h : b.Course log result) {reason : String}
    (hr : result = .error (.conflict reason)) :
    (∃ e, log.getLast? = some ⟨e, .error (.conflict reason)⟩) ∨ Fault.conflict reason = b.gaveUp ∧
      (commits log).map Prod.snd = List.replicate (b.rules.maxRetries + 1) (.ok .conflict) := by
  subst hr
  rcases h.settled_or_all_conflict with ⟨x, hx, hlast, hs⟩ | ⟨hgaveUp, hall⟩
  · cases h.settles hx hs with
    | fault e => exact .inl ⟨e, hlast⟩
    | refused hd => exact absurd hd (b.decide_ne_conflict _ reason)
  · exact .inr ⟨Except.error.inj hgaveUp, hall⟩

end Course

/-- A vote on any store, under any rules and whatever it is answered, never counts twice. -/
theorem vote_never_counts_twice (b : Ballot) (s : σ) :
    b.Disciplined (b.program.transcript answer s) (b.program.run answer s).1 := by
  have h := b.course_program answer s
  refine ⟨h.commits_le, fun hlog hx => ?_, h.stops, h.receipt_iff, fun he => ?_, h.of_conflict,
    h.gives_up⟩
  · obtain ⟨earlier, previous, hbefore, hd⟩ := h.reads_first hlog hx
    exact ⟨earlier, previous, hbefore, hd, Vote.decide_eq_ok hd⟩
  · exact (h.of_settled he (b.settled?_of_error _ _)).2

end Ballot

end Forum.Voting
