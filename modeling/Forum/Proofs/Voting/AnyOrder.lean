import Mathlib
import Forum.Proofs.Voting.Policy
import Forum.Proofs.World.Services

/-!
# Votes in any order

Votes that are cast one after the other, no two of them by the same user on the same post. Each of
them is decided by the recorded vote of its user, which no other one of them touches, and by whether
its post is known, which an earlier vote can change only where that does not matter. So a vote gets
the same verdict after the others as before them, up to the score, and two of them leave the same
store in either order. From two votes this carries over to all orders of any number of them.
-/

namespace Forum

namespace Engagement

/-- Changes of the votes of two users can be recorded in either order. -/
theorem Entry.record_comm (e : Entry) {c d : Vote.Change} (h : c.user ≠ d.user) :
    (e.record c).record d = (e.record d).record c := by
  have hscore : e.score + c.delta + d.delta = e.score + d.delta + c.delta := by
    rw [Int64.add_assoc, Int64.add_comm c.delta, ← Int64.add_assoc]
  have hvotes := FiniteMap.insert_comm e.votes h c.next d.next
  rw [Entry.record, Entry.record, Entry.record, Entry.record, hscore, hvotes]

namespace Tally

variable (t : Tally)

/-- The store with a change of a vote recorded. -/
def record (c : Vote.Change) : Tally :=
  t.put c.post ((t.entry c.post).record c)

/-- Changes of different votes can be recorded in either order. -/
theorem record_comm {c d : Vote.Change} (h : c.post = d.post → c.user ≠ d.user) :
    (t.record c).record d = (t.record d).record c := by
  by_cases hpost : c.post = d.post
  · have hentry := (t.entry d.post).record_comm (h hpost)
    simp only [record, hpost, entry_put, if_true, put_put, hentry]
  · simp only [record, entry_put, if_neg hpost, if_neg (Ne.symm hpost)]
    exact t.put_comm hpost _ _

end Tally

end Engagement

namespace Voting

open Engagement (Tally)

/-- What a receipt says besides the score. -/
def Receipt.terms (r : Receipt) : Int64 × Direction × Int64 :=
  (r.post, r.direction, r.delta)

namespace Ballot

/-- Whose vote it is on which post. -/
def key (b : Ballot) : Int64 × Int64 :=
  (b.post, b.user)

/-- What the rules and the recorded state say about a vote. -/
def verdict (b : Ballot) (t : Tally) : Except Fault Receipt :=
  Voting.verdict b.rules t b.post b.user b.direction

/-- The store that a vote leaves. -/
def left (b : Ballot) (t : Tally) : Tally :=
  if (b.verdict t).isOk then t.record (b.change (t.voteOf b.post b.user)) else t

/-- Two votes that do not touch each other: they are of different users or on different posts, and
unknown posts are treated alike. -/
structure Apart (b c : Ballot) : Prop where
  /-- No vote of one user on one post is cast twice. -/
  users : b.post = c.post → b.user ≠ c.user
  /-- Both register unknown posts, or neither does. -/
  rules : b.rules.autoRegister = c.rules.autoRegister

theorem apart_of_key_ne {b c : Ballot} (hkey : b.key ≠ c.key)
    (hrules : b.rules.autoRegister = c.rules.autoRegister) : b.Apart c :=
  ⟨fun hpost huser => hkey (Prod.ext hpost huser), hrules⟩

theorem Apart.symm {b c : Ballot} (h : b.Apart c) : c.Apart b :=
  ⟨fun hpost => (h.users hpost.symm).symm, h.rules.symm⟩

/-- A vote answers its verdict and leaves its store. -/
theorem run_program (b : Ballot) (w : World) :
    w.run b.program = (b.verdict w.tally, { w with tally := b.left w.tally }) := by
  rw [left]
  cases hv : b.verdict w.tally with
  | error fault => exact run_vote_of_refused b.rules b.post b.user b.direction w hv
  | ok receipt => exact (run_vote_of_ok b.rules b.post b.user b.direction w hv).2

/-! ## Two votes -/

/-- The verdict on a vote goes by the score of its post and by the recorded vote. -/
theorem verdict_congr {b : Ballot} {t t' : Tally} (hscore : t'.scoreOf b.post = t.scoreOf b.post)
    (hvote : t'.voteOf b.post b.user = t.voteOf b.post b.user) : b.verdict t' = b.verdict t := by
  rw [verdict, Voting.verdict, hscore, hvote]
  rfl

/-- Up to the score it goes by the recorded vote and by whether the post is known. -/
theorem terms_verdict (b : Ballot) (t : Tally) : (b.verdict t).map Receipt.terms =
    if b.rules.autoRegister = false ∧ t.scoreOf b.post = none then .error (.postNotFound b.post)
    else (Vote.decide b.post b.user (t.voteOf b.post b.user) b.direction).map fun change =>
      (b.post, b.direction, change.delta) := by
  rw [verdict, Voting.verdict, decide_eq]
  split
  · rfl
  · split
    · rfl
    · split <;> rfl

/-- A vote on another post leaves the score of a post. -/
theorem scoreOf_left_of_ne {post : Int64} {c : Ballot} (t : Tally) (h : post ≠ c.post) :
    (c.left t).scoreOf post = t.scoreOf post := by
  rw [left]
  split
  · rw [Tally.record, Tally.scoreOf_put]
    exact if_neg h
  · rfl

/-- A vote makes no post known where posts are not registered automatically. -/
theorem scoreOf_left_eq_none_iff {c : Ballot} (t : Tally) (hauto : c.rules.autoRegister = false)
    (post : Int64) : (c.left t).scoreOf post = none ↔ t.scoreOf post = none := by
  by_cases hpost : post = c.post
  · subst hpost
    by_cases hnone : t.scoreOf c.post = none
    · have hrefused : c.verdict t = .error (.postNotFound c.post) := if_pos ⟨hauto, hnone⟩
      rw [left, hrefused]
      rfl
    · rw [left]
      split
      · rw [Tally.record, Tally.scoreOf_put, if_pos (by rfl)]
        exact iff_of_false (Option.some_ne_none _) hnone
      · rfl
  · rw [scoreOf_left_of_ne t hpost]

variable {b c : Ballot} (h : b.Apart c) (t : Tally)

include h

/-- A vote leaves the recorded vote of another one. -/
theorem Apart.voteOf_left : (c.left t).voteOf b.post b.user = t.voteOf b.post b.user := by
  rw [left]
  split
  · rw [Tally.record, Tally.voteOf_put_record, if_neg fun hsame => h.users hsame.1 hsame.2]
  · rfl

/-- A vote gets the same verdict after another one as before it, up to the score. -/
theorem Apart.terms_left :
    (b.verdict (c.left t)).map Receipt.terms = (b.verdict t).map Receipt.terms := by
  have hknown : b.rules.autoRegister = false ∧ (c.left t).scoreOf b.post = none ↔
      b.rules.autoRegister = false ∧ t.scoreOf b.post = none :=
    and_congr_right fun hauto => scoreOf_left_eq_none_iff t (h.rules ▸ hauto) b.post
  rw [terms_verdict, terms_verdict, h.voteOf_left]
  exact if_congr hknown rfl rfl

/-- It is accepted after the other one if it is accepted before it. -/
theorem Apart.isOk_left : (b.verdict (c.left t)).isOk = (b.verdict t).isOk := by
  have hterms := congrArg Except.isOk (h.terms_left t)
  cases hafter : b.verdict (c.left t) <;> cases hbefore : b.verdict t <;>
    rw [hafter, hbefore] at hterms <;> exact hterms

/-- Two votes leave the same store in either order. -/
theorem Apart.left_left : b.left (c.left t) = c.left (b.left t) := by
  have hb : b.left (c.left t) =
      if (b.verdict t).isOk then (c.left t).record (b.change (t.voteOf b.post b.user))
      else c.left t := by
    rw [left, h.isOk_left, h.voteOf_left]
  have hc : c.left (b.left t) =
      if (c.verdict t).isOk then (b.left t).record (c.change (t.voteOf c.post c.user))
      else b.left t := by
    rw [left, h.symm.isOk_left, h.symm.voteOf_left]
  rw [hb, hc, left, left]
  by_cases hbok : (b.verdict t).isOk <;> by_cases hcok : (c.verdict t).isOk
  · simp only [hbok, hcok, if_true]
    exact t.record_comm fun hpost => (h.users hpost.symm).symm
  · simp only [hbok, hcok, if_true, Bool.false_eq_true, if_false]
  · simp only [hbok, hcok, if_true, Bool.false_eq_true, if_false]
  · simp only [hbok, hcok, Bool.false_eq_true, if_false]

end Ballot

/-! ## Any number of votes -/

/-- The store after votes one after the other. -/
def leftByAll (votes : List Ballot) (t : Tally) : Tally :=
  votes.foldl (fun t b => b.left t) t

/-- Their verdicts. -/
def verdicts : List Ballot → Tally → List (Except Fault Receipt)
  | [], _ => []
  | b :: votes, t => b.verdict t :: verdicts votes (b.left t)

theorem length_verdicts (votes : List Ballot) (t : Tally) :
    (verdicts votes t).length = votes.length := by
  induction votes generalizing t with
  | nil => rfl
  | cons b votes ih => rw [verdicts, List.length_cons, List.length_cons, ih]

/-- Votes one after the other answer their verdicts. -/
theorem run_mapM_program (votes : List Ballot) (w : World) :
    w.run (votes.mapM Ballot.program) =
      (verdicts votes w.tally, { w with tally := leftByAll votes w.tally }) := by
  induction votes generalizing w with
  | nil => rfl
  | cons b votes ih =>
    have hfirst := b.run_program w
    have hrest := ih { w with tally := b.left w.tally }
    rw [World.run] at hfirst hrest ⊢
    rw [List.mapM_cons, Workflow.bind_eq_andThen, Workflow.run_andThen, hfirst,
      Workflow.bind_eq_andThen, Workflow.run_andThen, hrest]
    rfl

/-- The verdict on one of the votes is that after those before it. -/
theorem mem_zip_verdicts {votes : List Ballot} {t : Tally} {b : Ballot}
    {r : Except Fault Receipt} (h : (b, r) ∈ votes.zip (verdicts votes t)) :
    ∃ before rest, votes = before ++ b :: rest ∧ r = b.verdict (leftByAll before t) := by
  induction votes generalizing t with
  | nil => cases h
  | cons first votes ih =>
    rw [verdicts, List.zip_cons_cons, List.mem_cons] at h
    rcases h with hfirst | hlater
    · obtain ⟨rfl, rfl⟩ := Prod.mk.inj hfirst
      exact ⟨[], votes, rfl, rfl⟩
    · obtain ⟨before, rest, hvotes, hr⟩ := ih hlater
      exact ⟨first :: before, rest, by rw [hvotes, List.cons_append], hr⟩

/-- A vote gets the same verdict after others as before them, up to the score. -/
theorem terms_leftByAll {b : Ballot} {votes : List Ballot} (h : ∀ c ∈ votes, b.Apart c)
    (t : Tally) :
    (b.verdict (leftByAll votes t)).map Receipt.terms = (b.verdict t).map Receipt.terms := by
  induction votes generalizing t with
  | nil => rfl
  | cons c votes ih =>
    have hrest := ih (fun other hother => h other (List.mem_cons_of_mem c hother)) (c.left t)
    exact hrest.trans ((h c List.mem_cons_self).terms_left t)

/-- If none of them is on its post, the score is the same too. -/
theorem verdict_leftByAll {b : Ballot} {votes : List Ballot} (h : ∀ c ∈ votes, b.Apart c)
    (hpost : ∀ c ∈ votes, c.post ≠ b.post) (t : Tally) :
    b.verdict (leftByAll votes t) = b.verdict t := by
  induction votes generalizing t with
  | nil => rfl
  | cons c votes ih =>
    have hrest := ih (fun other hother => h other (List.mem_cons_of_mem c hother))
      (fun other hother => hpost other (List.mem_cons_of_mem c hother)) (c.left t)
    have hscore := Ballot.scoreOf_left_of_ne t (hpost c List.mem_cons_self).symm
    exact hrest.trans (Ballot.verdict_congr hscore ((h c List.mem_cons_self).voteOf_left t))

section Orders

variable {votes others : List Ballot} {auto : Bool} (distinct : (votes.map Ballot.key).Nodup)
  (alike : ∀ b ∈ votes, b.rules.autoRegister = auto)

include distinct alike

/-- A vote does not touch those before it. -/
theorem apart_of_split {before rest : List Ballot} {b : Ballot}
    (hvotes : votes = before ++ b :: rest) : ∀ c ∈ before, b.Apart c := by
  intro c hc
  have hb : b ∈ votes := hvotes ▸ List.mem_append_right before List.mem_cons_self
  have hcall : c ∈ votes := hvotes ▸ List.mem_append_left _ hc
  rw [hvotes, List.map_append, List.map_cons] at distinct
  have hkey : c.key ≠ b.key :=
    (List.nodup_append.1 distinct).2.2 _ (List.mem_map_of_mem hc) _ List.mem_cons_self
  exact Ballot.apart_of_key_ne hkey.symm ((alike b hb).trans (alike c hcall).symm)

/-- In any order they leave the same store. -/
theorem leftByAll_perm (h : votes.Perm others) (t : Tally) :
    leftByAll others t = leftByAll votes t := by
  refine (h.foldl_eq' (fun b hb c hc t => ?_) t).symm
  by_cases hkey : b.key = c.key
  · rw [List.inj_on_of_nodup_map distinct hb hc hkey]
  · have hrules := (alike c hc).trans (alike b hb).symm
    exact (Ballot.apart_of_key_ne (Ne.symm hkey) hrules).left_left t

/-- Each of them gets the verdict that it would get alone, up to the score, and with the score if no
other one is on its post. -/
theorem verdict_of_mem {t : Tally} {b : Ballot} {r : Except Fault Receipt}
    (h : (b, r) ∈ votes.zip (verdicts votes t)) :
    r.map Receipt.terms = (b.verdict t).map Receipt.terms ∧
      ((∀ other ∈ votes, other.post = b.post → other = b) → r = b.verdict t) := by
  obtain ⟨before, rest, hvotes, rfl⟩ := mem_zip_verdicts h
  have hapart := apart_of_split distinct alike hvotes
  refine ⟨terms_leftByAll hapart t, fun halone => verdict_leftByAll hapart (fun c hc hpost => ?_) t⟩
  have hsame : c = b := halone c (hvotes ▸ List.mem_append_left _ hc) hpost
  exact (hapart c hc).users hpost.symm (by rw [hsame])

/-- **Votes commute.** Votes are cast one after the other in two orders, no two of them by the same
user on the same post and all where unknown posts are treated alike, in any state of the store. Both
orders leave the same world, and each vote is refused with the same fault or accepted with the same
difference; if no other one is on its post, it is told the same score too. -/
theorem votes_commute (h : votes.Perm others) (w : World) :
    let (results, after) := w.run (votes.mapM Ballot.program)
    let (results', after') := w.run (others.mapM Ballot.program)
    after' = after ∧ results.length = votes.length ∧ results'.length = others.length ∧
    ∀ b r r', (b, r) ∈ votes.zip results → (b, r') ∈ others.zip results' →
      r'.map Receipt.terms = r.map Receipt.terms ∧
        ((∀ other ∈ votes, other.post = b.post → other = b) → r' = r) := by
  rw [run_mapM_program, run_mapM_program, leftByAll_perm distinct alike h]
  refine ⟨rfl, length_verdicts votes _, length_verdicts others _, fun b r r' hr hr' => ?_⟩
  have distinct' : (others.map Ballot.key).Nodup := (h.map Ballot.key).nodup_iff.1 distinct
  have alike' : ∀ b ∈ others, b.rules.autoRegister = auto := fun b hb =>
    alike b (h.mem_iff.2 hb)
  obtain ⟨hterms, halone⟩ := verdict_of_mem distinct alike hr
  obtain ⟨hterms', halone'⟩ := verdict_of_mem distinct' alike' hr'
  refine ⟨hterms'.trans hterms.symm, fun hothers => ?_⟩
  have hothers' : ∀ other ∈ others, other.post = b.post → other = b := fun other hother =>
    hothers other (h.mem_iff.2 hother)
  rw [halone' hothers', halone hothers]

end Orders

/-- Two votes on one post, one on a post that nobody knows, and a dislike without a like. -/
def severalVotes : List Ballot :=
  let rules : Rules := ⟨true, 2000, 1, ⟨20, 100⟩⟩
  [⟨rules, 7, 1, .like⟩, ⟨rules, 7, 2, .dislike⟩, ⟨rules, 4, 1, .like⟩, ⟨rules, 8, 1, .dislike⟩]

/-- The votes on the same post are told other scores when the order is turned round. -/
theorem votes_commute_backwards :
    let run := World.uneven.run (severalVotes.mapM Ballot.program)
    let run' := World.uneven.run (severalVotes.reverse.mapM Ballot.program)
    (severalVotes.map Ballot.key).Nodup ∧ (∀ b ∈ severalVotes, b.rules.autoRegister = true) ∧
    run'.2 = run.2 ∧
    run.1 = [.ok ⟨7, .like, 1, 2⟩, .ok ⟨7, .dislike, -2, 0⟩, .ok ⟨4, .like, 1, 1⟩,
      .error (.notPreviouslyLiked 8)] ∧
    run'.1 = [.error (.notPreviouslyLiked 8), .ok ⟨4, .like, 1, 1⟩, .ok ⟨7, .dislike, -2, -1⟩,
      .ok ⟨7, .like, 1, 0⟩] := by
  intro run run'
  have hdistinct : (severalVotes.map Ballot.key).Nodup := by decide
  have halike : ∀ b ∈ severalVotes, b.rules.autoRegister = true := by
    simp [severalVotes]
  have hperm : severalVotes.Perm severalVotes.reverse := (List.reverse_perm _).symm
  obtain ⟨hsame, -⟩ := votes_commute hdistinct halike hperm World.uneven
  exact ⟨hdistinct, halike, hsame, rfl, rfl⟩

end Voting

end Forum
