import Mathlib
import Forum.Identifier.Generator
import Forum.Proofs.Engagement.Consistency
import Forum.Proofs.Voting.Poll

/-!
# Votes in any order of turns

What holds of requests to vote however they take turns. `Poll.Sound` is the invariant: it ties the
accepted votes to the recorded ones, to the score and to the stages of the requests. A turn either
leaves all entries as they are, or it commits a change on top of the recorded vote; each keeps the
invariant. Retry limits, users, posts and directions are arbitrary, also mixed.
-/

namespace Forum.Voting

open Engagement

/-- What the caller of an accepted vote is told. -/
def Acceptance.receipt (a : Acceptance) : Receipt :=
  ⟨a.change.post, a.change.next, a.change.delta, a.score⟩

/-- What is known of a request at its stage. A like that was refused, or that was overtaken, came
after another accepted vote of the same user on the same post. -/
def Stage.Holds (start : Tally) (accepted : List Acceptance) (place : Nat) (b : Ballot) :
    Stage → Prop
  | .asking => b.rules.autoRegister = false
  | .reading _ => True
  | .committing _ previous =>
    (∃ c, Vote.decide b.post b.user previous b.direction = .ok c) ∧
      (b.direction = .like → votesOf accepted b.post b.user = [] → previous = none)
  | .accepted delta score =>
    ∃ a ∈ accepted, a.place = place ∧ a.change.delta = delta ∧ a.score = score
  | .refused _ =>
    b.direction = .like → (b.rules.autoRegister = true ∨ (start.scoreOf b.post).isSome) →
      votesOf accepted b.post b.user ≠ []

/-- How a store and the votes that it accepted belong together. -/
structure Counted (t : Tally) (accepted : List Acceptance) : Prop where
  /-- The accepted votes of a user on a post alternate. -/
  alternates : ∀ post user, votesOf accepted post user =
    alternating (votesOf accepted post user).length
  /-- The recorded vote is the last accepted one. -/
  recorded : ∀ post user, (t.entry post).votes[user]? = (votesOf accepted post user).getLast?
  /-- The score is the sum of the accepted deltas. -/
  deltas : ∀ post, (t.entry post).score =
    ((accepted.filter fun a => a.change.post = post).map (·.change.delta)).sum
  /-- The score is the sum of the recorded votes. -/
  balance : ∀ post, (t.entry post).score = (t.entry post).balance
  /-- Every reported score is the one right after the commit. -/
  reports : ∀ a ∈ accepted, a.after.scoreOf a.change.post = some a.score

/-- What holds of a poll after every turn. -/
structure Poll.Sound (ballots : List Ballot) (start : Tally) (p : Poll) : Prop where
  /-- The store belongs to the accepted votes. -/
  counted : Counted p.tally p.accepted
  /-- Posts stay registered. -/
  registered : ∀ post, (start.scoreOf post).isSome → (p.tally.scoreOf post).isSome
  /-- Every accepted vote is the one of the request at its place, which is done. -/
  made : ∀ a ∈ p.accepted, ∃ b previous, ballots[a.place]? = some b ∧
    a.change = b.change previous ∧
    p.stages[a.place]? = some (.accepted a.change.delta a.score)
  /-- No request is accepted twice. -/
  once : (p.accepted.map (·.place)).Nodup
  /-- Every request is where it may be. -/
  stands : ∀ i b (stage : Stage), ballots[i]? = some b → p.stages[i]? = some stage →
    stage.Holds start p.accepted i b

namespace Counted

variable {t : Tally} {accepted : List Acceptance}

/-- The recorded vote of a user is the last accepted one. -/
theorem voteOf (h : Counted t accepted) (post user : Int64) :
    t.voteOf post user = (votesOf accepted post user).getLast? := by
  rw [Tally.voteOf_eq_entry, h.recorded]

/-- Only the entries of the store matter. -/
theorem of_entries (h : Counted t accepted) {after : Tally}
    (he : ∀ post, after.entry post = t.entry post) : Counted after accepted := by
  refine ⟨h.alternates, ?_, ?_, ?_, h.reports⟩
  · intro post user
    rw [he]
    exact h.recorded post user
  · intro post
    rw [he]
    exact h.deltas post
  · intro post
    rw [he]
    exact h.balance post

/-- A store without votes and scores belongs to no accepted votes. -/
theorem nil (hv : ∀ post user, t.voteOf post user = none)
    (hs : ∀ post score, t.scoreOf post = some score → score = 0) : Counted t [] := by
  have hz : ∀ post, (t.entry post).score = 0 := by
    intro post
    rw [Tally.entry_score]
    cases h : t.scoreOf post with
    | none => rfl
    | some score => exact hs post score h
  have he : ∀ post, (t.entry post).votes = ∅ := by
    intro post
    refine Std.ExtTreeMap.ext_getElem? fun user => ?_
    rw [← Tally.voteOf_eq_entry, hv, Std.ExtTreeMap.getElem?_empty]
  refine ⟨fun _ _ => rfl, ?_, hz, ?_, fun a ha => absurd ha List.not_mem_nil⟩
  · intro post user
    rw [he, Std.ExtTreeMap.getElem?_empty]
    rfl
  · intro post
    rw [hz, Entry.balance, he]
    rfl

/-- A commit on top of the recorded vote is one more accepted vote. -/
theorem concat (h : Counted t accepted) {a : Acceptance}
    (hc : t.commitVote a.change = (.committed a.score, a.after))
    {c : Vote.Change} (hd : Vote.decide a.change.post a.change.user
      (t.voteOf a.change.post a.change.user) a.change.next = .ok c) :
    Counted a.after (accepted ++ [a]) := by
  obtain ⟨hv, hscore, hafter⟩ := Tally.of_committed _ hc
  have hrecorded : (t.entry a.change.post).votes[a.change.user]? = a.change.previous := by
    rw [← Tally.voteOf_eq_entry, hv]
  refine ⟨?_, ?_, ?_, ?_, ?_⟩
  · intro post user
    rw [votesOf_concat]
    split
    · next hsame =>
      obtain ⟨rfl, rfl⟩ := hsame
      rw [h.voteOf, h.alternates] at hd
      rw [List.length_append, List.length_singleton, ← alternating_concat hd, ← h.alternates]
    · exact h.alternates post user
  · intro post user
    rw [votesOf_concat, hafter, Tally.entry_put]
    by_cases hp : post = a.change.post
    · subst hp
      rw [if_pos rfl, Entry.record, FiniteMap.getElem?_insert]
      by_cases hu : user = a.change.user
      · subst hu
        rw [if_pos rfl, if_pos ⟨rfl, rfl⟩, List.getLast?_concat]
      · rw [if_neg hu, if_neg (fun hw => hu hw.2.symm)]
        exact h.recorded _ _
    · rw [if_neg hp, if_neg (fun hw => hp hw.1.symm)]
      exact h.recorded _ _
  · intro post
    rw [hafter, Tally.entry_put, List.filter_append, List.map_append, List.sum_append]
    by_cases hp : post = a.change.post
    · subst hp
      rw [if_pos rfl, Entry.record, h.deltas, List.filter_cons_of_pos (by simp)]
      simp only [List.filter_nil, List.map_cons, List.map_nil, List.sum_cons, List.sum_nil,
        Int64.add_zero]
    · rw [if_neg hp, h.deltas, List.filter_cons_of_neg (by simpa using Ne.symm hp)]
      simp only [List.filter_nil, List.map_nil, List.sum_nil, Int64.add_zero]
  · intro post
    rw [hafter, Tally.entry_put]
    split
    · rw [Entry.balance_record _ hrecorded, ← h.balance]
      rfl
    · exact h.balance post
  · intro b hb
    rcases List.mem_append.mp hb with hb | hb
    · exact h.reports b hb
    · rw [List.mem_singleton.mp hb, hafter, Tally.scoreOf_put, if_pos rfl, hscore]
      rfl

end Counted

/-- What is known of a request stays known as more votes are accepted. -/
theorem Stage.Holds.concat {start : Tally} {accepted : List Acceptance} {place : Nat} {b : Ballot}
    {stage : Stage} (h : stage.Holds start accepted place b) (a : Acceptance) :
    stage.Holds start (accepted ++ [a]) place b := by
  cases stage with
  | asking | reading => exact h
  | committing retries previous =>
    refine ⟨h.1, fun hl hn => h.2 hl ?_⟩
    by_contra hne
    exact votesOf_concat_ne_nil a hne hn
  | accepted delta score =>
    obtain ⟨b, hb, ha⟩ := h
    exact ⟨b, List.mem_append_left _ hb, ha⟩
  | refused fault => exact fun hl hk => votesOf_concat_ne_nil a (h hl hk)

/-- At first no vote is recorded and every score is zero. -/
theorem Poll.sound_start (ballots : List Ballot) {start : Tally}
    (hv : ∀ post user, start.voteOf post user = none)
    (hs : ∀ post score, start.scoreOf post = some score → score = 0) :
    (Poll.start ballots start).Sound ballots start := by
  refine ⟨.nil hv hs, fun _ h => h, fun a ha => absurd ha List.not_mem_nil, List.nodup_nil, ?_⟩
  intro i b stage hb hi
  rw [Poll.start, List.getElem?_map, hb, Option.map_some, Option.some_inj] at hi
  subst hi
  rw [Ballot.first]
  split
  · exact trivial
  · next h => exact Bool.eq_false_iff.mpr h

namespace Poll.Sound

variable {ballots : List Ballot} {start : Tally} {p : Poll}

/-- A turn that leaves all entries as they are and moves one request to another stage, where it
may be, keeps the invariant. -/
theorem stay (h : p.Sound ballots start) {i : Nat} {b : Ballot} {before after : Stage}
    {tally : Tally} (hb : ballots[i]? = some b) (hs : p.stages[i]? = some before)
    (hn : ∀ delta score, before ≠ .accepted delta score)
    (he : ∀ post, tally.entry post = p.tally.entry post)
    (hr : ∀ post, (p.tally.scoreOf post).isSome → (tally.scoreOf post).isSome)
    (ha : after.Holds start p.accepted i b) :
    Poll.Sound ballots start { p with tally := tally, stages := p.stages.set i after } := by
  refine ⟨h.counted.of_entries he, fun post hp => hr post (h.registered post hp), ?_, h.once, ?_⟩
  · intro a hm
    obtain ⟨b', previous, hb', hc, hst⟩ := h.made a hm
    refine ⟨b', previous, hb', hc, ?_⟩
    rw [List.getElem?_set_ne, hst]
    rintro rfl
    rw [hs, Option.some_inj] at hst
    exact hn _ _ hst
  · intro j b' stage hb' hj
    rw [List.getElem?_set] at hj
    split at hj
    · next hij =>
      subst hij
      rw [hb, Option.some_inj] at hb'
      split at hj
      · rw [Option.some_inj] at hj
        subst hb' hj
        exact ha
      · cases hj
    · exact h.stands j b' stage hb' hj

/-- A commit on top of the recorded vote keeps the invariant. -/
theorem accept (h : p.Sound ballots start) {i retries : Nat} {b : Ballot}
    {previous : Option Direction} {score : Int64} {tally : Tally} (hb : ballots[i]? = some b)
    (hs : p.stages[i]? = some (.committing retries previous))
    (hc : p.tally.commitVote (b.change previous) = (.committed score, tally)) :
    Poll.Sound ballots start ⟨tally, p.stages.set i (.accepted (b.change previous).delta score),
      p.accepted ++ [⟨i, b.change previous, score, tally⟩]⟩ := by
  obtain ⟨⟨c, hd⟩, -⟩ := h.stands i b _ hb hs
  have hv : p.tally.voteOf b.post b.user = previous := (Tally.of_committed _ hc).1
  have hlt : i < p.stages.length := (List.getElem?_eq_some_iff.mp hs).1
  -- the place of this request is not the place of an earlier accepted vote
  have hfresh : ∀ a ∈ p.accepted, i ≠ a.place := by
    rintro a ha rfl
    obtain ⟨-, -, -, -, hst⟩ := h.made a ha
    rw [hs] at hst
    cases hst
  refine ⟨h.counted.concat (a := ⟨i, b.change previous, score, tally⟩) hc (c := c) ?_,
    ?_, ?_, ?_, ?_⟩
  · exact hv ▸ hd
  · exact fun post hp => Tally.isSome_scoreOf_of_commitVote _ _ hc (h.registered post hp)
  · intro a ha
    rcases List.mem_append.mp ha with ha | ha
    · obtain ⟨b', previous', hb', hchange, hst⟩ := h.made a ha
      refine ⟨b', previous', hb', hchange, ?_⟩
      rw [List.getElem?_set_ne (hfresh a ha), hst]
    · rw [List.mem_singleton.mp ha]
      exact ⟨b, previous, hb, rfl, List.getElem?_set_self hlt⟩
  · rw [List.map_append, List.map_singleton]
    refine List.nodup_append.mpr ⟨h.once, List.nodup_singleton _, ?_⟩
    rintro x hx y hy rfl
    obtain ⟨a, ha, rfl⟩ := List.mem_map.mp hx
    exact hfresh a ha (List.mem_singleton.mp hy).symm
  · intro j b' stage hb' hj
    rw [List.getElem?_set] at hj
    split at hj
    · next hij =>
      subst hij
      rw [Option.some_inj] at hj
      subst hj
      exact ⟨_, List.mem_append_right _ (List.mem_singleton.mpr rfl), rfl, rfl, rfl⟩
    · exact (h.stands j b' stage hb' hj).concat _

/-- A like of a user without accepted votes on the post is never refused because of a recorded
vote. -/
theorem votesOf_ne_nil_of_declined (h : p.Sound ballots start) {b : Ballot} {fault : Fault}
    (hd : Vote.decide b.post b.user (p.tally.voteOf b.post b.user) b.direction = .error fault)
    (hl : b.direction = .like) : votesOf p.accepted b.post b.user ≠ [] := by
  intro hn
  rw [h.counted.voteOf, hn, hl] at hd
  cases hd

/-- One turn keeps the invariant. -/
theorem step (h : p.Sound ballots start) {q : Poll} (hq : p.Step ballots q) :
    q.Sound ballots start := by
  cases hq with
  | idle => exact h
  | known hb hs hk =>
    exact h.stay hb hs (by simp) (fun _ => rfl) (fun _ => id) trivial
  | @unknown i b hb hs hk =>
    refine h.stay hb hs (by simp) (fun _ => rfl) (fun _ => id) fun hl hreg => ?_
    -- a request asks for the score only if its post had to be registered at first
    have ha : b.rules.autoRegister = false := h.stands _ _ _ hb hs
    rcases hreg with hreg | hreg
    · rw [ha] at hreg
      cases hreg
    · have hsome := h.registered _ hreg
      rw [hk] at hsome
      cases hsome
  | @read i retries b hb hs c hd =>
    refine h.stay hb hs (by simp) (fun _ => rfl) (fun _ => id) ⟨⟨c, hd⟩, fun _ hn => ?_⟩
    rw [h.counted.voteOf, hn, List.getLast?_nil]
  | @declined i retries b hb hs fault hd =>
    exact h.stay hb hs (by simp) (fun _ => rfl) (fun _ => id)
      fun hl _ => h.votesOf_ne_nil_of_declined hd hl
  | committed hb hs hc => exact h.accept hb hs hc
  | @conflicted i retries previous b tally hb hs hc =>
    obtain ⟨hv, he⟩ := Tally.of_conflict _ hc
    -- a like was overtaken: were there no accepted vote, it would have read what is recorded
    have hne : b.direction = .like → votesOf p.accepted b.post b.user ≠ [] := by
      intro hl hn
      have hp := (h.stands i b _ hb hs).2 hl hn
      apply hv
      rw [Ballot.change, h.counted.voteOf, hn, hp, List.getLast?_nil]
    refine h.stay hb hs (by simp) he
      (fun post => Tally.isSome_scoreOf_of_commitVote _ post hc) ?_
    cases retries with
    | zero => exact fun hl _ => hne hl
    | succ retries => trivial

end Poll.Sound

/-! ## What the callers see -/

section

variable {ballots : List Ballot} {start : Tally} {p : Poll}
  {r : Interleaving World (Except Fault Receipt)}

/-- A request is done with a receipt if and only if its vote was accepted with that receipt. -/
theorem done_iff_accepted (hs : p.Sound ballots start) (hr : p.Represents ballots r) (i : Nat)
    (receipt : Receipt) : r.tasks[i]? = some (.done (.ok receipt)) ↔
      ∃ a ∈ p.accepted, a.place = i ∧ a.receipt = receipt := by
  constructor
  · intro h
    rw [hr.tasks, List.getElem?_zipWith] at h
    cases hb : ballots[i]? with
    | none => rw [hb] at h; cases h
    | some b =>
      cases hi : p.stages[i]? with
      | none => rw [hb, hi] at h; cases h
      | some stage =>
        rw [hb, hi, Option.some_inj] at h
        cases stage with
        | accepted delta score =>
          obtain ⟨a, ha, hplace, hdelta, hscore⟩ := hs.stands i b _ hb hi
          obtain ⟨b', previous, hb', hchange, -⟩ := hs.made a ha
          rw [hplace, hb, Option.some_inj] at hb'
          refine ⟨a, ha, hplace, ?_⟩
          rw [Stage.program, Workflow.done.injEq, Except.ok.injEq] at h
          rw [← h, Acceptance.receipt, hdelta, hscore, hchange, hb']
          rfl
        | _ => cases h
  · rintro ⟨a, ha, rfl, rfl⟩
    obtain ⟨b, previous, hb, hchange, hst⟩ := hs.made a ha
    rw [hr.task hb hst, Stage.program, Acceptance.receipt, hchange]
    rfl

/-- The users whose last accepted vote goes one way are the voters of the entry. -/
theorem voters_eq (h : Counted p.tally p.accepted) (post : Int64) (d : Direction) :
    (p.tally.entry post).voters d = {user | (votesOf p.accepted post user).getLast? = some d} := by
  ext user
  simp only [Entry.voters, Set.mem_ofPred_eq, h.recorded]

/-- There are no more accepted votes than requests. -/
theorem length_accepted_le (h : p.Sound ballots start) : p.accepted.length ≤ ballots.length := by
  have hsub : p.accepted.map (·.place) ⊆ List.range ballots.length := by
    intro i hi
    obtain ⟨a, ha, rfl⟩ := List.mem_map.mp hi
    obtain ⟨b, -, hb, -⟩ := h.made a ha
    exact List.mem_range.mpr (List.getElem?_eq_some_iff.mp hb).1
  have hle := (h.once.subperm hsub).length_le
  rwa [List.length_map, List.length_range] at hle

/-- There are no more voters on a post than accepted votes. -/
theorem ncard_voters_le (h : Counted p.tally p.accepted) (post : Int64) (d : Direction) :
    ((p.tally.entry post).voters d).ncard ≤ p.accepted.length := by
  have hsub : (p.tally.entry post).voters d ⊆
      ((p.accepted.map (·.change.user)).toFinset : Set Int64) := by
    intro user hu
    rw [voters_eq h, Set.mem_ofPred_eq] at hu
    have hm := List.mem_of_getLast? hu
    rw [votesOf, List.mem_map] at hm
    obtain ⟨a, ha, -⟩ := hm
    rw [List.mem_filter, decide_eq_true_eq] at ha
    rw [Finset.mem_coe, List.mem_toFinset, List.mem_map]
    exact ⟨a, ha.1, ha.2.2⟩
  refine (Set.ncard_le_ncard hsub (Finset.finite_toSet _)).trans ?_
  rw [Set.ncard_coe_finset]
  exact (List.toFinset_card_le _).trans (List.length_map _).le

/-- When all requests are done and a user asked for likes only on a post that is known, exactly one
vote of that user on the post was accepted. -/
theorem length_votesOf_of_finished (hs : p.Sound ballots start) (hr : p.Represents ballots r)
    (hf : r.Finished) {b : Ballot} (hb : b ∈ ballots) (hl : b.direction = .like)
    (hk : b.rules.autoRegister = true ∨ (start.scoreOf b.post).isSome)
    (hd : ∀ c ∈ ballots, c.post = b.post → c.user = b.user → c.direction = .like) :
    (votesOf p.accepted b.post b.user).length = 1 := by
  have hle : (votesOf p.accepted b.post b.user).length ≤ 1 := by
    refine length_le_one_of_alternating (hs.counted.alternates _ _) fun hm => ?_
    rw [votesOf, List.mem_map] at hm
    obtain ⟨a, ha, hnext⟩ := hm
    rw [List.mem_filter, decide_eq_true_eq] at ha
    obtain ⟨c, previous, hc, hchange, -⟩ := hs.made a ha.1
    rw [hchange] at ha hnext
    have hlike : c.direction = .like := hd c (List.mem_of_getElem? hc) ha.2.1 ha.2.2
    have hdislike : c.direction = .dislike := hnext
    rw [hlike] at hdislike
    cases hdislike
  have hne : votesOf p.accepted b.post b.user ≠ [] := by
    obtain ⟨i, hi⟩ := List.mem_iff_getElem?.mp hb
    have hlt : i < p.stages.length := hr.length ▸ (List.getElem?_eq_some_iff.mp hi).1
    obtain ⟨stage, hst⟩ : ∃ stage, p.stages[i]? = some stage := ⟨_, List.getElem?_eq_getElem hlt⟩
    obtain ⟨result, hdone⟩ := hf _ (List.mem_of_getElem? (hr.task hi hst))
    have hholds := hs.stands i b stage hi hst
    cases stage with
    | asking | reading | committing => cases hdone
    | accepted delta score =>
      obtain ⟨a, ha, rfl, -⟩ := hholds
      obtain ⟨c, previous, hc, hchange, -⟩ := hs.made a ha
      rw [hi, Option.some_inj] at hc
      have hm := mem_votesOf ha
      rw [hchange, ← hc] at hm
      exact List.ne_nil_of_mem hm
    | refused fault => exact hholds hl hk
  have hpos := List.length_pos_iff.mpr hne
  omega

/-- If exactly one vote of a user on a post was accepted, then exactly one of that user's requests
is done with a receipt. -/
theorem existsUnique_done (hs : p.Sound ballots start) (hr : p.Represents ballots r)
    {post user : Int64} (h : (votesOf p.accepted post user).length = 1) :
    ∃! i : Nat, ∃ (b : Ballot) (receipt : Receipt), ballots[i]? = some b ∧ b.post = post ∧
      b.user = user ∧ r.tasks[i]? = some (.done (.ok receipt)) := by
  rw [votesOf, List.length_map, List.length_eq_one_iff] at h
  obtain ⟨a, ha⟩ := h
  have hmem : ∀ x, x ∈ p.accepted ∧ x.change.post = post ∧ x.change.user = user ↔ x = a := by
    intro x
    rw [← @List.mem_singleton _ x a, ← ha, List.mem_filter, decide_eq_true_eq]
  obtain ⟨hacc, hpost, huser⟩ := (hmem a).mpr rfl
  obtain ⟨b, previous, hb, hchange, -⟩ := hs.made a hacc
  refine ⟨a.place, ⟨b, a.receipt, hb, ?_, ?_, ?_⟩, ?_⟩
  · rw [← hpost, hchange]
    rfl
  · rw [← huser, hchange]
    rfl
  · exact (done_iff_accepted hs hr _ _).mpr ⟨a, hacc, rfl, rfl⟩
  · rintro i ⟨c, receipt, hc, rfl, rfl, hdone⟩
    obtain ⟨x, hx, rfl, -⟩ := (done_iff_accepted hs hr _ _).mp hdone
    obtain ⟨c', previous', hc', hchange', -⟩ := hs.made x hx
    rw [hc, Option.some_inj] at hc'
    subst hc'
    have hxa := (hmem x).mp
      ⟨hx, congrArg Vote.Change.post hchange', congrArg Vote.Change.user hchange'⟩
    rw [hxa]

end

/-- Requests to vote in any order of turns, on a store that starts without votes and with all
scores zero. The accepted votes of a user on a post are like, dislike and so on in turn; the score
of a post is the sum of the accepted deltas, and the number of users whose last accepted vote is a
like less the number of those whose last is a dislike; receipts belong to accepted votes, one each,
and carry the score right after the commit; and when all requests are done, a user who asked for
likes only on a post has exactly one of them accepted. -/
theorem votes_interleaved (w : World) (ballots : List Ballot) (schedule : List Nat)
    (hv : ∀ post user, w.tally.voteOf post user = none)
    (hs : ∀ post score, w.tally.scoreOf post = some score → score = 0)
    (hk : ∀ b ∈ ballots, b.rules.autoRegister = true ∨ (w.tally.scoreOf b.post).isSome) :
    let run := Interleaving.run World.answer w (ballots.map Ballot.program) schedule
    let accepted := run.turns.filterMap accepted?
    let score := fun post => (run.state.tally.scoreOf post).getD 0
    let lastVoters := fun post d => {user | (votesOf accepted post user).getLast? = some d}
    (∀ post user, votesOf accepted post user = alternating (votesOf accepted post user).length) ∧
    (∀ post, score post =
      ((accepted.filter fun a => a.change.post = post).map (·.change.delta)).sum) ∧
    (∀ post, score post = Int64.ofNat (lastVoters post .like).ncard -
      Int64.ofNat (lastVoters post .dislike).ncard) ∧
    (ballots.length < 2 ^ 63 → ∀ post, (score post).toInt =
      ((lastVoters post .like).ncard : Int) - (lastVoters post .dislike).ncard) ∧
    (∀ a ∈ accepted, ∃ b previous, ballots[a.place]? = some b ∧ a.change = b.change previous) ∧
    (∀ i receipt, run.tasks[i]? = some (.done (.ok receipt)) ↔
      ∃ a ∈ accepted, a.place = i ∧ a.receipt = receipt) ∧
    (accepted.map (·.place)).Nodup ∧
    (∀ a ∈ accepted, a.after.scoreOf a.change.post = some a.score) ∧
    (run.Finished → ∀ b ∈ ballots, b.direction = .like →
      (∀ c ∈ ballots, c.post = b.post → c.user = b.user → c.direction = .like) →
      ∃! i : Nat, ∃ (c : Ballot) (receipt : Receipt), ballots[i]? = some c ∧ c.post = b.post ∧
        c.user = b.user ∧ run.tasks[i]? = some (.done (.ok receipt))) := by
  intro run accepted score lastVoters
  obtain ⟨p, hp, hr⟩ := Poll.run_induction (P := Poll.Sound ballots w.tally)
    (Poll.sound_start ballots hv hs) (fun _ _ h hq => h.step hq) schedule
  have hacc : accepted = p.accepted := hr.accepted
  have hscore : ∀ post, score post = (p.tally.entry post).score := by
    intro post
    rw [Tally.entry_score, ← hr.tally]
  have hvoters : ∀ post d, lastVoters post d = (p.tally.entry post).voters d := by
    intro post d
    rw [voters_eq hp.counted, ← hacc]
  have hbalance : ∀ post, score post = Int64.ofNat (lastVoters post .like).ncard -
      Int64.ofNat (lastVoters post .dislike).ncard := by
    intro post
    rw [hscore, hp.counted.balance, Entry.balance_eq, hvoters, hvoters]
  rw [hacc]
  refine ⟨hp.counted.alternates, ?_, hbalance, ?_, ?_, done_iff_accepted hp hr, hp.once,
    hp.counted.reports, ?_⟩
  · intro post
    rw [hscore]
    exact hp.counted.deltas post
  · intro hlt post
    have hle : ∀ d, (lastVoters post d).ncard < 2 ^ 63 := by
      intro d
      rw [hvoters]
      exact ((ncard_voters_le hp.counted post d).trans (length_accepted_le hp)).trans_lt hlt
    rw [hbalance]
    exact toInt_ofNat_sub_ofNat (hle _) (hle _)
  · intro a ha
    obtain ⟨b, previous, hb, hchange, -⟩ := hp.made a ha
    exact ⟨b, previous, hb, hchange⟩
  · intro hf b hb hl hd
    exact existsUnique_done hp hr (length_votesOf_of_finished hp hr hf hb hl (hk b hb) hd)

/-- A forum at noon of a day, with nothing in it. -/
def untouched : World :=
  ⟨⟨[], []⟩, .empty, .unused, .ticking 0, .noon⟩

/-- Two likes of one user and one of another, with one more attempt after a conflict. -/
def rivals : List Ballot :=
  let rules : Rules := ⟨true, 2000, 1, ⟨20, 100⟩⟩
  [⟨rules, 1, 7, .like⟩, ⟨rules, 1, 7, .like⟩, ⟨rules, 1, 8, .like⟩]

/-- All three read before anyone commits. The second like of the first user is overtaken, reads
again and is refused; the score counts both users once. -/
theorem votes_interleaved_of_rivals :
    let run := Interleaving.run World.answer untouched (rivals.map Ballot.program)
      [0, 1, 2, 0, 1, 2, 1]
    (∀ post user, untouched.tally.voteOf post user = none) ∧
    (∀ post score, untouched.tally.scoreOf post = some score → score = 0) ∧
    (∀ b ∈ rivals, b.rules.autoRegister = true ∨ (untouched.tally.scoreOf b.post).isSome) ∧
    run.Finished ∧ (run.state.tally.scoreOf 1).getD 0 = 2 ∧
    ∃! i : Nat, ∃ (c : Ballot) (receipt : Receipt), rivals[i]? = some c ∧ c.post = 1 ∧
      c.user = 7 ∧ run.tasks[i]? = some (.done (.ok receipt)) := by
  intro run
  have hv : ∀ post user, untouched.tally.voteOf post user = none := by
    intro post user
    rw [Tally.voteOf, untouched, Tally.empty, Std.ExtTreeMap.getElem?_empty, Option.bind_none]
  have hs : ∀ post score, untouched.tally.scoreOf post = some score → score = 0 := by
    intro post score h
    rw [Tally.scoreOf, untouched, Tally.empty, Std.ExtTreeMap.getElem?_empty] at h
    cases h
  have hk : ∀ b ∈ rivals, b.rules.autoRegister = true ∨
      (untouched.tally.scoreOf b.post).isSome := by
    intro b hb
    simp only [rivals, List.mem_cons, List.not_mem_nil, or_false] at hb
    rcases hb with rfl | rfl | rfl <;> exact .inl rfl
  have ht : run.tasks = [.done (.ok ⟨1, .like, 1, 1⟩), .done (.error (.alreadyLiked 1)),
      .done (.ok ⟨1, .like, 1, 2⟩)] := rfl
  have hf : run.Finished := by
    intro task htask
    simp only [ht, List.mem_cons, List.not_mem_nil, or_false] at htask
    rcases htask with rfl | rfl | rfl <;> exact ⟨_, rfl⟩
  refine ⟨hv, hs, hk, hf, rfl, ?_⟩
  obtain ⟨-, -, -, -, -, -, -, -, hone⟩ :=
    votes_interleaved untouched rivals [0, 1, 2, 0, 1, 2, 1] hv hs hk
  refine hone hf ⟨⟨true, 2000, 1, ⟨20, 100⟩⟩, 1, 7, .like⟩ (by simp [rivals]) rfl ?_
  intro c hc _ _
  simp only [rivals, List.mem_cons, List.not_mem_nil, or_false] at hc
  rcases hc with rfl | rfl | rfl <;> rfl

end Forum.Voting
