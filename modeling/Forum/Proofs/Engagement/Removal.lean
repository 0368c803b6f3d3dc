import Mathlib
import Forum.Proofs.Engagement.Reference

/-!
# Writers and removals

A removal takes a post out of the map and flags its entry later, under another lock, while other
writers may still hold the entry or have registered the post again. Until it is flagged an entry is
what the edits have left that took effect on it, and afterwards nothing changes it. An edit that
took effect is therefore in the entry that the map leads to, unless the removal of its post has come
to its end since then.
-/

namespace Forum.Engagement.Race

variable {owner : Nat → Int64} {r : Race} {place : Nat} {before after : Writer} {memory : Memory}

/-! ## What the entries hold -/

/-- Whether a step of the writer at a place recorded a change in the entry behind a reference, with
this score. -/
structure Commits (move : Move) (place ref : Nat) (change : Vote.Change) (score : Int64) :
    Prop where
  /-- It is a step of this writer. -/
  place_eq : move.place = place
  /-- The call has returned with it. -/
  after_eq : move.after = .returned (.commitVote change) (.committed score)
  /-- It took effect on this entry. -/
  edit?_eq : move.edit? ref = some (.commit change)

/-- What the entries of a race hold, and which steps the flags and the answers come from. -/
structure Kept (r : Race) : Prop where
  /-- An entry is what the edits have left that took effect on it. -/
  records : ∀ ref, (r.memory.cell ref).removed = false →
    (r.memory.cell ref).entry.Records (r.edits ref)
  /-- There are no votes in an entry that is flagged. -/
  votes_eq_empty : ∀ ref, (r.memory.cell ref).removed = true →
    (r.memory.cell ref).entry.votes = ∅
  /-- If it is flagged, a removal came to its end after every edit that took effect on it. -/
  followed : ∀ ref, (r.memory.cell ref).removed = true → ∀ earlier move later e,
    r.moves = earlier ++ move :: later → move.edit? ref = some e →
      ∃ last ∈ later, last.after = .returned (.remove e.post) ()
  /-- A change that was answered as committed took effect in a step. -/
  answered : ∀ (place : Nat) change score,
    r.writers[place]? = some (.returned (.commitVote change) (.committed score)) →
      ∃ move ∈ r.moves, ∃ ref, Commits move place ref change score

/-- What was answered before a step was so after it. -/
theorem Kept.answered_moved (hk : Kept r) (hb : r.writers[place]? = some before)
    {change : Vote.Change} {score : Int64} {other : Nat}
    (hw : (r.moved place before after memory).writers[other]? =
      some (.returned (.commitVote change) (.committed score))) :
    (other = place ∧ after = .returned (.commitVote change) (.committed score)) ∨
      ∃ move ∈ r.moves ++ [⟨place, before, after⟩], ∃ ref,
        Commits move other ref change score := by
  rw [getElem?_writers_moved hb] at hw
  split at hw
  case isTrue hsame => exact Or.inl ⟨hsame, Option.some_inj.1 hw⟩
  case isFalse =>
    obtain ⟨move, hm, hmove⟩ := hk.answered other change score hw
    exact Or.inr ⟨move, List.mem_append_left _ hm, hmove⟩

/-- Steps that edit and flag nothing keep all this. -/
theorem Kept.quiet (hk : Kept r) (hb : r.writers[place]? = some before)
    (hcell : ∀ ref, memory.cell ref = r.memory.cell ref) (hq : after.edited = false) :
    Kept (r.moved place before after memory) := by
  constructor
  case records =>
    intro ref hf
    rw [memory_moved, hcell] at hf ⊢
    rw [edits_moved_of_quiet hq]
    exact hk.records ref hf
  case votes_eq_empty =>
    intro ref hf
    rw [memory_moved, hcell] at hf ⊢
    exact hk.votes_eq_empty ref hf
  case followed =>
    intro ref hf earlier move later e hm he
    rw [memory_moved, hcell] at hf
    rcases split_moves hm with ⟨rfl, -⟩ | ⟨rest, rfl, hold⟩
    · exact absurd (Move.before_of_edit? he).2 (Bool.eq_false_iff.1 hq)
    · obtain ⟨last, hl, hlast⟩ := hk.followed ref hf earlier move rest e hold he
      exact ⟨last, List.mem_append_left _ hl, hlast⟩
  case answered =>
    intro other change score hw
    rcases hk.answered_moved hb hw with ⟨-, rfl⟩ | hmove
    · cases hq
    · exact hmove

/-- An edit is recorded where it was done. -/
theorem Kept.applied {e : Edit} {ref : Nat} (hk : Kept r) (hlt : ref < r.memory.cells.length)
    (hb : r.writers[place]? = some (.apply e ref)) (hf : (r.memory.cell ref).removed = false) :
    Kept (r.moved place (.apply e ref) (.returned e.call (e.apply (r.memory.cell ref).entry).1)
      (r.memory.write ref ⟨(e.apply (r.memory.cell ref).entry).2, false⟩)) := by
  constructor
  case records =>
    intro other hf'
    rw [memory_moved, Memory.cell_write _ hlt] at hf' ⊢
    have hedit : (⟨place, .apply e ref, .returned e.call (e.apply (r.memory.cell ref).entry).1⟩ :
        Move).edit? other = if ref = other ∧ e.call.edited (e.apply (r.memory.cell ref).entry).1
          then some e else none := rfl
    rw [edits_moved, hedit]
    split at hf'
    case isTrue hsame =>
      subst hsame
      rw [if_pos rfl]
      have hr := (hk.records other hf).apply e
      split at hr
      case isTrue he =>
        rw [if_pos ⟨rfl, he⟩]
        exact hr
      case isFalse he =>
        rw [if_neg fun hboth => he hboth.2]
        exact hr
    case isFalse hne =>
      rw [if_neg hne, if_neg fun hboth => hne hboth.1.symm]
      exact (List.append_nil (r.edits other)).symm ▸ hk.records other hf'
  case votes_eq_empty =>
    intro other hf'
    rw [memory_moved, Memory.cell_write _ hlt] at hf' ⊢
    split at hf'
    case isTrue => cases hf'
    case isFalse hne =>
      rw [if_neg hne]
      exact hk.votes_eq_empty other hf'
  case followed =>
    intro other hf' earlier move later e' hm he
    rw [memory_moved, Memory.cell_write _ hlt] at hf'
    split at hf'
    case isTrue => cases hf'
    case isFalse hne =>
      -- The new edit is one of an entry without a flag, so it is an earlier one that is meant.
      rcases split_moves hm with ⟨rfl, -⟩ | ⟨rest, rfl, hold⟩
      · have hplace := (Move.before_of_edit? he).1
        exact absurd (Writer.apply.inj hplace).2.symm hne
      · obtain ⟨last, hl, hlast⟩ := hk.followed other hf' earlier move rest e' hold he
        exact ⟨last, List.mem_append_left _ hl, hlast⟩
  case answered =>
    intro other change score hw
    rcases hk.answered_moved hb hw with ⟨rfl, hafter⟩ | hmove
    · refine ⟨_, List.mem_append_right _ (List.mem_singleton_self _), ref, rfl, hafter, ?_⟩
      cases e with
      | commit committed =>
        have hcall : committed = change := Call.commitVote.inj (Writer.returned.inj hafter).1
        rw [hafter, hcall]
        exact if_pos ⟨rfl, rfl⟩
      | adjust post delta => cases (Writer.returned.inj hafter).1
    · exact hmove

/-- A flag comes at the end of a removal. -/
theorem Kept.cleared {post : Int64} {ref : Nat} (hk : Kept r) (hh : Held owner r)
    (hb : r.writers[place]? = some (.clear post ref)) :
    Kept (r.moved place (.clear post ref) (.returned (.remove post) ())
      (r.memory.write ref (r.memory.cell ref).clear)) := by
  obtain ⟨hlt, hown⟩ := hh.current place _ post ref hb rfl
  constructor
  case records =>
    intro other hf
    rw [memory_moved, Memory.cell_write _ hlt] at hf ⊢
    rw [edits_moved_of_quiet rfl]
    split at hf
    case isTrue => cases hf
    case isFalse hne =>
      rw [if_neg hne]
      exact hk.records other hf
  case votes_eq_empty =>
    intro other hf
    rw [memory_moved, Memory.cell_write _ hlt] at hf ⊢
    split at hf
    case isTrue hsame =>
      rw [if_pos hsame]
      rfl
    case isFalse hne =>
      rw [if_neg hne]
      exact hk.votes_eq_empty other hf
  case followed =>
    intro other hf earlier move later e hm he
    rw [memory_moved, Memory.cell_write _ hlt] at hf
    rcases split_moves hm with ⟨rfl, -⟩ | ⟨rest, rfl, hold⟩
    · cases (Move.before_of_edit? he).1
    · split at hf
      case isTrue hsame =>
        -- The edit was done by a writer of the post that owns the entry.
        subst hsame
        have hmem : move ∈ r.moves := hold ▸ List.mem_append_right _ (List.mem_cons_self ..)
        have hbefore := (Move.before_of_edit? he).1
        obtain ⟨-, hpost⟩ := hh.past move hmem e.post other (hbefore ▸ rfl)
        refine ⟨_, List.mem_append_right _ (List.mem_singleton_self _), ?_⟩
        rw [← hpost, hown]
      case isFalse hne =>
        obtain ⟨last, hl, hlast⟩ := hk.followed other hf earlier move rest e hold he
        exact ⟨last, List.mem_append_left _ hl, hlast⟩
  case answered =>
    intro other change score hw
    rcases hk.answered_moved hb hw with ⟨-, hafter⟩ | hmove
    · cases hafter
    · exact hmove

/-! ## Races -/

/-- What holds of a race after every turn. -/
structure Sound (owner : Nat → Int64) (r : Race) : Prop where
  /-- The references are in order. -/
  held : Held owner r
  /-- So are the places of the entries. -/
  placed : Placed owner r
  /-- So is what they hold. -/
  kept : Kept r

/-- A step keeps a race sound. -/
theorem Sound.moved (hs : Sound owner r) (hb : r.writers[place]? = some before)
    (hstep : before.Stepped r.memory after memory) :
    ∃ owner', Sound owner' (r.moved place before after memory) := by
  obtain ⟨hh, hp, hk⟩ := hs
  cases hstep with
  | looked hfetched hbefore hafter hq =>
    refine ⟨owner, hh.moved hb (le_refl _) (fun _ _ => rfl) (fun post ref hholds => ?_),
      hp.looked hb hbefore hafter, hk.quiet hb (fun _ => rfl) hq⟩
    obtain ⟨hlt, hown, -⟩ := hp.listed post ref (hfetched post ref hholds)
    exact ⟨hlt, hown⟩
  | @entered _ _ post hunknown hfetched hbefore hafter hq =>
    have hlength := r.memory.length_enter post
    refine ⟨_, hh.moved hb (by omega) (fun ref hlt => Function.update_of_ne hlt.ne _ _)
      (fun other ref hholds => ?_), hp.entered hh hb hunknown hbefore hafter,
      hk.quiet hb (r.memory.cell_enter post) hq⟩
    obtain ⟨rfl, rfl⟩ := hfetched other ref hholds
    exact ⟨by omega, Function.update_self ..⟩
  | applied e ref hf =>
    obtain ⟨hlt, -⟩ := hh.current place _ _ ref hb rfl
    exact ⟨owner, hh.moved hb (r.memory.length_write ref _).ge (fun _ _ => rfl)
      (by simp [Writer.holds]), hp.applied hlt hb hf (by simp), hk.applied hlt hb hf⟩
  | took post ref hknown =>
    refine ⟨owner, hh.moved hb (le_refl _) (fun _ _ => rfl) (fun other found hholds => ?_),
      hp.took hb hknown, hk.quiet hb (fun _ => rfl) rfl⟩
    cases hholds
    obtain ⟨hlt, hown, -⟩ := hp.listed post ref hknown
    exact ⟨hlt, hown⟩
  | cleared post ref =>
    exact ⟨owner, hh.moved hb (r.memory.length_write ref _).ge (fun _ _ => rfl)
      (by simp [Writer.holds]), hp.cleared hh hb (by simp), hk.cleared hh hb⟩

/-- Before any turn there are no entries. -/
theorem sound_start (owner : Nat → Int64) (writes : List Write) :
    Sound owner ⟨{}, writes.map Writer.begin, []⟩ := by
  have hbegin : ∀ (place : Nat) (w : Writer), (writes.map Writer.begin)[place]? = some w →
      ∃ write, w = Writer.begin write := by
    intro place w hw
    rw [List.getElem?_map] at hw
    obtain ⟨write, -, hwrite⟩ := Option.map_eq_some_iff.1 hw
    exact ⟨write, hwrite.symm⟩
  constructor
  case held =>
    refine ⟨fun place w post ref hw hholds => ?_, fun move hm => absurd hm List.not_mem_nil⟩
    obtain ⟨write, rfl⟩ := hbegin place w hw
    cases write <;> cases hholds
  case placed =>
    refine ⟨fun post ref hm => ?_, fun place post ref hc => ?_,
      fun ref hlt => absurd hlt (Nat.not_lt_zero _)⟩
    · have hnone : ({} : Memory).posts[post]? = none := Std.ExtTreeMap.getElem?_empty
      rw [hnone] at hm
      cases hm
    · obtain ⟨write, hwrite⟩ := hbegin place _ hc
      cases write <;> cases hwrite
  case kept =>
    refine ⟨fun ref _ => Entry.records_nil, fun ref _ => rfl, fun ref hf => ?_,
      fun place change score hw => ?_⟩
    · cases hf
    · obtain ⟨write, hwrite⟩ := hbegin place _ hw
      cases write <;> cases hwrite

/-- Every race is sound. -/
theorem exists_sound_run (writes : List Write) (schedule : List Nat) :
    ∃ owner, Sound owner (run writes schedule) := by
  refine run_induction (P := fun r => ∃ owner, Sound owner r)
    ⟨fun _ => 0, sound_start _ writes⟩ (fun r place hs => ?_) schedule
  obtain ⟨owner, hs⟩ := hs
  rcases r.advance_cases place with hsame | ⟨before, after, memory, hb, hstep, hmoved⟩
  · rw [hsame]
    exact ⟨owner, hs⟩
  · rw [hmoved]
    exact hs.moved hb hstep

/-- A step leaves a flagged entry as it is. -/
theorem Sound.cell_moved (hs : Sound owner r) (hb : r.writers[place]? = some before)
    (hstep : before.Stepped r.memory after memory) {ref : Nat}
    (hf : (r.memory.cell ref).removed = true) : memory.cell ref = r.memory.cell ref := by
  obtain ⟨hh, hp, hk⟩ := hs
  cases hstep with
  | looked => rfl
  | entered => exact r.memory.cell_enter _ ref
  | applied e other hother =>
    obtain ⟨hlt, -⟩ := hh.current place _ _ other hb rfl
    rw [Memory.cell_write _ hlt, if_neg]
    rintro rfl
    rw [hf] at hother
    cases hother
  | took => rfl
  | cleared post other =>
    obtain ⟨hlt, -⟩ := hh.current place _ _ other hb rfl
    rw [Memory.cell_write _ hlt]
    split
    case isTrue hsame =>
      subst hsame
      rw [Cell.clear, ← hk.votes_eq_empty ref hf, ← hf]
    case isFalse => rfl

/-- One more turn. -/
theorem run_concat (writes : List Write) (schedule : List Nat) (place : Nat) :
    run writes (schedule ++ [place]) = (run writes schedule).advance place := by
  rw [run, List.foldl_append]
  rfl

/-- However a race goes on, it leaves a flagged entry as it is. -/
theorem cell_run_append (writes : List Write) (schedule : List Nat) {ref : Nat}
    (hf : ((run writes schedule).memory.cell ref).removed = true) (later : List Nat) :
    (run writes (schedule ++ later)).memory.cell ref = (run writes schedule).memory.cell ref := by
  induction later using List.reverseRecOn with
  | nil => rw [List.append_nil]
  | append_singleton later place ih =>
    obtain ⟨owner, hs⟩ := exists_sound_run writes (schedule ++ later)
    rw [← List.append_assoc, run_concat]
    rcases advance_cases (run writes (schedule ++ later)) place with
      hsame | ⟨before, after, memory, hb, hstep, hmoved⟩
    · rw [hsame, ih]
    · rw [← ih] at hf
      rw [hmoved, memory_moved, hs.cell_moved hb hstep hf, ih]

/-- Every writer is busy with the call that it began with. -/
theorem map_call_run (writes : List Write) (schedule : List Nat) :
    (run writes schedule).writers.map Writer.call = writes.map Write.call := by
  refine run_induction (P := fun r => r.writers.map Writer.call = writes.map Write.call)
    ?_ (fun r place hcalls => ?_) schedule
  · rw [List.map_map]
    refine List.map_congr_left fun write _ => ?_
    cases write <;> rfl
  · rcases r.advance_cases place with hsame | ⟨before, after, memory, hb, hstep, hmoved⟩
    · rw [hsame, hcalls]
    · rw [hmoved, ← hcalls]
      refine List.ext_getElem? fun other => ?_
      rw [List.getElem?_map, List.getElem?_map, getElem?_writers_moved hb]
      split
      case isTrue hother => rw [hother, hb, Option.map_some, Option.map_some, hstep.call_eq]
      case isFalse => rfl

/-- Whether the vote of a user in the entry behind a reference is that of a change or of a later one
of the same user, where `later` are the steps since the change took effect. -/
def Votes (r : Race) (ref : Nat) (change : Vote.Change) (later : List Move) : Prop :=
  (r.memory.cell ref).entry.votes[change.user]? = some change.next ∨
    ∃ move ∈ later, ∃ other, move.edit? ref = some (.commit other) ∧
      other.user = change.user ∧
        (r.memory.cell ref).entry.votes[change.user]? = some other.next

/-- Where a change has gone that the writer at a place was told is committed. It took effect in a
step of this writer. Its post is registered with the entry of that step, which has the vote of the
change or of a later one of the same user, or a removal of the post has come to its end since
then. -/
def AccountsFor (r : Race) (place : Nat) (change : Vote.Change) (score : Int64) : Prop :=
  ∃ earlier move later ref, r.moves = earlier ++ move :: later ∧
    Commits move place ref change score ∧
    (r.memory.posts[change.post]? = some ref ∧ r.Votes ref change later ∨
      ∃ last ∈ later, last.after = .returned (.remove change.post) ())

/-- In an entry that is not flagged the vote of a user is that of a change or of a later one. -/
theorem Kept.votes (hk : Kept r) {ref : Nat} {change : Vote.Change}
    {earlier later : List Move} {move : Move} (hf : (r.memory.cell ref).removed = false)
    (hmoves : r.moves = earlier ++ move :: later) (he : move.edit? ref = some (.commit change)) :
    r.Votes ref change later := by
  have hvote := (hk.records ref hf).vote_eq change.user
  have hown : (Edit.commit change).vote? change.user = some change.next := if_pos rfl
  rw [edits, hmoves, List.filterMap_append, List.filterMap_cons_some he, List.filterMap_append,
    List.filterMap_cons_some hown, List.getLast?_append, List.getLast?_cons] at hvote
  cases hlast : ((later.filterMap (Move.edit? ref)).filterMap
      (Edit.vote? change.user)).getLast? with
  | none =>
    rw [hlast] at hvote
    exact Or.inl hvote
  | some vote =>
    rw [hlast] at hvote
    obtain ⟨e, hmem, hv⟩ := List.mem_filterMap.1 (List.mem_of_getLast? hlast)
    obtain ⟨last, hl, hedit⟩ := List.mem_filterMap.1 hmem
    cases e with
    | commit other =>
      rw [Edit.vote?] at hv
      split at hv
      case isTrue huser =>
        cases hv
        exact Or.inr ⟨last, hl, other, hedit, huser, hvote⟩
      case isFalse => cases hv
    | adjust post delta => cases hv

/-- When all calls have returned, an entry that is not flagged is that of its post. -/
theorem Sound.listed_of_finished (hs : Sound owner r) (hfinished : r.Finished) {ref : Nat}
    (hlt : ref < r.memory.cells.length) (hf : (r.memory.cell ref).removed = false) :
    r.memory.posts[owner ref]? = some ref := by
  rcases hs.placed.pending ref hlt hf with hlisted | ⟨place, hc⟩
  · exact hlisted
  · obtain ⟨call, reply, hreturned⟩ := hfinished _ (List.mem_of_getElem? hc)
    cases hreturned

/-- Any number of writers, in any order of their steps, from the empty store on. An entry to which
the map leads is not flagged, and its score is the sum of its votes and of the adjustments that took
effect on it. A flagged entry stays as it is, whatever steps follow. When all calls have returned,
every change that was answered as committed is seen in the entry of its post, or was replaced there
by a later one of the same user, unless a removal of the post has come to its end since it took
effect. -/
theorem removals_spare_commits (writes : List Write) (schedule : List Nat) :
    (run writes schedule).writers.map Writer.call = writes.map Write.call ∧
    (∀ (post : Int64) (ref : Nat), (run writes schedule).memory.posts[post]? = some ref →
      ((run writes schedule).memory.cell ref).removed = false ∧
      ((run writes schedule).memory.cell ref).entry.score =
        ((run writes schedule).memory.cell ref).entry.balance +
          (((run writes schedule).edits ref).filterMap Edit.adjustment?).sum) ∧
    (∀ ref, ((run writes schedule).memory.cell ref).removed = true →
      ∀ later, (run writes (schedule ++ later)).memory.cell ref =
        (run writes schedule).memory.cell ref) ∧
    ((run writes schedule).Finished → ∀ (place : Nat) change score,
      (run writes schedule).writers[place]? =
          some (.returned (.commitVote change) (.committed score)) →
        (run writes schedule).AccountsFor place change score) := by
  obtain ⟨owner, hs⟩ := exists_sound_run writes schedule
  refine ⟨map_call_run writes schedule, fun post ref hm => ?_,
    fun ref hf => cell_run_append writes schedule hf, fun hfinished place change score hw => ?_⟩
  · obtain ⟨-, -, hf⟩ := hs.placed.listed post ref hm
    exact ⟨hf, (hs.kept.records ref hf).score_eq⟩
  · obtain ⟨move, hm, ref, hc⟩ := hs.kept.answered place change score hw
    obtain ⟨earlier, later, hmoves⟩ := List.append_of_mem hm
    have he := hc.edit?_eq
    refine ⟨earlier, move, later, ref, hmoves, hc, ?_⟩
    cases hf : ((run writes schedule).memory.cell ref).removed with
    | true => exact Or.inr (hs.kept.followed ref hf earlier move later _ hmoves he)
    | false =>
      have hbefore := (Move.before_of_edit? he).1
      obtain ⟨hlt, hown⟩ := hs.held.past move hm change.post ref (hbefore ▸ rfl)
      have hlisted := hs.listed_of_finished hfinished hlt hf
      rw [hown] at hlisted
      exact Or.inl ⟨hlisted, hs.kept.votes hf hmoves he⟩

/-- Three users vote on a post, a fourth call adjusts its score, and a fifth one removes it. -/
def crowd : List Write :=
  [.edit (.commit ⟨1, 10, none, .like⟩), .edit (.commit ⟨1, 11, none, .like⟩),
    .edit (.commit ⟨1, 12, none, .like⟩), .edit (.adjust 1 3), .remove 1]

/-- The first vote is complete before the removal begins. The second and the third writer fetch the
entry, and it is taken out of the map. The second vote still takes effect on it, the adjustment
registers the post again, and the flag is set. The third writer finds it and starts over. -/
def crossing : List Nat :=
  [0, 0, 0, 1, 2, 4, 1, 3, 3, 4, 2, 2, 2, 3]

/-- The first two votes have gone with the entry that was removed, and the third one is in the new
entry. -/
theorem removals_spare_commits_of_crossing :
    (run crowd crossing).writers =
      [.returned (.commitVote ⟨1, 10, none, .like⟩) (.committed 1),
        .returned (.commitVote ⟨1, 11, none, .like⟩) (.committed 2),
        .returned (.commitVote ⟨1, 12, none, .like⟩) (.committed 1),
        .returned (.adjustScore 1 3) (4 : Int64), .returned (.remove 1) ()] ∧
    (run crowd crossing).Finished ∧
    (run crowd crossing).memory.posts[(1 : Int64)]? = some 1 ∧
    ((run crowd crossing).memory.cell 0).removed = true ∧
    ((run crowd crossing).memory.cell 1).removed = false ∧
    (run crowd crossing).AccountsFor 1 ⟨1, 11, none, .like⟩ 2 ∧
    (run crowd crossing).AccountsFor 2 ⟨1, 12, none, .like⟩ 1 := by
  have hwriters : (run crowd crossing).writers =
      [.returned (.commitVote ⟨1, 10, none, .like⟩) (.committed 1),
        .returned (.commitVote ⟨1, 11, none, .like⟩) (.committed 2),
        .returned (.commitVote ⟨1, 12, none, .like⟩) (.committed 1),
        .returned (.adjustScore 1 3) (4 : Int64), .returned (.remove 1) ()] := rfl
  have hlisted : (run crowd crossing).memory.posts[(1 : Int64)]? = some 1 := rfl
  have hfinished : (run crowd crossing).Finished := by
    intro w hw
    rw [hwriters] at hw
    simp only [List.mem_cons, List.not_mem_nil, or_false] at hw
    rcases hw with rfl | rfl | rfl | rfl | rfl <;> exact ⟨_, _, rfl⟩
  obtain ⟨-, hkept, -, hcommits⟩ := removals_spare_commits crowd crossing
  exact ⟨hwriters, hfinished, hlisted, rfl, (hkept 1 1 hlisted).1,
    hcommits hfinished 1 _ _ (by rw [hwriters]; rfl),
    hcommits hfinished 2 _ _ (by rw [hwriters]; rfl)⟩

end Forum.Engagement.Race
