import Mathlib
import Forum.Identifier.Generator
import Forum.Proofs.Posts.Careful
import Forum.Proofs.Workflow

/-!
# Overtaken requests

Whether a post has a row is asked of the database, and then the post is registered with the
engagement store. Between the two a deletion can begin and end, and the entry that it has removed
comes back with no row to it. This is the only way in which requests that take turns leave an entry
without a row: `Tracked` is the invariant, which follows each row that was shown until its deletion
and its removal from the ranking. As long as the removal is still to come the entry will go.
-/

namespace Forum

namespace Turn

variable {σ : Type} (t : Turn σ) (post : Int64)

/-- Whether the turn has shown that a post has a row. -/
def Shows : Prop := Effect.shows post t.effect t.reply

/-- Whether the turn has deleted the row of a post. -/
def Deletes : Prop := Effect.deletes post t.effect t.reply

/-- Whether the turn has removed a post from the ranking. -/
def Removes : Prop := t.effect.removes post

/-- Whether the turn has registered a post, or left it registered. -/
def Enters : Prop := t.effect.enters post

end Turn

namespace Posts

/-- Whether a request registered a post whose row it had seen, after another request had deleted the
row and removed the post. -/
def Overtaken {σ : Type} (turns : List (Turn σ)) (post : Int64) : Prop :=
  ∃ s d t u : Turn σ, [s, d, t, u].Sublist turns ∧ s.Shows post ∧ d.Deletes post ∧
    t.Removes post ∧ u.Enters post ∧ t.place = d.place ∧ u.place = s.place ∧ u.place ≠ d.place

/-- Later turns do not matter. -/
theorem Overtaken.concat {σ : Type} {turns : List (Turn σ)} {post : Int64}
    (h : Overtaken turns post) (turn : Turn σ) : Overtaken (turns ++ [turn]) post := by
  obtain ⟨s, d, t, u, horder, hrest⟩ := h
  exact ⟨s, d, t, u, horder.trans (List.sublist_append_left turns [turn]), hrest⟩

variable {α : Type}

/-- Whether the request at a place is about to remove a post. -/
def Removing (r : Interleaving World α) (place : Nat) (post : Int64) : Prop :=
  ∃ task, r.tasks[place]? = some task ∧ task.Removes post

/-- What has become of a post since a turn has shown its row. -/
inductive Since (r : Interleaving World α) (post : Int64) (s : Turn World) : Prop
  /-- The row is there. -/
  | there (row : r.state.tables.HasPost post)
  /-- It was deleted, and the post is about to be removed from the ranking. -/
  | deleted {d : Turn World} (order : [s, d].Sublist r.turns) (deletes : d.Deletes post)
    (removing : Removing r d.place post)
  /-- It was deleted, and the post was removed. -/
  | removed {d t : Turn World} (order : [s, d, t].Sublist r.turns) (deletes : d.Deletes post)
    (removes : t.Removes post) (same : t.place = d.place)

/-- What holds after every turn. -/
structure Tracked (r : Interleaving World α) : Prop where
  /-- Every request keeps to the rules, given the rows that it has seen. -/
  careful : ∀ place (task : Workflow α), r.tasks[place]? = some task →
    task.Careful fun post => ∃ s ∈ r.turns, s.place = place ∧ s.Shows post
  /-- A request that has removed a post is done. -/
  ended : ∀ t ∈ r.turns, ∀ post, t.Removes post →
    ∀ task : Workflow α, r.tasks[t.place]? = some task → task.IsDone
  /-- A row that was shown is there, or it was deleted since. -/
  shown : ∀ s ∈ r.turns, ∀ post, s.Shows post → Since r post s
  /-- A post that is registered has a row, or is about to be removed, or a request was overtaken. -/
  registered : ∀ post, (r.state.tally.scoreOf post).isSome → r.state.tables.HasPost post ∨
    (∃ place, Removing r place post) ∨ Overtaken r.turns post

/-! ## One turn -/

section Step

variable {r : Interleaving World α} {place : Nat} {e : Effect}
  {next : Except Fault e.Reply → Workflow α}

/-- A request that is about to remove a post is still so after a turn, unless the turn is its own.
-/
theorem removing_advance (h : r.tasks[place]? = some (.ask e next)) {other : Nat} {post : Int64}
    (hr : Removing r other post) :
    other = place ∧ e.removes post ∨ Removing (r.advance World.answer place) other post := by
  obtain ⟨task, htask, hremoves⟩ := hr
  by_cases hsame : other = place
  · rw [hsame, h, Option.some.injEq] at htask
    subst htask
    exact .inl ⟨hsame, hremoves⟩
  · refine .inr ⟨task, ?_, hremoves⟩
    rw [Interleaving.getElem?_tasks_advance World.answer h, if_neg hsame, htask]

/-- After its row was deleted a post is about to be removed. -/
theorem Tracked.removing_of_deletes (hr : Tracked r) (h : r.tasks[place]? = some (.ask e next))
    {post : Int64} (hd : e.deletes post (World.answer e r.state).1) :
    Removing (r.advance World.answer place) place post := by
  refine ⟨next (World.answer e r.state).1, ?_, ?_⟩
  · rw [Interleaving.getElem?_tasks_advance World.answer h, if_pos rfl]
  · cases hr.careful place _ h with
    | ask _ deletes _ _ => exact deletes post _ hd

/-- What has become of a post is followed over a turn. -/
theorem Since.advance (hr : Tracked r) (h : r.tasks[place]? = some (.ask e next)) {post : Int64}
    {s : Turn World} (hs : s ∈ r.turns) (hsince : Since r post s) :
    Since (r.advance World.answer place) post s := by
  have hturns := Interleaving.turns_advance World.answer h
  have hearlier : r.turns.Sublist (r.advance World.answer place).turns := by
    rw [hturns]
    exact List.sublist_append_left _ _
  cases hsince with
  | there row =>
    rcases r.state.hasPost_answer row with hkept | hdeleted
    · exact .there (Interleaving.state_advance World.answer h ▸ hkept)
    · refine .deleted (d := r.turn World.answer place e) ?_ hdeleted
        (hr.removing_of_deletes h hdeleted)
      rw [hturns]
      exact (List.singleton_sublist.2 hs).append (List.Sublist.refl _)
  | deleted order deletes removing =>
    rcases removing_advance h removing with ⟨hplace, hremoves⟩ | hstill
    · refine .removed (t := r.turn World.answer place e) ?_ deletes hremoves hplace.symm
      rw [hturns]
      exact order.append (List.Sublist.refl _)
    · exact .deleted (order.trans hearlier) deletes hstill
  | removed order deletes removes same =>
    exact .removed (order.trans hearlier) deletes removes same

/-- A request that registers a post has seen its row. If the row is gone, and no removal is to come,
the request was overtaken. -/
theorem Tracked.of_enters (hr : Tracked r) (h : r.tasks[place]? = some (.ask e next))
    {post : Int64} (he : e.enters post) :
    (r.advance World.answer place).state.tables.HasPost post ∨
      (∃ other, Removing (r.advance World.answer place) other post) ∨
        Overtaken (r.advance World.answer place).turns post := by
  obtain ⟨s, hs, hplace, hshows⟩ : ∃ s ∈ r.turns, s.place = place ∧ s.Shows post := by
    cases hr.careful place _ h with
    | ask enters _ _ _ => exact enters post he
  cases hr.shown s hs post hshows with
  | there row =>
    rcases r.state.hasPost_answer row with hkept | hdeleted
    · exact .inl (Interleaving.state_advance World.answer h ▸ hkept)
    · exact absurd hdeleted (Effect.not_deletes_of_enters he post _)
  | @deleted d _ _ removing =>
    rcases removing_advance h removing with ⟨-, hremoves⟩ | hstill
    · exact absurd hremoves (Effect.not_removes_of_enters he)
    · exact .inr (.inl ⟨d.place, hstill⟩)
  | @removed d t order deletes removes same =>
    have hother : place ≠ d.place := by
      intro hsame
      have ht : t ∈ r.turns := order.subset (by simp)
      obtain ⟨a, ha⟩ := hr.ended t ht post removes (.ask e next) (by rw [same, ← hsame, h])
      cases ha
    refine .inr (.inr ⟨s, d, t, r.turn World.answer place e, ?_, hshows, deletes, removes, he,
      same, hplace.symm, hother⟩)
    rw [Interleaving.turns_advance World.answer h]
    exact order.append (List.Sublist.refl _)

/-- Every request still keeps to the rules, and the one whose turn it was may have seen one more
row. -/
theorem Tracked.careful_advance (hr : Tracked r) (h : r.tasks[place]? = some (.ask e next))
    {other : Nat} {task : Workflow α}
    (htask : (r.advance World.answer place).tasks[other]? = some task) :
    task.Careful fun post =>
      ∃ s ∈ (r.advance World.answer place).turns, s.place = other ∧ s.Shows post := by
  rw [Interleaving.getElem?_tasks_advance World.answer h] at htask
  rw [Interleaving.turns_advance World.answer h]
  split at htask
  · next hsame =>
    obtain rfl := Option.some.inj htask
    cases hr.careful place _ h with
    | ask _ _ _ goes =>
      refine (goes _).mono fun post hp => ?_
      rcases hp with ⟨s, hs, hplace, hshows⟩ | hshows
      · exact ⟨s, List.mem_append_left _ hs, hplace.trans hsame.symm, hshows⟩
      · exact ⟨r.turn World.answer place e, List.mem_concat_self, hsame.symm, hshows⟩
  · refine (hr.careful other task htask).mono ?_
    rintro post ⟨s, hs, hrest⟩
    exact ⟨s, List.mem_append_left _ hs, hrest⟩

/-- A request that has removed a post takes no more turns. -/
theorem Tracked.ended_advance (hr : Tracked r) (h : r.tasks[place]? = some (.ask e next))
    {t : Turn World} (ht : t ∈ (r.advance World.answer place).turns) {post : Int64}
    (hremoves : t.Removes post) {task : Workflow α}
    (htask : (r.advance World.answer place).tasks[t.place]? = some task) : task.IsDone := by
  rw [Interleaving.turns_advance World.answer h, List.mem_append, List.mem_singleton] at ht
  rw [Interleaving.getElem?_tasks_advance World.answer h] at htask
  rcases ht with ht | rfl
  · split at htask
    · next hsame =>
      obtain ⟨a, ha⟩ := hr.ended t ht post hremoves (.ask e next) (by rw [hsame, h])
      cases ha
    · exact hr.ended t ht post hremoves task htask
  · obtain rfl := Option.some.inj ((if_pos rfl).symm.trans htask)
    cases hr.careful place _ h with
    | ask _ _ removes _ => exact removes post _ hremoves

/-- A post that is registered after a turn was registered by it, or before. -/
theorem Tracked.registered_advance (hr : Tracked r) (h : r.tasks[place]? = some (.ask e next))
    {post : Int64} (hpost : ((r.advance World.answer place).state.tally.scoreOf post).isSome) :
    (r.advance World.answer place).state.tables.HasPost post ∨
      (∃ other, Removing (r.advance World.answer place) other post) ∨
        Overtaken (r.advance World.answer place).turns post := by
  rw [Interleaving.state_advance World.answer h, World.registered_answer] at hpost
  rcases hpost with henters | ⟨hbefore, hkept⟩
  · exact hr.of_enters h henters
  · rcases hr.registered post hbefore with row | ⟨other, removing⟩ | hovertaken
    · rcases r.state.hasPost_answer row with hstays | hdeleted
      · exact .inl (Interleaving.state_advance World.answer h ▸ hstays)
      · exact .inr (.inl ⟨place, hr.removing_of_deletes h hdeleted⟩)
    · rcases removing_advance h removing with ⟨-, hremoves⟩ | hstill
      · exact absurd hremoves hkept
      · exact .inr (.inl ⟨other, hstill⟩)
    · rw [Interleaving.turns_advance World.answer h]
      exact .inr (.inr (hovertaken.concat _))

/-- A turn keeps track of all posts. -/
theorem Tracked.advance_ask (hr : Tracked r) (h : r.tasks[place]? = some (.ask e next)) :
    Tracked (r.advance World.answer place) where
  careful _ _ htask := hr.careful_advance h htask
  ended _ ht _ hremoves _ htask := hr.ended_advance h ht hremoves htask
  shown s hs post hshows := by
    rw [Interleaving.turns_advance World.answer h, List.mem_append, List.mem_singleton] at hs
    rcases hs with hs | rfl
    · exact (hr.shown s hs post hshows).advance hr h hs
    · exact .there (Interleaving.state_advance World.answer h ▸ r.state.hasPost_of_shows hshows)
  registered _ hpost := hr.registered_advance h hpost

end Step

/-- So does a turn of any request, or of none. -/
theorem Tracked.advance {r : Interleaving World α} (hr : Tracked r) (place : Nat) :
    Tracked (r.advance World.answer place) := by
  rcases h : r.tasks[place]? with _ | (a | ⟨e, next⟩)
  · rwa [Interleaving.advance_of_none World.answer h]
  · rwa [Interleaving.advance_of_done World.answer h]
  · exact hr.advance_ask h

/-- Requests that have not begun. -/
theorem tracked_start {w : World} (rules : Rules) (requests : List Http.Request)
    (hrows : ∀ post, (w.tally.scoreOf post).isSome → w.tables.HasPost post) :
    Tracked ⟨w, requests.map (Http.respond rules), []⟩ where
  careful place task htask := by
    rw [List.getElem?_map, Option.map_eq_some_iff] at htask
    obtain ⟨request, -, rfl⟩ := htask
    exact Http.careful_respond rules request
  ended t ht := absurd ht List.not_mem_nil
  shown s hs := absurd hs List.not_mem_nil
  registered post hpost := .inl (hrows post hpost)

/-- Any requests that take turns in any order, from a forum in which every registered post has a
row. When all are answered, a post that is registered or has a vote has a row, or a request that had
seen the row was overtaken by the deletion of the post and registered it again. -/
theorem row_or_overtaken (w : World) (rules : Rules) (requests : List Http.Request)
    (schedule : List Nat)
    (hrows : ∀ post, (w.tally.scoreOf post).isSome → w.tables.HasPost post) :
    let run := Interleaving.run World.answer w (requests.map (Http.respond rules)) schedule
    run.Finished → ∀ post,
      ((run.state.tally.scoreOf post).isSome ∨
        ∃ user, (run.state.tally.voteOf post user).isSome) →
      run.state.tables.HasPost post ∨ Overtaken run.turns post := by
  intro run hfinished post hleft
  have htracked : Tracked run := Interleaving.run_induction World.answer
    (tracked_start rules requests hrows) (fun _ place hr => hr.advance place) schedule
  have hregistered : (run.state.tally.scoreOf post).isSome := by
    rcases hleft with hscore | ⟨user, hvote⟩
    · exact hscore
    · by_contra hnone
      rw [Option.not_isSome_iff_eq_none] at hnone
      rw [Engagement.Tally.voteOf_of_none _ _ _ hnone] at hvote
      cases hvote
  rcases htracked.registered post hregistered with hrow | ⟨place, task, htask, hremoves⟩ | hover
  · exact .inl hrow
  · obtain ⟨a, rfl⟩ := hfinished task (List.mem_of_getElem? htask)
    exact hremoves.elim
  · exact .inr hover

/-- A post of the first user, registered, and a second user. -/
def contested : World :=
  let noon : Timestamp := .noon
  ⟨⟨[⟨1, "ann", "ann", "a", noon⟩, ⟨2, "bob", "bob", "b", noon⟩], [⟨7, 1, "Title", "", noon⟩]⟩,
    (Engagement.Tally.empty.register 7).2, .unused, .ticking 0, noon⟩

/-- The first user's request to delete the post. -/
def deletion : Http.Request :=
  ⟨.delete, ⟨"/api/posts/7".toList, none⟩, [("authorization", "Bearer a")], ""⟩

/-- The second user likes the post while the first one deletes it. -/
def likeAndDeletion : List Http.Request :=
  [⟨.post, ⟨"/api/posts/7/like".toList, none⟩, [("authorization", "Bearer b")], ""⟩, deletion]

/-- The like finds the row, then the deletion takes all of its turns, then the vote is recorded. -/
theorem row_or_overtaken_of_race :
    let rules : Rules := ⟨true, 2000, 8, ⟨20, 100⟩⟩
    let run := Interleaving.run World.answer contested (likeAndDeletion.map (Http.respond rules))
      [0, 0, 1, 1, 1, 1, 0, 0]
    (∀ post, (contested.tally.scoreOf post).isSome → contested.tables.HasPost post) ∧
      run.Finished ∧ Overtaken run.turns 7 := by
  intro rules run
  have hrows : ∀ post, (contested.tally.scoreOf post).isSome → contested.tables.HasPost post := by
    intro post hpost
    have htally : contested.tally = (Engagement.Tally.empty.answer (.register 7)).2 := rfl
    rw [htally, Engagement.Tally.isSome_scoreOf_answer] at hpost
    rcases hpost with hsame | ⟨hempty, -⟩
    · exact ⟨_, List.mem_singleton_self _, hsame⟩
    · simp [Engagement.Tally.empty, Engagement.Tally.scoreOf] at hempty
  have hfinished : ∀ task ∈ run.tasks, task.IsDone := by decide +kernel
  refine ⟨hrows, hfinished, ?_⟩
  have hleft := row_or_overtaken contested rules likeAndDeletion [0, 0, 1, 1, 1, 1, 0, 0] hrows
    hfinished 7
  refine (hleft (Or.inl ?_)).resolve_left ?_
  · decide +kernel
  · decide +kernel

/-- Both requests have succeeded then. The post is registered and has a vote but no row, and it
cannot be deleted any more. -/
theorem race_left_ghost :
    let rules : Rules := ⟨true, 2000, 8, ⟨20, 100⟩⟩
    let run := Interleaving.run World.answer contested (likeAndDeletion.map (Http.respond rules))
      [0, 0, 1, 1, 1, 1, 0, 0]
    run.Finished ∧ run.state.tally.scoreOf 7 = some 1 ∧
      run.state.tally.voteOf 7 2 = some .like ∧ ¬ run.state.tables.HasPost 7 ∧
      ((Http.respond rules deletion).run World.answer run.state).1.status = 404 := by
  intro rules run
  have hfinished : ∀ task ∈ run.tasks, task.IsDone := by decide +kernel
  have hentry : run.state.tally.scoreOf 7 = some 1 ∧ run.state.tally.voteOf 7 2 = some .like := by
    decide +kernel
  have hgone : ¬ run.state.tables.HasPost 7 := by decide +kernel
  have hagain : ((Http.respond rules deletion).run World.answer run.state).1.status = 404 := by
    decide +kernel
  exact ⟨hfinished, hentry.1, hentry.2, hgone, hagain⟩

end Posts

end Forum
