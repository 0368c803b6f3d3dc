import Mathlib
import Forum.Proofs.Service.Records
import Forum.Proofs.World.Services

/-!
# The order that was asked for

Whoever looks up many posts gives a list of identifiers, in which some may stand twice and some may
have no post, and the database answers the posts there are, each once, in an order of its own.
`Requested` says what is made of that: a post stands where its identifier was given first. There is
only one such list, so nothing of the order in which the database has answered is left in it.
-/

namespace Forum.Records

/-- Rows as they were asked for by identifiers. -/
structure Requested (posts : List Post) (ids : List Int64) (rows : List Post) : Prop where
  /-- They are the posts that have one of the identifiers. -/
  mem_iff : ∀ row, row ∈ rows ↔ row ∈ posts ∧ row.id ∈ ids
  /-- No two of them have the same one. -/
  once : (rows.map (·.id)).Nodup
  /-- They stand in the order in which their identifiers were first given. -/
  order : rows.Pairwise fun a b => ids.idxOf a.id < ids.idxOf b.id

/-- There is only one way to give the rows that were asked for. -/
theorem Requested.unique {posts : List Post} {ids : List Int64} {rows rows' : List Post}
    (h : Requested posts ids rows) (h' : Requested posts ids rows') : rows = rows' := by
  have hperm : rows.Perm rows' :=
    (List.perm_ext_iff_of_nodup h.once.of_map h'.once.of_map).2 fun row =>
      (h.mem_iff row).trans (h'.mem_iff row).symm
  refine hperm.eq_of_pairwise (fun a b _ _ hab hba => ?_) h.order h'.order
  omega

section InOrder

variable {rows : List Post}

/-- One more identifier in front keeps the order of the rows that do not have it. -/
theorem pairwise_idxOf_cons {id : Int64} {ids : List Int64}
    (h : rows.Pairwise fun a b => ids.idxOf a.id < ids.idxOf b.id)
    (hother : ∀ row ∈ rows, row.id ≠ id) :
    rows.Pairwise fun a b => (id :: ids).idxOf a.id < (id :: ids).idxOf b.id := by
  refine h.imp_of_mem fun {a b} ha hb hab => ?_
  rw [List.idxOf_cons_ne _ (hother a ha).symm, List.idxOf_cons_ne _ (hother b hb).symm]
  omega

/-- A row that is taken leaves no other row with its identifier. -/
theorem nodup_of_taken {row : Post} {rest : List Post} (hperm : (row :: rest).Perm rows)
    (hkey : (rows.map (·.id)).Nodup) :
    (∀ other ∈ rest, other.id ≠ row.id) ∧ (rest.map (·.id)).Nodup := by
  have hcons : ((row :: rest).map (·.id)).Nodup := (hperm.map (·.id)).nodup_iff.2 hkey
  rw [List.map_cons, List.nodup_cons] at hcons
  refine ⟨fun other hother hsame => hcons.1 ?_, hcons.2⟩
  exact hsame ▸ List.mem_map_of_mem hother

/-- The rows in order are those that have one of the identifiers. -/
theorem mem_inOrder {ids : List Int64} (hkey : (rows.map (·.id)).Nodup) (row : Post) :
    row ∈ inOrder ids rows ↔ row ∈ rows ∧ row.id ∈ ids := by
  induction ids generalizing rows with
  | nil => simp [inOrder]
  | cons id ids ih =>
    rcases inOrder_cons_cases id ids rows with ⟨hnotMem, heq⟩ | ⟨taken, rest, hid, hperm, heq⟩
    · have hne : row ∈ rows → row.id ≠ id := fun hrow hsame =>
        hnotMem (hsame ▸ List.mem_map_of_mem hrow)
      rw [heq, ih hkey, List.mem_cons]
      grind
    · obtain ⟨hother, hrest⟩ := nodup_of_taken hperm hkey
      have hrows : row ∈ rows ↔ row = taken ∨ row ∈ rest := by
        rw [← hperm.mem_iff, List.mem_cons]
      rw [heq, List.mem_cons, ih hrest, hrows, List.mem_cons]
      grind

/-- They stand in the order in which the identifiers were first given. -/
theorem pairwise_inOrder (ids : List Int64) (hkey : (rows.map (·.id)).Nodup) :
    (inOrder ids rows).Pairwise fun a b => ids.idxOf a.id < ids.idxOf b.id := by
  induction ids generalizing rows with
  | nil => exact List.Pairwise.nil
  | cons id ids ih =>
    rcases inOrder_cons_cases id ids rows with ⟨hnotMem, heq⟩ | ⟨taken, rest, hid, hperm, heq⟩
    · rw [heq]
      refine pairwise_idxOf_cons (ih hkey) fun row hrow hsame => hnotMem ?_
      exact hsame ▸ List.mem_map_of_mem (inOrder_subset ids rows hrow)
    · obtain ⟨hother, hrest⟩ := nodup_of_taken hperm hkey
      have hlater : ∀ row ∈ inOrder ids rest, row.id ≠ id := fun row hrow =>
        hid ▸ hother row (inOrder_subset ids rest hrow)
      rw [heq]
      refine List.pairwise_cons.2 ⟨fun row hrow => ?_, pairwise_idxOf_cons (ih hrest) hlater⟩
      rw [hid, List.idxOf_cons_self, List.idxOf_cons_ne _ (hlater row hrow).symm]
      omega

end InOrder

section FindPosts

variable {posts : List Post} (unique : (posts.map (·.id)).Nodup) (ids : List Int64)

include unique

/-- Whatever the order in which the posts are answered, they end up as they were asked for. -/
theorem requested_inOrder {found : List Post} (h : found.Perm (posts.filter (·.id ∈ ids))) :
    Requested posts ids (inOrder ids found) := by
  have hkey : (found.map (·.id)).Nodup :=
    (h.map (·.id)).nodup_iff.2 (unique.sublist (List.filter_sublist.map Post.id))
  have horder := pairwise_inOrder ids hkey
  refine ⟨fun row => ?_, ?_, horder⟩
  · rw [mem_inOrder hkey, h.mem_iff, List.mem_filter, decide_eq_true_eq]
    grind
  · refine List.pairwise_map.2 (horder.imp fun {a b} hlt hsame => ?_)
    rw [hsame] at hlt
    omega

/-- **Looking up posts restores the order that was asked for.** Of a table in which no two posts
have the same identifier and of any list of identifiers there is one list of rows as they were
asked for, and looking up the posts returns it from all surroundings that answer the question with
the posts there are, each once and in whichever order. -/
theorem findPosts_in_requested_order :
    ∃ rows, Requested posts ids rows ∧
      ∀ (σ : Type) (answer : (e : Effect) → σ → Except Fault e.Reply × σ) (s : σ)
        (found : List Post), found.Perm (posts.filter (·.id ∈ ids)) →
        answer (.rows (.findPosts ids)) s = (.ok found, s) →
        (findPosts ids).run.run answer s = (.ok rows, s) := by
  refine ⟨_, requested_inOrder unique ids (List.Perm.refl _), fun σ answer s found hperm h => ?_⟩
  rw [run_findPosts h]
  have hsame := (requested_inOrder unique ids hperm).unique
    (requested_inOrder unique ids (List.Perm.refl _))
  rw [hsame]

end FindPosts

/-- A world in which the rows of posts are answered last row first. -/
def answerBackwards : (e : Effect) → World → Except Fault e.Reply × World
  | .rows (.findPosts ids), w => (.ok (w.tables.posts.filter (·.id ∈ ids)).reverse, w)
  | e, w => World.answer e w

/-- One identifier is given twice, one has no post, and the rows are answered in the order of the
table or the other way round. -/
theorem findPosts_either_way :
    (World.uneven.tables.posts.map (·.id)).Nodup ∧
    ∃ rows, Requested World.uneven.tables.posts [8, 7, 5, 8, 9] rows ∧
      rows.map (·.id) = [8, 7, 9] ∧
      World.uneven.runService (findPosts [8, 7, 5, 8, 9]) = (.ok rows, World.uneven) ∧
      (findPosts [8, 7, 5, 8, 9]).run.run answerBackwards World.uneven =
        (.ok rows, World.uneven) := by
  have unique : (World.uneven.tables.posts.map (·.id)).Nodup := by decide
  obtain ⟨rows, hrequested, hrun⟩ := findPosts_in_requested_order unique [8, 7, 5, 8, 9]
  have hforwards := hrun World World.answer World.uneven _ (List.Perm.refl _) rfl
  have hbackwards := hrun World answerBackwards World.uneven _ (List.reverse_perm _) rfl
  have hrows : rows.map (·.id) = [8, 7, 9] := by
    have hok : rows = inOrder [8, 7, 5, 8, 9] _ :=
      hrequested.unique (requested_inOrder unique _ (List.Perm.refl _))
    rw [hok]
    decide
  exact ⟨unique, rows, hrequested, hrows, hforwards, hbackwards⟩

end Forum.Records
