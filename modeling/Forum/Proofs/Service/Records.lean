import Mathlib
import Forum.Proofs.Workflow
import Forum.Service.Records

/-!
# Rows in a given order

Looking up many posts takes one row after the other out of those that the database has answered,
and the last row moves into the gap. So the rows that remain are in another order, but they are the
same rows without the one that was taken, and every identifier whose row is among them finds it. It
does not matter in which order the database has answered.
-/

namespace Forum.Records

/-- A taken element and those that remain are the elements of the list. -/
theorem swapRemove_perm {α : Type} {xs : List α} {place : Nat} (h : place < xs.length) :
    (xs[place] :: swapRemove xs place).Perm xs := by
  rcases List.eq_nil_or_concat xs with rfl | ⟨ys, last, rfl⟩
  · cases h
  · rw [List.concat_eq_append, List.length_append, List.length_singleton] at h
    simp only [swapRemove, List.concat_eq_append, List.getLast?_concat]
    by_cases hlast : place = ys.length
    · subst hlast
      have hset : (ys ++ [last]).set ys.length last = ys ++ [last] := by
        rw [List.set_append_right _ _ (le_refl _), Nat.sub_self, List.set_cons_zero]
      rw [hset, List.dropLast_concat, List.getElem_concat_length rfl]
      exact (List.perm_append_singleton last ys).symm
    · have hplace : place < ys.length := by omega
      rw [List.set_append_left _ _ hplace, List.dropLast_concat,
        List.getElem_append_left hplace]
      -- The last element stands where the taken one stood.
      calc List.Perm (ys[place] :: ys.set place last)
            (ys[place] :: (ys.take place ++ last :: ys.drop (place + 1))) := by
            rw [List.set_eq_take_append_cons_drop, if_pos hplace]
        List.Perm _ (last :: (ys.take place ++ ys[place] :: ys.drop (place + 1))) :=
          (List.perm_middle.cons _).trans
            ((List.Perm.swap _ _ _).trans (List.perm_middle.symm.cons _))
        List.Perm _ (ys ++ [last]) := by
            rw [← List.drop_eq_getElem_cons hplace, List.take_append_drop]
            exact (List.perm_append_singleton last ys).symm

/-- What one identifier of a look-up does: it is passed over if no row has it, and otherwise takes
out one such row and leaves the others, in some order. -/
theorem inOrder_cons_cases (id : Int64) (ids : List Int64) (rows : List Post) :
    (id ∉ rows.map (·.id) ∧ inOrder (id :: ids) rows = inOrder ids rows) ∨
      ∃ row rest, row.id = id ∧ (row :: rest).Perm rows ∧
        inOrder (id :: ids) rows = row :: inOrder ids rest := by
  rw [inOrder]
  by_cases hany : ∃ row ∈ rows, decide (row.id = id) = true
  · obtain ⟨place, hplace⟩ := Option.isSome_iff_exists.1 (List.findIdx?_isSome.trans
      (List.any_eq_true.2 hany))
    obtain ⟨hlt, htaken, -⟩ := List.findIdx?_eq_some_iff_getElem.1 hplace
    have hrow : rows.find? (·.id = id) = some rows[place] := by
      rw [List.find?_eq_bind_findIdx?_getElem?, hplace, Option.bind_some,
        List.getElem?_eq_getElem hlt]
    rw [hrow, hplace]
    exact .inr ⟨_, _, of_decide_eq_true htaken, swapRemove_perm hlt, rfl⟩
  · have hnone : rows.find? (·.id = id) = none :=
      List.find?_eq_none.2 fun row hrow hsame => hany ⟨row, hrow, hsame⟩
    have hnotMem : id ∉ rows.map (·.id) := fun hmem => by
      obtain ⟨row, hrow, hid⟩ := List.mem_map.1 hmem
      exact hany ⟨row, hrow, decide_eq_true hid⟩
    rw [hnone]
    exact .inl ⟨hnotMem, rfl⟩

/-- Every identifier that has a row finds one, in the order of the identifiers. -/
theorem map_id_inOrder {ids : List Int64} {rows : List Post} (hids : ids.Nodup) :
    (inOrder ids rows).map (·.id) = ids.filter (· ∈ rows.map (·.id)) := by
  induction ids generalizing rows with
  | nil => rfl
  | cons id ids ih =>
    rw [List.nodup_cons] at hids
    rcases inOrder_cons_cases id ids rows with ⟨hnotMem, heq⟩ | ⟨row, rest, hid, hperm, heq⟩
    · rw [heq, List.filter_cons_of_neg (by simpa using hnotMem)]
      exact ih hids.2
    · have hrows : ∀ other, other ∈ rows.map (·.id) ↔ other = id ∨ other ∈ rest.map (·.id) := by
        intro other
        rw [← (hperm.map (·.id)).mem_iff, List.map_cons, List.mem_cons, hid]
      have hrest : ids.filter (· ∈ rest.map (·.id)) = ids.filter (· ∈ rows.map (·.id)) := by
        refine List.filter_congr fun other hother => decide_eq_decide.2 ?_
        have hne : other ≠ id := fun hsame => hids.1 (hsame ▸ hother)
        rw [hrows other, or_iff_right hne]
      have hkept : (id :: ids).filter (· ∈ rows.map (·.id)) =
          id :: ids.filter (· ∈ rows.map (·.id)) :=
        List.filter_cons_of_pos (decide_eq_true ((hrows id).2 (.inl rfl)))
      rw [heq, List.map_cons, ih hids.2, hrest, hid, hkept]

/-- Every row that was answered is taken at most once. -/
theorem inOrder_subperm (ids : List Int64) (rows : List Post) :
    (inOrder ids rows).Subperm rows := by
  induction ids generalizing rows with
  | nil => exact List.nil_subperm
  | cons id ids ih =>
    rcases inOrder_cons_cases id ids rows with ⟨-, heq⟩ | ⟨row, rest, -, hperm, heq⟩
    · rw [heq]
      exact ih rows
    · rw [heq]
      exact ((List.subperm_cons row).2 (ih rest)).trans hperm.subperm

theorem inOrder_subset (ids : List Int64) (rows : List Post) : inOrder ids rows ⊆ rows :=
  (inOrder_subperm ids rows).subset

/-- Looking up many posts is one question, whose answer is put in order, and no question at all if
no identifier is given. -/
theorem run_findPosts {σ : Type} {answer : (e : Effect) → σ → Except Fault e.Reply × σ} {s : σ}
    {ids : List Int64} {found : List Post}
    (h : answer (.rows (.findPosts ids)) s = (.ok found, s)) :
    (findPosts ids).run.run answer s = (.ok (inOrder ids found), s) := by
  cases ids with
  | nil => rfl
  | cons id ids =>
    rw [findPosts, if_neg (by exact Bool.false_ne_true), query, Service.run_ask_bind,
      Workflow.run_ask, h]
    rfl

end Forum.Records
