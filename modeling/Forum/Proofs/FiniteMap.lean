import Mathlib
import Std.Data.ExtTreeMap

/-!
# Finite maps

Look-up after an insertion or a removal with the two keys compared by equality, and the list of
the pairs of a map up to order: one pair can be drawn to its front, and an insertion replaces it.
Maps with the same look-up have the same pairs, so sums and counts over them need no order.
-/

namespace Forum.FiniteMap

variable {α β : Type} {cmp : α → α → Ordering} [Std.TransCmp cmp] [Std.LawfulEqCmp cmp]

/-- Look-up after an insertion. -/
theorem getElem?_insert [DecidableEq α] (m : Std.ExtTreeMap α β cmp) (key other : α) (value : β) :
    (m.insert key value)[other]? = if other = key then some value else m[other]? := by
  rw [Std.ExtTreeMap.getElem?_insert]
  by_cases h : other = key
  · rw [if_pos h, if_pos (by rw [h, Std.LawfulEqCmp.compare_eq_iff_eq])]
  · rw [if_neg h, if_neg (fun same => h (Std.LawfulEqCmp.eq_of_compare same).symm)]

/-- Look-up after a removal. -/
theorem getElem?_erase [DecidableEq α] (m : Std.ExtTreeMap α β cmp) (key other : α) :
    (m.erase key)[other]? = if other = key then none else m[other]? := by
  rw [Std.ExtTreeMap.getElem?_erase]
  by_cases h : other = key
  · rw [if_pos h, if_pos (by rw [h, Std.LawfulEqCmp.compare_eq_iff_eq])]
  · rw [if_neg h, if_neg (fun same => h (Std.LawfulEqCmp.eq_of_compare same).symm)]

/-- A second insertion under a key leaves nothing of the first one. -/
theorem insert_insert [DecidableEq α] (m : Std.ExtTreeMap α β cmp) (key : α) (first second : β) :
    (m.insert key first).insert key second = m.insert key second := by
  refine Std.ExtTreeMap.ext_getElem? fun other => ?_
  rw [getElem?_insert, getElem?_insert, getElem?_insert]
  split <;> rfl

/-- Insertions under different keys can be made in either order. -/
theorem insert_comm [DecidableEq α] (m : Std.ExtTreeMap α β cmp) {key key' : α} (h : key ≠ key')
    (value value' : β) :
    (m.insert key value).insert key' value' = (m.insert key' value').insert key value := by
  refine Std.ExtTreeMap.ext_getElem? fun other => ?_
  simp only [getElem?_insert]
  by_cases hkey : other = key
  · subst hkey
    rw [if_neg h, if_pos rfl, if_pos rfl]
  · rw [if_neg hkey, if_neg hkey]

/-- A key that is not there can be removed without effect. -/
theorem erase_of_none {m : Std.ExtTreeMap α β cmp} {key : α} (h : m[key]? = none) :
    m.erase key = m := by
  classical
  refine Std.ExtTreeMap.ext_getElem? fun other => ?_
  rw [getElem?_erase]
  split
  · next same => rw [same, h]
  · rfl

/-- The keys of the listed pairs are all different. -/
theorem nodup_keys (m : Std.ExtTreeMap α β cmp) : (m.toList.map Prod.fst).Nodup := by
  rw [List.Nodup, List.pairwise_map]
  refine m.distinct_keys_toList.imp fun different same => ?_
  exact different (by rw [same, Std.LawfulEqCmp.compare_eq_iff_eq])

/-- No pair is listed twice. -/
theorem nodup_toList (m : Std.ExtTreeMap α β cmp) : m.toList.Nodup :=
  (nodup_keys m).of_map Prod.fst

/-- A pair of a map can be drawn to the front of its list. -/
theorem toList_perm_cons_erase {m : Std.ExtTreeMap α β cmp} {key : α} {value : β}
    (h : m[key]? = some value) : m.toList.Perm ((key, value) :: (m.erase key).toList) := by
  classical
  have absent : (key, value) ∉ (m.erase key).toList := by
    rw [Std.ExtTreeMap.mem_toList_iff_getElem?_eq_some, getElem?_erase, if_pos rfl]
    exact Option.some_ne_none value ∘ Eq.symm
  rw [List.perm_ext_iff_of_nodup (nodup_toList m)
    (List.nodup_cons.mpr ⟨absent, nodup_toList _⟩)]
  rintro ⟨other, found⟩
  rw [List.mem_cons, Std.ExtTreeMap.mem_toList_iff_getElem?_eq_some,
    Std.ExtTreeMap.mem_toList_iff_getElem?_eq_some, getElem?_erase, Prod.mk.injEq]
  by_cases same : other = key
  · simp only [same, h, Option.some.injEq, if_true, true_and, reduceCtorEq, or_false, eq_comm]
  · simp only [same, false_and, false_or, if_false]

/-- An insertion puts its pair in the place of the pair with the same key. -/
theorem toList_insert_perm (m : Std.ExtTreeMap α β cmp) (key : α) (value : β) :
    (m.insert key value).toList.Perm ((key, value) :: (m.erase key).toList) := by
  classical
  have found : (m.insert key value)[key]? = some value := by rw [getElem?_insert, if_pos rfl]
  have same : (m.insert key value).erase key = m.erase key := by
    refine Std.ExtTreeMap.ext_getElem? fun other => ?_
    rw [getElem?_erase, getElem?_erase, getElem?_insert]
    split <;> rfl
  rw [← same]
  exact toList_perm_cons_erase found

end Forum.FiniteMap
