import Mathlib
import Forum.Proofs.Service.Words
import Forum.Proofs.World.Services

/-!
# Pages are slices

Which part of a listing a page has. A page that is asked for lies in the full order where counting
without a bound puts it: no product of words, no greatest offset and no page that is not asked for
changes that, because a listing has fewer posts than the greatest offset. So the pages of one size,
one after another, are the full order, and after the last of them there are only empty ones.
-/

namespace Forum.Listing

section paged

variable {α : Type}

/-- The pages of a given size. -/
def paged (listed : List α) (size : Nat) : List (List α) :=
  (List.range ((listed.length + size - 1) / size)).map fun k => (listed.drop (k * size)).take size

variable (listed : List α) {size : Nat}

/-- The first pages have the first posts. -/
theorem flatMap_range_slices (count : Nat) :
    ((List.range count).flatMap fun k => (listed.drop (k * size)).take size) =
      listed.take (count * size) := by
  induction count with
  | zero => rw [Nat.zero_mul]; rfl
  | succ count ih =>
    rw [List.range_succ, List.flatMap_append, ih, List.flatMap_singleton, Nat.succ_mul,
      List.take_add]

/-- The number of pages is large enough, and no larger than that. -/
theorem lt_pages_iff (hsize : 0 < size) (k : Nat) :
    k < (listed.length + size - 1) / size ↔ k * size < listed.length := by
  rw [Nat.lt_iff_add_one_le, Nat.le_div_iff_mul_le hsize, Nat.add_mul, Nat.one_mul]
  omega

/-- One after another, the pages are the whole list. -/
theorem flatten_paged (hsize : 0 < size) : (paged listed size).flatten = listed := by
  rw [paged, ← List.flatMap_def, flatMap_range_slices, List.take_of_length_le]
  have hlast := (lt_pages_iff listed hsize ((listed.length + size - 1) / size)).not
  omega

/-- No page is empty. -/
theorem nil_notMem_paged (hsize : 0 < size) : [] ∉ paged listed size := by
  rw [paged, List.mem_map]
  rintro ⟨k, hk, hempty⟩
  have hlt := (lt_pages_iff listed hsize k).1 (List.mem_range.1 hk)
  have hlength := congrArg List.length hempty
  rw [List.length_take, List.length_drop, List.length_nil] at hlength
  omega

/-- A page has the posts from its place on, none after the last page. -/
theorem getD_paged (hsize : 0 < size) (k : Nat) :
    (paged listed size).getD k [] = (listed.drop (k * size)).take size := by
  rw [List.getD_eq_getElem?_getD, paged, List.getElem?_map]
  by_cases hk : k < (listed.length + size - 1) / size
  · rw [List.getElem?_range hk]
    rfl
  · have hpast : listed.length ≤ k * size :=
      Nat.le_of_not_lt ((lt_pages_iff listed hsize k).not.1 hk)
    rw [List.getElem?_eq_none (by rw [List.length_range]; omega), List.drop_eq_nil_of_le hpast,
      List.take_nil]
    rfl

end paged

variable (listed : List Int64) {size : Nat}

/-- What lies within the bounds of a request is what its offset and its size say. -/
theorem within_eq_slice (preferred largest : UInt64) (request : Page.Request) :
    let bounds := request.resolve (.ofWords preferred largest)
    within listed bounds = (listed.drop bounds.offset).take bounds.size := by
  intro bounds
  obtain ⟨words, -, hwords⟩ := Page.resolveWords?_eq preferred largest request
  have hoffset : (UInt64.ofNat bounds.offset).toNat = bounds.offset := by
    rw [show bounds.offset = words.offset.toNat from congrArg Page.Bounds.offset hwords.symm,
      UInt64.ofNat_toNat]
  have hsize : (UInt64.ofNat bounds.size).toNat = bounds.size := by
    rw [show bounds.size = words.size.toNat from congrArg Page.Bounds.size hwords.symm,
      UInt64.ofNat_toNat]
  rw [within, hoffset, hsize]
  split
  · next hpast => rw [List.drop_eq_nil_of_le hpast, List.take_nil]
  · rfl

/-- That is what counting without a bound gives. -/
theorem slice_resolve (hfew : listed.length < 2 ^ 63) (request : Page.Request)
    (sizes : Page.Sizes) :
    let bounds := request.resolve sizes
    (listed.drop bounds.offset).take bounds.size =
      (listed.drop ((bounds.page - 1) * bounds.size)).take bounds.size := by
  intro bounds
  have hplace : bounds.offset = min ((bounds.page - 1) * bounds.size) (2 ^ 63 - 1) := rfl
  by_cases hpast : listed.length ≤ bounds.offset
  · have hbeyond : listed.length ≤ (bounds.page - 1) * bounds.size := by omega
    rw [List.drop_eq_nil_of_le hpast, List.drop_eq_nil_of_le hbeyond]
  · -- The offset is not the greatest one, because posts lie beyond it.
    have hexact : bounds.offset = (bounds.page - 1) * bounds.size := by omega
    rw [hexact]

/-- What stands in order in a list stands in order on its pages: each element of a page before each
element of a later one. -/
theorem rel_of_pages {R : Int64 → Int64 → Prop} (sorted : listed.Pairwise R) {k l : Nat} (h : k < l)
    {a b : Int64} (ha : a ∈ (listed.drop (k * size)).take size)
    (hb : b ∈ (listed.drop (l * size)).take size) : R a b := by
  have hnext : k * size + size ≤ l * size := by
    rw [← Nat.succ_mul]
    exact Nat.mul_le_mul_right size h
  have hpage : (listed.drop (k * size)).take size =
      (listed.take (k * size + size)).drop (k * size) := by
    rw [List.drop_take, Nat.add_sub_cancel_left]
  have hbefore : a ∈ listed.take (l * size) :=
    (List.take_sublist_take_left hnext).subset (List.mem_of_mem_drop (hpage ▸ ha))
  have hafter : b ∈ listed.drop (l * size) := List.mem_of_mem_take hb
  have hsplit : (listed.take (l * size) ++ listed.drop (l * size)).Pairwise R := by
    rwa [List.take_append_drop]
  exact (List.pairwise_append.1 hsplit).2.2 a hbefore b hafter

/-- Pages of a listing from sources that hold fewer than 2 ^ 63 posts. The hot listing has the
registered posts, each above those that follow it; the other one has the posts of the table, newest
first. Bringing a request into bounds is defined for all words, whatever the settings are, and a
page has exactly the posts at the places from `(page - 1) * size` up to `page * size` of its full
order, and its length as the total. So the pages one, two and so on that are not empty make up the
full order, and all later ones are empty. -/
theorem pages_are_slices {σ : Type} {answer : (e : Effect) → σ → Except Fault e.Reply × σ} {s : σ}
    {tally : Engagement.Tally} {ids : List Int64} (sources : Sources answer s tally ids)
    (few : tally.cardinality < 2 ^ 63 ∧ ids.length < 2 ^ 63) (settings : Rules)
    (preferred largest : UInt64) :
    let rules := { settings with sizes := .ofWords preferred largest }
    ((full tally ids .hot).Pairwise tally.Above ∧
      ∀ post, post ∈ full tally ids .hot ↔ (tally.scoreOf post).isSome) ∧
    ((full tally ids .newest).Pairwise (fun a b => b ≤ a) ∧ (full tally ids .newest).Perm ids) ∧
    (∀ request : Page.Request, ∃ words, request.resolveWords? preferred largest = some words ∧
      let bounds := words.toBounds
      1 ≤ bounds.page ∧ 1 ≤ bounds.size ∧ bounds.size ≤ max 1 largest.toNat ∧
      bounds.offset ≤ 2 ^ 63 - 1 ∧
      (list rules request).run.run answer s =
        (.ok ⟨(full tally ids bounds.order).extract ((bounds.page - 1) * bounds.size)
          (bounds.page * bounds.size), (full tally ids bounds.order).length, bounds⟩, s)) ∧
    ∀ limit order, ∃ pages : List (List Int64),
      pages.flatten = full tally ids (.ofText order) ∧ [] ∉ pages ∧
      ∀ number : Int64, 1 ≤ number.toInt → ∃ page,
        (list rules ⟨some number, limit, order⟩).run.run answer s = (.ok page, s) ∧
        page.ids = pages.getD (number.toInt.toNat - 1) [] := by
  intro rules
  have hfew : ∀ order, (full tally ids order).length < 2 ^ 63 := by
    intro order
    cases order with
    | hot => exact (length_full_hot tally ids).trans_lt few.1
    | newest => exact (length_full_newest tally ids).trans_lt few.2
  refine ⟨⟨tally.pairwise_ranking, fun post => Engagement.Tally.mem_ranking_iff⟩,
    ⟨pairwise_newestFirst ids, newestFirst_perm ids⟩, fun request => ?_, fun limit order => ?_⟩
  · obtain ⟨words, hdefined, hwords⟩ := Page.resolveWords?_eq preferred largest request
    refine ⟨words, hdefined, ?_⟩
    rw [hwords]
    intro bounds
    have hpage : 1 ≤ bounds.page := Page.page_resolve_pos request _
    have hsize : 1 ≤ bounds.size := Page.size_resolve_pos request _
    have hgreatest : bounds.size ≤ max 1 largest.toNat :=
      (Page.size_resolve_le request _).trans (le_of_eq (max_comm _ _))
    have hoffset : bounds.offset ≤ 2 ^ 63 - 1 := min_le_right _ _
    have hwidth : bounds.page * bounds.size - (bounds.page - 1) * bounds.size = bounds.size := by
      rw [← Nat.sub_mul, Nat.sub_sub_self hpage, Nat.one_mul]
    refine ⟨hpage, hsize, hgreatest, hoffset, ?_⟩
    rw [sources.run_list rules request, List.extract_eq_take_drop, hwidth,
      within_eq_slice, slice_resolve _ (hfew _)]
  · have hsame : ∀ page, ((Page.Request.mk page limit order).resolve rules.sizes).size =
      ((Page.Request.mk none limit order).resolve rules.sizes).size := fun _ => rfl
    have hsize := Page.size_resolve_pos ⟨none, limit, order⟩ rules.sizes
    refine ⟨paged _ _, flatten_paged _ hsize, nil_notMem_paged _ hsize, fun number hnumber => ?_⟩
    refine ⟨_, sources.run_list rules _, ?_⟩
    dsimp only
    rw [within_eq_slice, slice_resolve _ (hfew _), getD_paged _ hsize, hsame,
      Page.page_resolve_of_pos hnumber]
    rfl

/-- With settings that ask for pages of no post and allow two, a page has one post: the second one
has the second of the three that are ranked. -/
theorem pages_are_slices_of_three :
    let w := World.uneven
    let rules : Rules := ⟨true, 2000, 8, .ofWords 0 2⟩
    (w.tally.cardinality < 2 ^ 63 ∧ (w.tables.posts.map (·.id)).length < 2 ^ 63) ∧
    ∃ page, w.runService (list rules ⟨some 2, none, some "HOT"⟩) = (.ok page, w) ∧
      page.ids = [5] ∧ page.total = 3 := by
  intro w rules
  have hranking : w.tally.ranking = [7, 5, 8] := by cbv
  have few : w.tally.cardinality < 2 ^ 63 ∧ (w.tables.posts.map (·.id)).length < 2 ^ 63 := by
    decide
  have hpages := (pages_are_slices w.sources few rules 0 2).2.2.1 ⟨some 2, none, some "HOT"⟩
  obtain ⟨words, hwords, -, -, -, -, hrun⟩ := hpages
  obtain rfl : words = ⟨2, 1, 1, .hot⟩ := Option.some.inj (hwords.symm.trans rfl)
  refine ⟨few, _, hrun, ?_, ?_⟩
  · exact congrArg (fun listed => listed.extract 1 2) hranking
  · exact congrArg List.length hranking

end Forum.Listing
